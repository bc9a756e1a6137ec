import Protogen.Proofs.FileTree.Alike
import Protogen.Proofs.Import.File

/-!
# Stored texts with resolved imports

* `Resolver.rewrite` is what becomes of a stored text when its imports are resolved.
* `Rewrites` relates the trees before and after the resolution of a file: they have the same shape,
  and only the text of this file is another one (`resolveFile_rewrites`).
-/

set_option autoImplicit false

namespace Protogen

open FileTree

namespace Import

variable {root path : Path} {modules : List Module} {w w' : Workspace}

/-- A stored text with its imports resolved in a directory: where one changes, it is read with line
feeds for all line ends. -/
def Resolver.rewrite (r : Resolver) (directory : Path) (content : String) : Except Failure String :=
  let text := String.ofList (Text.foldEndings content.toList)
  (r.resolveText directory text).map fun resolved => if resolved = text then content else resolved

theorem Resolver.rewrite_eq_ok_iff {r : Resolver} {directory : Path} {content new : String} :
    r.rewrite directory content = .ok new ↔
      ∃ resolved,
        r.resolveText directory (String.ofList (Text.foldEndings content.toList)) = .ok resolved ∧
        new = if resolved = String.ofList (Text.foldEndings content.toList) then content
          else resolved := by
  unfold Resolver.rewrite
  rw [map_eq_ok]
  simp only [eq_comm]

/-- One tree is the other one with the imports of a file resolved. -/
structure Rewrites (r : Resolver) (t : FileTree) (path : Path) (u : FileTree) : Prop where
  sameShape : SameShape t u
  other : ∀ l, l ≠ t.destination path → u.find? l = t.find? l
  text : ∃ old new, t.find? (t.destination path) = some (.file old) ∧
    r.rewrite path.parent old = .ok new ∧ u.find? (t.destination path) = some (.file new)

theorem resolveFile_rewrites {changed : Bool}
    (h : (resolveFile root modules path).run w = (.ok changed, w')) :
    Rewrites (resolverFor w.files root modules) w.files path w'.files := by
  obtain ⟨text, resolved, htext, hresolved, hchanged, hfiles⟩ := run_resolveFile_eq_ok h
  obtain ⟨old, hold, rfl⟩ := readText_eq_ok_iff.1 htext
  obtain ⟨l, hlocate, hfind⟩ := stored_eq_ok.1 hold
  obtain rfl := locate_eq_ok hlocate
  cases changed with
  | false =>
    have hsame : w'.files = w.files := hfiles
    have hself : resolved = String.ofList (Text.foldEndings old.toList) := by
      simpa using hchanged
    rw [hsame]
    refine ⟨.refl _, fun _ _ => rfl, old, old, hfind, ?_, hfind⟩
    exact Resolver.rewrite_eq_ok_iff.2 ⟨resolved, hresolved, (if_pos hself).symm⟩
  | true =>
    obtain ⟨l, hlocate', hfree, hput⟩ := modifyText_eq_ok_iff.1 hfiles
    obtain rfl := locate_eq_ok hlocate'
    have hne := ne_nil_of_find?_ne hfree
    have hother : resolved ≠ String.ofList (Text.foldEndings old.toList) := hchanged.1 rfl
    rw [hput]
    refine ⟨sameShape_put_file hfind, fun l hl => ?_, old, resolved, hfind, ?_, ?_⟩
    · rw [find?_put _ _ hne, if_neg hl]
    · exact Resolver.rewrite_eq_ok_iff.2 ⟨resolved, hresolved, (if_neg hother).symm⟩
    · rw [find?_put _ _ hne, if_pos rfl]

end Import

end Protogen
