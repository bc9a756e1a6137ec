import Protogen.Import.File
import Protogen.Proofs.FileTree

/-!
# Trees that are alike

* `SameShape` relates trees with files and directories at the same locations, whatever the texts.
  Paths lead to the same places in them, so imports are resolved alike (`SameShape.resolverFor`).
* `SameNodes` relates trees with the same nodes, in whatever order they came there. Nothing that
  looks at a tree or stores a text tells them apart.
-/

set_option autoImplicit false

namespace Protogen

/-- Whether a node is a directory. -/
def Node.isDirectory : Node → Bool
  | .file _ => false
  | .directory => true

namespace FileTree

variable {t u v : FileTree} {l k : Location} {p : Path}

/-! ## Shape -/

/-- Two trees with files and directories at the same locations. -/
structure SameShape (t u : FileTree) : Prop where
  workingDirectory : u.workingDirectory = t.workingDirectory
  kind : ∀ l, (u.find? l).map Node.isDirectory = (t.find? l).map Node.isDirectory

namespace SameShape

theorem refl (t : FileTree) : SameShape t t := ⟨rfl, fun _ => rfl⟩

theorem trans (h : SameShape t u) (h' : SameShape u v) : SameShape t v :=
  ⟨h'.workingDirectory.trans h.workingDirectory, fun l => (h'.kind l).trans (h.kind l)⟩

theorem symm (h : SameShape t u) : SameShape u t :=
  ⟨h.workingDirectory.symm, fun l => (h.kind l).symm⟩

theorem destination (h : SameShape t u) (p : Path) : u.destination p = t.destination p :=
  destination_eq_of_workingDirectory h.workingDirectory p

/-- Nothing, a file or a directory is at a location in both trees. -/
theorem cases (h : SameShape t u) (l : Location) :
    (u.find? l = none ∧ t.find? l = none) ∨
      (∃ new old, u.find? l = some (.file new) ∧ t.find? l = some (.file old)) ∨
      (u.find? l = some .directory ∧ t.find? l = some .directory) := by
  have hkind := h.kind l
  rcases hu : u.find? l with _ | new | _ <;> rcases ht : t.find? l with _ | old | _ <;>
    rw [hu, ht] at hkind
  all_goals first
    | exact .inl ⟨rfl, rfl⟩
    | exact .inr (.inl ⟨new, old, rfl, rfl⟩)
    | exact .inr (.inr ⟨rfl, rfl⟩)
    | cases hkind

theorem walk (h : SameShape t u) (l : Location) (names : List String) :
    u.walk l names = t.walk l names := by
  induction names generalizing l with
  | nil => rfl
  | cons name names ih =>
    rw [FileTree.walk, FileTree.walk]
    rcases h.cases l with ⟨hu, ht⟩ | ⟨_, _, hu, ht⟩ | ⟨hu, ht⟩
    · rw [hu, ht]
    · rw [hu, ht]
    · simp only [hu, ht, ih]

theorem locate (h : SameShape t u) (p : Path) : u.locate p = t.locate p := by
  unfold FileTree.locate origin
  rw [h.workingDirectory, h.walk]

theorem lookFault? (h : SameShape t u) (p : Path) : u.lookFault? p = t.lookFault? p := by
  unfold FileTree.lookFault?
  rw [h.locate]

theorem isSome_find? (h : SameShape t u) (l : Location) :
    (u.find? l).isSome = (t.find? l).isSome := by
  have hkind := congrArg Option.isSome (h.kind l)
  rwa [Option.isSome_map, Option.isSome_map] at hkind

theorem isPresent (h : SameShape t u) (p : Path) : u.isPresent p = t.isPresent p := by
  unfold FileTree.isPresent nodeAt?
  rw [h.locate]
  cases t.locate p with
  | error fault => rfl
  | ok l => exact h.isSome_find? l

/-- Imports are resolved alike. -/
theorem resolverFor (h : SameShape t u) (root : Path) (modules : List Import.Module) :
    Import.resolverFor u root modules = Import.resolverFor t root modules := by
  unfold Import.resolverFor
  rw [h.workingDirectory, funext h.isPresent, funext h.lookFault?]

/-- A path leads to the same text if the same node is at its destination. -/
theorem stored (h : SameShape t u) (hfind : u.find? (t.destination p) = t.find? (t.destination p)) :
    u.stored p = t.stored p := by
  unfold FileTree.stored
  rw [h.locate]
  cases hlocate : t.locate p with
  | error fault => rfl
  | ok l =>
    obtain rfl := locate_eq_ok hlocate
    simp only [bind, Except.bind, hfind]

end SameShape

/-- A file that is replaced by another one leaves the shape as it is. -/
theorem sameShape_put_file {old text : String} (h : t.find? l = some (.file old)) :
    SameShape t (t.put l (.file text)) := by
  refine ⟨rfl, fun k => ?_⟩
  rw [find?_put t _ (ne_nil_of_find?_ne (t := t) (by simp [h]))]
  by_cases hk : k = l
  · rw [if_pos hk, hk, h]
    rfl
  · rw [if_neg hk]

/-! ## Nodes -/

/-- Two trees with the same nodes. -/
structure SameNodes (t u : FileTree) : Prop where
  workingDirectory : u.workingDirectory = t.workingDirectory
  find? : ∀ l, u.find? l = t.find? l

namespace SameNodes

theorem sameShape (h : SameNodes t u) : SameShape t u :=
  ⟨h.workingDirectory, fun l => by rw [h.find?]⟩

theorem content (h : SameNodes t u) (l : Location) : u.content l = t.content l := by
  rw [FileTree.content, FileTree.content, h.find?]

theorem put (h : SameNodes t u) (hl : l ≠ []) (node : Node) :
    SameNodes (t.put l node) (u.put l node) := by
  refine ⟨h.workingDirectory, fun k => ?_⟩
  rw [find?_put u node hl, find?_put t node hl, h.find?]

theorem readText (h : SameNodes t u) (p : Path) : u.readText p = t.readText p := by
  unfold FileTree.readText stored
  rw [h.sameShape.locate, funext h.find?]

/-- A text is stored in both or in none. -/
theorem modifyText (h : SameNodes t u) {f : String → String} {t' : FileTree}
    (ht : t.modifyText p f = .ok t') : ∃ u', u.modifyText p f = .ok u' ∧ SameNodes t' u' := by
  obtain ⟨l, hl, hfind, rfl⟩ := modifyText_eq_ok_iff.1 ht
  refine ⟨u.put l (.file (f (u.content l))), modifyText_eq_ok_iff.2 ⟨l, ?_, ?_, rfl⟩, ?_⟩
  · rw [h.sameShape.locate, hl]
  · rw [h.find?]
    exact hfind
  · rw [h.content]
    exact h.put (ne_nil_of_find?_ne hfind) _

end SameNodes

end FileTree

end Protogen
