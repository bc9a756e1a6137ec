import Protogen.Import.File
import Protogen.Proofs.FileTree
import Protogen.Proofs.Import.Replacement
import Protogen.Proofs.Session

/-!
# Resolution of the imports of a file

* `run_resolveFile_eq_ok` is what a resolution that completes does to a file.
* `KeepsLines` compares two trees by the lines of their files that begin no import; the resolution
  of the imports of a file keeps them (`keepsLines_resolveFile`).
* `IsStill` are the texts that a resolution leaves as they are; they may be put together from lines
  (`IsStill.append`, `IsStill.of_lines`, `IsStill.of_import`). A file with such a text is not written
  (`run_resolveFile_self`); what can be resolved is stored (`exists_run_resolveFile`).
-/

set_option autoImplicit false

namespace Protogen

open Text

/-- A line of code that stays where it is: it has no boundary of lines in it and begins no
import. -/
structure IsSettledLine (line : String) : Prop where
  unbroken : isUnbroken line.toList = true
  noImport : occurs Import.opening.toList line.toList = false

instance (line : String) : Decidable (IsSettledLine line) :=
  decidable_of_iff
    (isUnbroken line.toList = true ∧ occurs Import.opening.toList line.toList = false)
    ⟨fun h => ⟨h.1, h.2⟩, fun h => ⟨h.unbroken, h.noImport⟩⟩

/-- The lines without import of the files of the first tree are lines of the same files of the
second. -/
structure KeepsLines (t u : FileTree) : Prop where
  workingDirectory : u.workingDirectory = t.workingDirectory
  lines : ∀ l line, occurs Import.opening.toList line.toList = false →
    HasLine line (t.content l) → HasLine line (u.content l)

namespace KeepsLines

variable {t u v : FileTree}

theorem refl (t : FileTree) : KeepsLines t t := ⟨rfl, fun _ _ _ h => h⟩

theorem trans (h : KeepsLines t u) (h' : KeepsLines u v) : KeepsLines t v :=
  ⟨h'.workingDirectory.trans h.workingDirectory,
    fun l line hplain hline => h'.lines l line hplain (h.lines l line hplain hline)⟩

end KeepsLines

namespace Import

variable {r : Resolver} {directory root path : Path} {modules : List Module} {w w' : Workspace}

/-- The steps of a resolution: what is read is resolved, and stored if it changes. -/
theorem run_resolveFile_eq_ok {changed : Bool}
    (h : (resolveFile root modules path).run w = (.ok changed, w')) :
    ∃ text resolved, w.files.readText path = .ok text ∧
      (resolverFor w.files root modules).resolveText path.parent text = .ok resolved ∧
      (changed = true ↔ resolved ≠ text) ∧
      if changed then w.files.writeText path resolved = .ok w'.files else w'.files = w.files := by
  obtain ⟨_, _, hnote, h⟩ := Session.run_bind_eq_ok.1 h
  obtain rfl := Session.run_note_eq_ok.1 hnote
  obtain ⟨text, _, hread, h⟩ := Session.run_bind_eq_ok.1 h
  obtain ⟨rfl, htext⟩ := Session.of_run_readText hread
  obtain ⟨_, _, hget, h⟩ := Session.run_bind_eq_ok.1 h
  cases hget
  obtain ⟨_, _, hnote, h⟩ := Session.run_bind_eq_ok.1 h
  obtain rfl := Session.run_note_eq_ok.1 hnote
  obtain ⟨resolved, _, hdemand, h⟩ := Session.run_bind_eq_ok.1 h
  obtain ⟨hresolved, rfl⟩ := Session.run_demand_eq_ok.1 hdemand
  refine ⟨text, resolved, htext, hresolved, ?_⟩
  split at h
  · rename_i hsame
    cases h
    exact ⟨by simp [hsame], rfl⟩
  · rename_i hne
    obtain ⟨_, _, hwrite, h⟩ := Session.run_bind_eq_ok.1 h
    cases h
    exact ⟨by simp [hne], Session.files_of_run_change hwrite⟩

/-- Resolving the imports of a file keeps its lines without import, and the other files. -/
theorem keepsLines_resolveFile {changed : Bool}
    (h : (resolveFile root modules path).run w = (.ok changed, w')) :
    KeepsLines w.files w'.files := by
  obtain ⟨text, resolved, htext, hresolved, -, hfiles⟩ := run_resolveFile_eq_ok h
  cases changed with
  | false =>
    have hsame : w'.files = w.files := hfiles
    rw [hsame]
    exact .refl _
  | true =>
    obtain ⟨hdirectory, hcontent⟩ := FileTree.content_of_modifyText hfiles
    refine ⟨hdirectory, fun l line hplain hline => ?_⟩
    rw [hcontent]
    by_cases hl : l = w.files.destination path
    · subst hl
      rw [if_pos rfl]
      have hfolded := hline.foldEndings
      rw [← FileTree.readText_eq_ok htext] at hfolded
      exact Resolver.hasLine_of_resolveText hresolved hfolded hplain
    · rw [if_neg hl]
      exact hline

/-! ## Texts without anything to resolve -/

/-- A text of whole lines that a resolution leaves as it is. -/
structure IsStill (r : Resolver) (directory : Path) (text : String) : Prop where
  fed : text = "" ∨ text.toList.getLast? = some '\n'
  same : r.resolveText directory text = .ok text

namespace IsStill

variable {text rest line : String}

theorem append (htext : IsStill r directory text) (hrest : IsStill r directory rest) :
    IsStill r directory (text ++ rest) := by
  rcases htext.fed with rfl | hfed
  · rw [String.empty_append]
    exact hrest
  · constructor
    · rcases hrest.fed with rfl | hfed'
      · rw [String.append_empty]
        exact .inr hfed
      · exact .inr (IsFed.append text hfed')
    · have htextLines := Resolver.resolveText_self_iff.1 htext.same
      have hrestLines := Resolver.resolveText_self_iff.1 hrest.same
      rw [Resolver.resolveText_self_iff]
      intro l hl
      rw [String.toList_append, lines_append_of_isFed hfed, List.mem_append] at hl
      exact hl.elim (htextLines l) (hrestLines l)

/-- A line that stays as it is. -/
theorem of_unbroken (hline : isUnbroken line.toList = true)
    (hself : r.resolveLine directory ⟨line.toList, ['\n']⟩ = .ok ⟨line.toList, ['\n']⟩) :
    IsStill r directory (line ++ "\n") := by
  refine ⟨.inr (isFed_feed line), Resolver.resolveText_self_iff.2 fun l hl => ?_⟩
  rw [lines_feed hline, List.mem_singleton] at hl
  rw [hl]
  exact hself

/-- A line that begins no import. -/
theorem of_line (h : IsSettledLine line) : IsStill r directory (line ++ "\n") := by
  refine of_unbroken h.unbroken (Resolver.resolveLine_eq_ok_iff.2 (.inl ⟨?_, rfl⟩))
  rw [Resolver.statementIn, isDeclaredIn, h.noImport]
  rfl

/-- A line with an import that a resolution leaves as it is. -/
theorem of_import {before path after : String} (hbefore : isClean before.toList = true)
    (hpath : isClean path.toList = true) (hafter : isUnbroken after.toList = true)
    (hs : r.checked ⟨directory, before ++ opening, path, closing ++ after⟩ =
      .ok ⟨directory, before ++ opening, path, closing ++ after⟩) :
    IsStill r directory (before ++ opening ++ path ++ (closing ++ after) ++ "\n") := by
  refine of_unbroken (isUnbroken_import hbefore hpath hafter)
    (Resolver.resolveLine_self_iff.2 fun _ h => .inr ⟨_, ?_, hs⟩)
  rw [← h]
  exact statementIn_append after _ hbefore hpath

/-- Lines that begin no import. -/
theorem of_lines {texts : List String} (hne : texts ≠ []) (h : ∀ text ∈ texts, IsSettledLine text) :
    IsStill r directory (String.intercalate "\n" texts ++ "\n") := by
  induction texts with
  | nil => exact absurd rfl hne
  | cons text texts ih =>
    have htext : IsStill r directory (text ++ "\n") := of_line (h text (List.mem_cons_self ..))
    cases texts with
    | nil => exact htext
    | cons next texts =>
      have hrest := ih (List.cons_ne_nil _ _) fun t ht => h t (List.mem_cons_of_mem _ ht)
      rw [String.intercalate_cons_cons, String.append_assoc]
      exact htext.append hrest

end IsStill

/-- Line ends do not matter to a resolution. -/
theorem resolveText_self_foldEndings {text : String}
    (h : r.resolveText directory text = .ok text) :
    r.resolveText directory (String.ofList (foldEndings text.toList)) =
      .ok (String.ofList (foldEndings text.toList)) := by
  rw [Resolver.resolveText_self_iff] at h ⊢
  intro l hl
  rw [String.toList_ofList, lines_foldEndings] at hl
  obtain ⟨line, hline, rfl⟩ := List.mem_map.1 hl
  have hcontent : line.folded.content = line.content := rfl
  exact (Resolver.resolveLine_self_congr hcontent).2 (h line hline)

/-- Where a text is read and resolved, it is left to store it. -/
theorem run_resolveFile {text resolved : String} (hread : w.files.readText path = .ok text)
    (hresolved : (resolverFor w.files root modules).resolveText path.parent text = .ok resolved) :
    ∃ records, ∀ {changed : Bool} {v : Workspace},
      (if resolved = text then pure false
        else do
          Session.writeText path resolved
          pure true : Session Bool).run { w with records := records } = (.ok changed, v) →
        (resolveFile root modules path).run w = (.ok changed, v) := by
  refine ⟨w.records ++ [.resolving path] ++
    (resolverFor w.files root modules).textTrail path.parent text, fun hstore => ?_⟩
  refine Session.run_bind_eq_ok.2 ⟨(), _, Session.run_note .., ?_⟩
  refine Session.run_bind_eq_ok.2 ⟨text, _, Session.run_readText hread, ?_⟩
  refine Session.run_bind_eq_ok.2 ⟨_, _, rfl, Session.run_bind_eq_ok.2 ⟨(), _, Session.run_note .., ?_⟩⟩
  exact Session.run_bind_eq_ok.2 ⟨resolved, _, Session.run_demand_eq_ok.2 ⟨hresolved, rfl⟩, hstore⟩

/-- A file without anything to resolve is not written. -/
theorem run_resolveFile_self {text : String} (hread : w.files.readText path = .ok text)
    (hself : (resolverFor w.files root modules).resolveText path.parent text = .ok text) :
    ∃ v, (resolveFile root modules path).run w = (.ok false, v) ∧ v.files = w.files := by
  obtain ⟨records, hrun⟩ := run_resolveFile hread hself
  refine ⟨{ w with records := records }, hrun ?_, rfl⟩
  rw [if_pos rfl]
  rfl

/-- A file is resolved in place if each of its imports can be resolved. -/
theorem exists_run_resolveFile {text resolved : String} (hread : w.files.readText path = .ok text)
    (hresolved : (resolverFor w.files root modules).resolveText path.parent text = .ok resolved) :
    ∃ changed v, (resolveFile root modules path).run w = (.ok changed, v) := by
  obtain ⟨records, hrun⟩ := run_resolveFile hread hresolved
  by_cases hself : resolved = text
  · refine ⟨false, { w with records := records }, hrun ?_⟩
    rw [if_pos hself]
    rfl
  · obtain ⟨old, hold, -⟩ := FileTree.readText_eq_ok_iff.1 hread
    obtain ⟨l, hlocate, hfind⟩ := FileTree.stored_eq_ok.1 hold
    have hwrite : ∃ files, w.files.writeText path resolved = .ok files :=
      ⟨_, FileTree.modifyText_eq_ok_iff.2 ⟨l, hlocate, by simp [hfind], rfl⟩⟩
    obtain ⟨files, hfiles⟩ := hwrite
    refine ⟨true, { files := files, records := records }, hrun ?_⟩
    rw [if_neg hself]
    exact Session.run_bind_eq_ok.2 ⟨(), _, Session.run_change hfiles, rfl⟩

end Import

end Protogen
