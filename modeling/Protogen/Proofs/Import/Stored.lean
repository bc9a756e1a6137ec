import Protogen.Proofs.Import.File

/-!
# What the resolution of a file stores

A file is read with a line feed for every line end, and what is resolved is the text that is read.
So the ends of the lines are lost where an import changes, although the resolution of a text keeps
them.

* `resolveLine_folded` and `resolveText_foldEndings_iff`: the lines that are read are resolved as
  the lines of the stored text are.
* `resolveFile_stores` is what is stored afterwards, and when it is the resolved text of what was
  stored before: where no import changes, and for texts without carriage returns.
-/

set_option autoImplicit false

namespace Protogen.Import

open Text

variable {r : Resolver} {directory root file : Path} {modules : List Module} {w w' : Workspace}

/-- Whether lines are read as they are depends on their endings. -/
theorem forall_folded_iff_of_edges {ls ls' : List Line} (h : List.Forall₂ SameEdges ls ls') :
    (∀ l ∈ ls', l.folded = l) ↔ ∀ l ∈ ls, l.folded = l := by
  induction h with
  | nil => simp
  | @cons l l' _ _ hl _ ih =>
    have hfirst : l'.folded = l' ↔ l.folded = l := by
      obtain ⟨content, ending⟩ := l
      obtain ⟨content', ending'⟩ := l'
      obtain rfl : ending' = ending := hl.ending
      simp [Line.folded]
    simp only [List.forall_mem_cons, hfirst, ih]

namespace Resolver

/-- A line that is read with a line feed for its end is resolved as the line itself. -/
theorem resolveLine_folded (r : Resolver) (directory : Path) (l : Line) :
    r.resolveLine directory l.folded = (r.resolveLine directory l).map Line.folded := by
  have hfound : statementIn directory l.folded = statementIn directory l := rfl
  unfold resolveLine
  rw [hfound]
  -- what the check of a statement does is not looked at
  generalize r.checked = checked
  cases statementIn directory l with
  | error cause => rfl
  | ok found =>
    cases found with
    | none => rfl
    | some s =>
      change (checked s >>= _) = (checked s >>= _).map _
      cases checked s <;> rfl

/-- The text that is read resolves to the lines of the stored one, each with a line feed for its
end. -/
theorem resolveText_foldEndings_iff {text result : String} :
    r.resolveText directory (String.ofList (foldEndings text.toList)) = .ok result ↔
      ∃ ls, List.Forall₂ (fun l l' => r.resolveLine directory l = .ok l') (lines text.toList) ls ∧
        result.toList = unlines (ls.map Line.folded) := by
  rw [resolveText_eq_ok_iff, String.toList_ofList, lines_foldEndings]
  constructor
  · rintro ⟨ls', hall, hresult⟩
    rw [List.forall₂_map_left_iff] at hall
    have hresolved : ∀ l ∈ lines text.toList, ∃ l', r.resolveLine directory l = .ok l' := by
      intro l hl
      obtain ⟨i, hi, rfl⟩ := List.getElem_of_mem hl
      have hline := hall.get hi (hall.length_eq ▸ hi)
      rw [List.get_eq_getElem, resolveLine_folded] at hline
      cases hl' : r.resolveLine directory (lines text.toList)[i] with
      | error failure =>
        rw [hl'] at hline
        cases hline
      | ok l' => exact ⟨l', rfl⟩
    obtain ⟨ls, hls⟩ := exists_mapM_iff.2 hresolved
    rw [mapM_eq_ok_iff] at hls
    refine ⟨ls, hls, ?_⟩
    -- both lists are the results of the same lines
    have hsame : ls' = ls.map Line.folded := by
      refine List.ext_getElem ?_ fun i hi hi' => ?_
      · rw [List.length_map, ← hall.length_eq, ← hls.length_eq]
      · have hil : i < (lines text.toList).length := hall.length_eq ▸ hi
        have hfolded := hall.get hil hi
        have hline := hls.get hil (by simpa using hi')
        simp only [List.get_eq_getElem] at hfolded hline
        rw [resolveLine_folded, hline] at hfolded
        rw [List.getElem_map]
        exact (Except.ok.inj hfolded).symm
    rw [hresult, hsame]
  · rintro ⟨ls, hall, hresult⟩
    refine ⟨ls.map Line.folded, ?_, hresult⟩
    rw [List.forall₂_map_left_iff, List.forall₂_map_right_iff]
    refine hall.imp fun l l' hl => ?_
    rw [resolveLine_folded, hl]
    rfl

/-- Line ends do not matter to whether a text stays as it is. -/
theorem resolveText_self_foldEndings_iff {text : String} :
    r.resolveText directory (String.ofList (foldEndings text.toList)) =
        .ok (String.ofList (foldEndings text.toList)) ↔
      r.resolveText directory text = .ok text := by
  refine ⟨fun h => ?_, resolveText_self_foldEndings⟩
  rw [resolveText_self_iff] at h ⊢
  intro l hl
  have hread : l.folded ∈ lines (String.ofList (foldEndings text.toList)).toList := by
    rw [String.toList_ofList, lines_foldEndings]
    exact List.mem_map_of_mem hl
  have hcontent : l.folded.content = l.content := rfl
  exact (resolveLine_self_congr hcontent).1 (h l.folded hread)

end Resolver

/-- The resolution of a file stores the resolved lines of what was stored, each with a line feed for
its end if an import changed; that is the resolved text only if no import changed or nothing was
stored with a carriage return. -/
theorem resolveFile_stores {changed : Bool}
    (h : (resolveFile root modules file).run w = (.ok changed, w')) :
    ∃ before resolved after, w.files.stored file = .ok before ∧
      (resolverFor w.files root modules).resolveText file.parent before = .ok resolved ∧
      w'.files.stored file = .ok after ∧ (changed = true ↔ resolved ≠ before) ∧
      (∃ ls, List.Forall₂ SameEdges (lines before.toList) ls ∧ resolved.toList = unlines ls ∧
        after.toList = unlines (if changed then ls.map Line.folded else ls)) ∧
      (after = resolved ↔ changed = false ∨ '\r' ∉ before.toList) := by
  obtain ⟨text, result, hread, hresult, hchanged, hstored⟩ := run_resolveFile_eq_ok h
  obtain ⟨before, hbefore, rfl⟩ := FileTree.readText_eq_ok_iff.1 hread
  obtain ⟨ls, hall, hlines⟩ := Resolver.resolveText_foldEndings_iff.1 hresult
  have hedges : List.Forall₂ SameEdges (lines before.toList) ls :=
    hall.imp fun _ _ => Resolver.sameEdges_resolveLine
  have hresolved : (resolverFor w.files root modules).resolveText file.parent before =
      .ok (String.ofList (unlines ls)) :=
    Resolver.resolveText_eq_ok_iff.2 ⟨ls, hall, String.toList_ofList⟩
  have hchanged' : changed = true ↔ String.ofList (unlines ls) ≠ before := by
    have hself : (resolverFor w.files root modules).resolveText file.parent
          (String.ofList (foldEndings before.toList)) =
            .ok (String.ofList (foldEndings before.toList)) ↔
        (resolverFor w.files root modules).resolveText file.parent before = .ok before :=
      Resolver.resolveText_self_foldEndings_iff
    rw [hresult, hresolved, Except.ok.injEq, Except.ok.injEq] at hself
    exact hchanged.trans (not_congr hself)
  cases changed with
  | false =>
    have hkept : String.ofList (unlines ls) = before := by simpa using hchanged'
    refine ⟨before, _, before, hbefore, hresolved, ?_, hchanged', ⟨ls, hedges, String.toList_ofList,
      ?_⟩, ?_⟩
    · rw [show w'.files = w.files from hstored]
      exact hbefore
    · rw [← hkept]
      exact String.toList_ofList
    · simp [hkept]
  | true =>
    have hafter := FileTree.stored_writeText hbefore hstored
    refine ⟨before, _, result, hbefore, hresolved, hafter, hchanged', ⟨ls, hedges,
      String.toList_ofList, hlines⟩, ?_⟩
    rw [← String.toList_inj, String.toList_ofList, hlines, unlines_map_folded_eq_iff]
    rw [forall_folded_iff_of_edges hedges, ← unlines_map_folded_eq_iff, ← lines_foldEndings,
      unlines_lines, unlines_lines, foldEndings_eq_self_iff]
    simp

/-! ### A file with carriage returns -/

/-- A file with a missing import, in which lines end with carriage returns. -/
def returnedText : String := "let any = require('./google/protobuf/any_pb.js');\r\nlet x = 1;\r"

/-- The resolved text, with the same line ends. -/
def returnedResult : String :=
  "let any = require('google-protobuf/google/protobuf/any_pb.js');\r\nlet x = 1;\r"

/-- What is stored. -/
def returnedStored : String :=
  "let any = require('google-protobuf/google/protobuf/any_pb.js');\nlet x = 1;\n"

/-- The tree of the file. -/
def returnedTree : FileTree := ⟨[], [(["x.js"], .file returnedText)]⟩

theorem resolveFile_stores_returned :
    ∃ w', (resolveFile (Path.read "gen") Resolver.sampleResolver.modules (Path.read "x.js")).run
        { files := returnedTree } = (.ok true, w') ∧
      returnedTree.stored (Path.read "x.js") = .ok returnedText ∧
      (resolverFor returnedTree (Path.read "gen") Resolver.sampleResolver.modules).resolveText
        (Path.read "x.js").parent returnedText = .ok returnedResult ∧
      w'.files.stored (Path.read "x.js") = .ok returnedStored ∧ returnedStored ≠ returnedResult := by
  obtain ⟨w', hw'⟩ : ∃ w', w' = ((resolveFile (Path.read "gen") Resolver.sampleResolver.modules
      (Path.read "x.js")).run { files := returnedTree }).2 := ⟨_, rfl⟩
  have hchanged : ((resolveFile (Path.read "gen") Resolver.sampleResolver.modules
      (Path.read "x.js")).run { files := returnedTree }).1 = .ok true := by
    decide +kernel
  have hrun : (resolveFile (Path.read "gen") Resolver.sampleResolver.modules
      (Path.read "x.js")).run { files := returnedTree } = (.ok true, w') :=
    Prod.ext hchanged hw'.symm
  have hbefore : returnedTree.stored (Path.read "x.js") = .ok returnedText := by
    decide +kernel
  have hresolved : (resolverFor returnedTree (Path.read "gen")
      Resolver.sampleResolver.modules).resolveText (Path.read "x.js").parent returnedText =
        .ok returnedResult := by
    decide +kernel
  have hstored : w'.files.stored (Path.read "x.js") = .ok returnedStored := by
    rw [hw']
    decide +kernel
  refine ⟨w', hrun, hbefore, hresolved, hstored, ?_⟩
  obtain ⟨before, resolved, after, hbefore', hresolved', hstored', -, -, hkept⟩ :=
    resolveFile_stores hrun
  obtain rfl := Except.ok.inj (hbefore.symm.trans hbefore')
  obtain rfl := Except.ok.inj (hresolved.symm.trans hresolved')
  obtain rfl := Except.ok.inj (hstored.symm.trans hstored')
  rw [Ne, hkept]
  decide

end Protogen.Import
