import Protogen.Proofs.Failure
import Protogen.Proofs.Import.Module

/-!
# A second resolution

* `resolveText_self_iff` and `resolveText_result_iff` take a second resolution of a text apart
  into its lines.
* `IsRestless` tells for which imports a second resolution does not leave the result of the first
  as it is; by `resolveText_idempotent_iff` a text is resolved once and for all exactly if it has
  none of these.
* `resolveText_result_of_isPackage` is the case of modules with names of packages, in which there
  are none.
-/

set_option autoImplicit false

namespace Protogen.Import

open Text

namespace Resolver

variable {r : Resolver} {directory : Path} {line line' : Line} {s u : Statement}

/-! ## Lines -/

theorem resolveLine_eq_ok_iff :
    r.resolveLine directory line = .ok line' ↔
      (statementIn directory line = .ok none ∧ line' = line) ∨
      ∃ s u, statementIn directory line = .ok (some s) ∧ r.checked s = .ok u ∧
        line' = ⟨u.text.toList, line.ending⟩ := by
  unfold resolveLine
  rw [bind_eq_ok]
  constructor
  · rintro ⟨found, hfound, h⟩
    rw [failing_eq_ok] at hfound
    cases found with
    | none =>
      cases h
      exact .inl ⟨hfound, rfl⟩
    | some s =>
      obtain ⟨u, hu, h⟩ := bind_eq_ok.1 h
      cases h
      exact .inr ⟨s, u, hfound, hu, rfl⟩
  · rintro (⟨hfound, rfl⟩ | ⟨s, u, hfound, hu, rfl⟩)
    · exact ⟨none, failing_eq_ok.2 hfound, rfl⟩
    · exact ⟨some s, failing_eq_ok.2 hfound, bind_eq_ok.2 ⟨u, hu, rfl⟩⟩

/-- A result with the text of the statement is the statement. -/
theorem eq_of_text_eq (h : r.checked s = .ok u) (htext : u.text = s.text) : u = s := by
  obtain ⟨-, hresolve⟩ := checked_eq_ok_iff.1 h
  obtain ⟨path, hpath⟩ := r.exists_resolve s
  rw [hpath] at hresolve
  subst hresolve
  have hsame : path = s.path := by
    rw [← String.toList_inj]
    have htexts := congrArg String.toList htext
    simpa [Statement.text, Statement.replacePath] using htexts
  rw [hsame]
  rfl

/-- A line stays as it is if its import, if there is one, resolves to itself. -/
theorem resolveLine_self_iff :
    r.resolveLine directory line = .ok line ↔
      ∀ found, statementIn directory line = found →
        found = .ok none ∨ ∃ s, found = .ok (some s) ∧ r.checked s = .ok s := by
  rw [resolveLine_eq_ok_iff]
  constructor
  · rintro (⟨hfound, -⟩ | ⟨s, u, hfound, hu, hline⟩) found rfl
    · exact .inl hfound
    · have htext : u.text = s.text := by
        rw [← String.toList_inj, text_of_statementIn hfound]
        exact (congrArg Line.content hline).symm
      obtain rfl := eq_of_text_eq hu htext
      exact .inr ⟨u, hfound, hu⟩
  · intro h
    rcases h _ rfl with hfound | ⟨s, hfound, hs⟩
    · exact .inl ⟨hfound, rfl⟩
    · refine .inr ⟨s, s, hfound, hs, ?_⟩
      rw [text_of_statementIn hfound]

/-- Whether a line stays as it is does not depend on its ending. -/
theorem resolveLine_self_congr (h : line'.content = line.content) :
    r.resolveLine directory line' = .ok line' ↔ r.resolveLine directory line = .ok line := by
  rw [resolveLine_self_iff, resolveLine_self_iff]
  unfold statementIn
  rw [h]

/-- A line is changed inside only. -/
theorem sameEdges_resolveLine (h : r.resolveLine directory line = .ok line') :
    SameEdges line line' := by
  rcases resolveLine_eq_ok_iff.1 h with ⟨-, rfl⟩ | ⟨s, u, hfound, hu, rfl⟩
  · exact .refl _
  · obtain ⟨-, hresolve⟩ := checked_eq_ok_iff.1 hu
    obtain ⟨path, hpath⟩ := r.exists_resolve s
    rw [hpath] at hresolve
    subst hresolve
    exact sameEdges_replacePath hfound path

/-! ## Texts -/

variable {text result : String}

theorem resolveText_eq_ok_iff :
    r.resolveText directory text = .ok result ↔
      ∃ ls, List.Forall₂ (fun l l' => r.resolveLine directory l = .ok l') (lines text.toList) ls ∧
        result.toList = unlines ls := by
  simp only [← mapM_eq_ok_iff, resolveText]
  cases hlines : (lines text.toList).mapM (r.resolveLine directory) with
  | error failure => simp [Except.map]
  | ok ls =>
    simp only [Except.map, Except.ok.injEq, exists_eq_left']
    constructor
    · rintro rfl
      exact String.toList_ofList
    · intro hresult
      rw [← hresult]
      exact String.ofList_toList

/-- Where a text is resolved, each of its lines is. -/
theorem exists_resolveLine (h : r.resolveText directory text = .ok result)
    (hl : line ∈ lines text.toList) : ∃ l', r.resolveLine directory line = .ok l' := by
  obtain ⟨ls, hall, -⟩ := resolveText_eq_ok_iff.1 h
  obtain ⟨i, hi, rfl⟩ := List.getElem_of_mem hl
  exact ⟨ls.get ⟨i, hall.length_eq ▸ hi⟩, hall.get hi _⟩

/-- A text stays as it is if all its lines do. -/
theorem resolveText_self_iff :
    r.resolveText directory text = .ok text ↔
      ∀ l ∈ lines text.toList, r.resolveLine directory l = .ok l := by
  rw [resolveText_eq_ok_iff]
  constructor
  · rintro ⟨ls, hall, htext⟩
    have hedges : List.Forall₂ SameEdges (lines text.toList) ls :=
      hall.imp fun _ _ => sameEdges_resolveLine
    rw [← unlines_lines text.toList] at htext
    rw [(areLines_lines _).eq_of_edges hedges htext.symm] at hall
    exact List.forall₂_same.1 hall
  · intro h
    exact ⟨lines text.toList, List.forall₂_same.2 h, (unlines_lines _).symm⟩

/-- The result of a resolution stays as it is if all lines into which the resolved lines are split
do. -/
theorem resolveText_result_iff (h : r.resolveText directory text = .ok result) :
    r.resolveText directory result = .ok result ↔
      ∀ l ∈ lines text.toList, ∀ l', r.resolveLine directory l = .ok l' →
        ∀ piece ∈ lines (l'.content ++ l'.ending), r.resolveLine directory piece = .ok piece := by
  obtain ⟨ls, hall, hresult⟩ := resolveText_eq_ok_iff.1 h
  have hedges : List.Forall₂ SameEdges (lines text.toList) ls :=
    hall.imp fun _ _ => sameEdges_resolveLine
  rw [resolveText_self_iff, hresult, (areLines_lines _).lines_unlines_of_edges hedges]
  constructor
  · intro hkeeps l hl l' hl' piece hpiece
    obtain ⟨i, hi, rfl⟩ := List.getElem_of_mem hl
    have hi' : i < ls.length := hall.length_eq ▸ hi
    have hresolved : r.resolveLine directory (lines text.toList)[i] = .ok ls[i] := hall.get hi hi'
    rw [hresolved] at hl'
    cases hl'
    exact hkeeps piece (List.mem_flatMap.2 ⟨ls[i], List.getElem_mem hi', hpiece⟩)
  · intro hkeeps piece hpiece
    obtain ⟨l', hl', hpiece⟩ := List.mem_flatMap.1 hpiece
    obtain ⟨i, hi', rfl⟩ := List.getElem_of_mem hl'
    have hi : i < (lines text.toList).length := hall.length_eq ▸ hi'
    exact hkeeps _ (List.getElem_mem hi) ls[i] (hall.get hi hi') piece hpiece

/-! ## Imports -/

/-- Another path keeps its line if and only if it keeps the text of the statement, which has no
ending. -/
theorem keeps_iff_resolveText_self {text : List Char} (hl : line ∈ lines text)
    (hfound : statementIn directory line = .ok (some s)) (path : String) :
    (∀ piece ∈ lines ((s.replacePath path).text.toList ++ line.ending),
        r.resolveLine directory piece = .ok piece) ↔
      r.resolveText directory (s.replacePath path).text = .ok (s.replacePath path).text := by
  have hne : line.content ≠ [] := by
    rw [← text_of_statementIn hfound]
    simp [Statement.text, (sides_of_statementIn hfound).1]
  have hcontents := ((areLines_lines text).singleton hl).map_content_of_edges
    (sameEdges_replacePath hfound path) hne
  simp only at hcontents
  have hkeeps : ∀ {ls : List Line}, (∀ piece ∈ ls, r.resolveLine directory piece = .ok piece) ↔
      ∀ content ∈ ls.map Line.content,
        r.resolveLine directory ⟨content, []⟩ = .ok ⟨content, []⟩ := by
    intro ls
    rw [List.forall_mem_map]
    refine forall₂_congr fun piece _ => ?_
    exact resolveLine_self_congr rfl
  rw [resolveText_self_iff, hkeeps, hkeeps, hcontents]

/-- A line with a path that can stand in an import is split no further. -/
theorem keeps_iff_checked {text : List Char} (hl : line ∈ lines text)
    (hfound : statementIn directory line = .ok (some s)) {path : String}
    (hpath : IsQuotable path.toList) :
    (∀ piece ∈ lines ((s.replacePath path).text.toList ++ line.ending),
        r.resolveLine directory piece = .ok piece) ↔
      r.checked (s.replacePath path) = .ok (s.replacePath path) := by
  have hinside := isUnbroken_replacePath hl hfound hpath.unbroken
  have hsingle := ((areLines_lines text).singleton hl).of_edges
    (sameEdges_replacePath hfound path) hinside
  have hlines := lines_unlines hsingle
  rw [unlines_cons, show unlines [] = [] from rfl, List.append_nil] at hlines
  have hread := statementIn_replacePath hfound hpath.unclosed
  rw [hlines, List.forall_mem_singleton, resolveLine_self_iff, forall_eq', hread]
  simp

/-- Whether the result of the resolution of an import does not stay as it is: the import of a
standard type grows with the way to the generation root, or the line of an import from a module
is resolved to something else or not at all. -/
def IsRestless (r : Resolver) (s : Statement) : Prop :=
  s.isWellKnown = true ∧ r.hasStandardWay s.directory = true ∨
    ∃ path, r.moduleFile? s = some path ∧
      r.resolveText s.directory (s.replacePath path).text ≠ .ok (s.replacePath path).text

/-- The import of a missing file does not grow. -/
theorem not_grows_of_isUnresolved (h : r.isUnresolved (r.localize s) = true) :
    ¬(s.isWellKnown = true ∧ r.hasStandardWay s.directory = true) := by
  rintro ⟨hwell, hway⟩
  rw [isUnresolved_iff, (localize_of_hasStandardWay hwell hway).1] at h
  cases h.1

/-- A localized import stays as it is unless it grows. -/
theorem checked_localize_iff (hs : r.checked s = .ok (r.localize s)) :
    r.checked (r.localize s) = .ok (r.localize s) ↔
      ¬(s.isWellKnown = true ∧ r.hasStandardWay s.directory = true) := by
  constructor
  · rintro hkeeps ⟨hwell, hway⟩
    obtain ⟨-, hrelative, hgrows⟩ := localize_of_hasStandardWay hwell hway
    apply hgrows
    have hresolve := (checked_eq_ok_iff.1 hkeeps).2
    simpa [resolve, isUnresolved, hrelative] using hresolve
  · intro h
    have hlocal : r.localize (r.localize s) = r.localize s := by
      cases hwell : s.isWellKnown with
      | false => rw [localize_of_not_isWellKnown hwell, localize_of_not_isWellKnown hwell]
      | true =>
        cases hway : r.hasStandardWay s.directory with
        | false => exact localize_localize hway
        | true => exact absurd ⟨hwell, hway⟩ h
    rw [checked_congr hlocal]
    exact hs

/-- A resolved line stays as it is exactly if its import is not restless. -/
theorem keeps_iff_not_isRestless (hroot : r.HasCleanRoot) {text : List Char}
    (hl : line ∈ lines text) (hfound : statementIn directory line = .ok (some s))
    (hu : r.checked s = .ok u) :
    (∀ piece ∈ lines (u.text.toList ++ line.ending),
        r.resolveLine directory piece = .ok piece) ↔ ¬r.IsRestless s := by
  have hresult := (checked_eq_ok_iff.1 hu).2
  obtain ⟨way, hway⟩ := r.exists_localize s
  have hlocal := quotable_localize hroot (quotable_of_statementIn hl hfound)
  rcases r.resolve_cases s with ⟨hfile, h⟩ | ⟨hfile, hunresolved, hfinds, h⟩ |
    ⟨hunresolved, path, hfile, h⟩
  · -- the localized import
    rw [h] at hresult
    subst hresult
    have hkeeps := checked_localize_iff hu
    rw [hway] at hlocal hkeeps ⊢
    have hpath : IsQuotable way.toList := hlocal
    rw [keeps_iff_checked hl hfound hpath, hkeeps]
    simp [IsRestless, hfile]
  · -- the import from the main sources
    rw [h] at hresult
    subst hresult
    have hkeeps := checked_inMainSources hu hunresolved hfinds
    have hmain := quotable_inMainSources hlocal
    have hgrows := not_grows_of_isUnresolved hunresolved
    rw [hway] at hkeeps hmain ⊢
    simp only [IsRestless, hfile, hgrows, false_or, reduceCtorEq, false_and, exists_false,
      not_false_eq_true, iff_true]
    exact (keeps_iff_checked hl hfound hmain).2 hkeeps
  · -- the import from a module
    rw [h] at hresult
    subst hresult
    have hgrows := not_grows_of_isUnresolved hunresolved
    have hdirectory := directory_of_statementIn hfound
    subst hdirectory
    rw [keeps_iff_resolveText_self hl hfound]
    simp only [IsRestless, hfile, hgrows, false_or, Option.some.injEq, exists_eq_left', ne_eq,
      not_not]

/-- A text without restless imports is resolved once and for all. -/
theorem resolveText_result (hroot : r.HasCleanRoot)
    (h : r.resolveText directory text = .ok result)
    (hrests : ∀ line ∈ lines text.toList, ∀ s, statementIn directory line = .ok (some s) →
      ¬r.IsRestless s) :
    r.resolveText directory result = .ok result := by
  rw [resolveText_result_iff h]
  intro l hl l' hl'
  rcases resolveLine_eq_ok_iff.1 hl' with ⟨hfound, rfl⟩ | ⟨s, u, hfound, hu, rfl⟩
  · intro piece hpiece
    rw [lines_of_mem hl, List.mem_singleton] at hpiece
    subst hpiece
    exact hl'
  · exact (keeps_iff_not_isRestless hroot hl hfound hu).2 (hrests l hl s hfound)

/-- A text is resolved once and for all exactly if none of its imports is restless. -/
theorem resolveText_idempotent_iff (hroot : r.HasCleanRoot)
    (h : r.resolveText directory text = .ok result) :
    r.resolveText directory result = .ok result ↔
      ∀ line ∈ lines text.toList, ∀ s, statementIn directory line = .ok (some s) →
        ¬r.IsRestless s := by
  constructor
  · intro hkeeps line hl s hfound
    obtain ⟨l', hl'⟩ := exists_resolveLine h hl
    rcases resolveLine_eq_ok_iff.1 hl' with ⟨hnone, -⟩ | ⟨s', u, hsome, hu, rfl⟩
    · rw [hnone] at hfound
      cases hfound
    · rw [hsome] at hfound
      cases hfound
      have hpieces := (resolveText_result_iff h).1 hkeeps line hl _ hl'
      exact (keeps_iff_not_isRestless hroot hl hsome hu).1 hpieces
  · exact resolveText_result hroot h

/-- A resolver with a module that has the name of the package of the standard types; the types are
generated outside the directory that it is asked about. -/
def sampleResolver : Resolver :=
  { root := Path.read "gen"
    modules := [⟨"google-protobuf", [⟨["google", "protobuf"], false⟩]⟩]
    isPresent := fun path => path == Path.read "gen/google/protobuf/any_pb.js"
    lookFault? := fun _ => none
    workingDirectory := ["work"] }

/-- The import of a missing file goes to the package, and from there to the generation root. -/
theorem resolveText_twice :
    sampleResolver.HasCleanRoot ∧
      sampleResolver.resolveText (Path.read "test")
          "let any = require('./google/protobuf/any_pb.js');\n" =
        .ok "let any = require('google-protobuf/google/protobuf/any_pb.js');\n" ∧
      sampleResolver.resolveText (Path.read "test")
          "let any = require('google-protobuf/google/protobuf/any_pb.js');\n" =
        .ok "let any = require('../gen/google/protobuf/any_pb.js');\n" ∧
      ∃ line ∈ lines "let any = require('./google/protobuf/any_pb.js');\n".toList, ∃ s,
        statementIn (Path.read "test") line = .ok (some s) ∧ sampleResolver.IsRestless s := by
  have hroot : sampleResolver.HasCleanRoot := by
    unfold HasCleanRoot
    decide +kernel
  have honce : sampleResolver.resolveText (Path.read "test")
      "let any = require('./google/protobuf/any_pb.js');\n" =
        .ok "let any = require('google-protobuf/google/protobuf/any_pb.js');\n" := by
    decide +kernel
  have htwice : sampleResolver.resolveText (Path.read "test")
      "let any = require('google-protobuf/google/protobuf/any_pb.js');\n" =
        .ok "let any = require('../gen/google/protobuf/any_pb.js');\n" := by
    decide +kernel
  refine ⟨hroot, honce, htwice, ?_⟩
  by_contra hnone
  push Not at hnone
  have hsame := (resolveText_idempotent_iff hroot honce).2 hnone
  rw [htwice] at hsame
  revert hsame
  decide +kernel

/-- The path that a package gives an import is resolved to itself. -/
theorem not_isRestless_of_isPackage (hroot : r.HasCleanRoot) {text : List Char}
    (hl : line ∈ lines text) (hfound : statementIn directory line = .ok (some s))
    (hway : r.hasStandardWay s.directory = false) (hmodules : ∀ m ∈ r.modules, m.IsPackage) :
    ¬r.IsRestless s := by
  rintro (⟨-, hstandard⟩ | ⟨path, hfile, hchanges⟩)
  · rw [hway] at hstandard
    cases hstandard
  · have hdirectory := directory_of_statementIn hfound
    subst hdirectory
    have hlocal := quotable_localize hroot (quotable_of_statementIn hl hfound)
    unfold moduleFile? at hfile
    split at hfile
    · obtain ⟨m, hfirst, hfile⟩ := Option.bind_eq_some_iff.1 hfile
      have hm := hmodules m (List.mem_of_find?_eq_some hfirst)
      obtain ⟨hrelative, hwell⟩ := absolute_fileIn? hm hfile s
      have hlocalized : r.localize (s.replacePath path) = s.replacePath path :=
        localize_of_not_isWellKnown hwell
      apply hchanges
      rw [← keeps_iff_resolveText_self hl hfound,
        keeps_iff_checked hl hfound (quotable_fileIn? hm hlocal hfile), checked_eq_ok_iff]
      simp [looks, resolve, isUnresolved, hlocalized, hrelative]
    · cases hfile

/-- With packages only, and a way to the generation root that is no import of a standard type, every
text is resolved once and for all. -/
theorem resolveText_result_of_isPackage (hroot : r.HasCleanRoot)
    (hway : r.hasStandardWay directory = false) (hmodules : ∀ m ∈ r.modules, m.IsPackage)
    (h : r.resolveText directory text = .ok result) :
    r.resolveText directory result = .ok result := by
  apply resolveText_result hroot h
  intro line hl s hfound
  have hdirectory := directory_of_statementIn hfound
  subst hdirectory
  exact not_isRestless_of_isPackage hroot hl hfound hway hmodules

end Resolver

end Protogen.Import
