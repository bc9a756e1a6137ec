import Protogen.Proofs.Import.Idempotence
import Protogen.Proofs.Text.HasLine

/-!
# What a resolution changes

A resolution puts another path in the place of the first imported path of a line, and changes
nothing else of the text.

* `IsFirstCut` says where a line is cut: at the first beginning of an import and the first end
  behind it.
* `Replaces` says when a path is replaced at all, and what it may be replaced with.
* `Conserves` relates a line to what a resolution makes of it; `resolveText_conserves` is the
  theorem for whole texts.
* `hasLine_of_resolveText`: a line without import is a line of the resolved text.
-/

set_option autoImplicit false

namespace Protogen.Import

open Text

/-! ## Cuts -/

/-- A text in front of the first occurrence of a marker. -/
def IsFirstCut (marker before after : List Char) : Prop :=
  ∀ before' after', before ++ marker ++ after = before' ++ marker ++ after' →
    before.length ≤ before'.length

theorem isFirstCut_of_cut? {marker text before after : List Char}
    (h : cut? marker text = some (before, after)) : IsFirstCut marker before after := by
  intro before' after' htext
  exact length_le_of_cut? h ((eq_of_cut? h).trans htext)

namespace Resolver

variable {r : Resolver} {directory : Path} {line line' : Line} {s u : Statement}

/-! ## Replacements -/

/-- The paths that a resolution may put in the place of that of a statement. -/
structure Replaces (r : Resolver) (s : Statement) (path : String) : Prop where
  /-- only an import of a standard type, or a relative one of a missing file, is replaced -/
  only : path ≠ s.path → s.isWellKnown = true ∨ s.isRelative = true ∧ r.finds s = false
  /-- a relative import of a file that is there stays -/
  keeps : s.isRelative = true → r.finds s = true → path = s.path
  /-- a new path is the way to the generation root or, if the file is missing there, that of a file
  among the main sources or, if it is missing there too, that of the first module that provides
  it -/
  form : path = s.path ∨
    (s.isWellKnown = true ∧ path = (r.relativize s).path) ∨
    (r.isUnresolved (r.localize s) = true ∧ r.finds (r.localize s).inMainSources = true ∧
      path = mainPath (r.localize s).path) ∨
    (r.isUnresolved (r.localize s) = true ∧ r.finds (r.localize s).inMainSources = false ∧
      ∃ m, firstProviding r.modules (r.localize s).path = some m ∧
        m.fileIn? (r.localize s).path = some path)

theorem path_localize (r : Resolver) (s : Statement) :
    (r.localize s).path = s.path ∨ s.isWellKnown = true ∧ (r.localize s).path = (r.relativize s).path := by
  cases hwell : s.isWellKnown with
  | false => exact .inl (by rw [localize_of_not_isWellKnown hwell])
  | true => exact .inr ⟨rfl, by rw [localize_of_isWellKnown hwell]⟩

/-- An import that is neither that of a standard type nor a relative one of a missing file stays. -/
theorem resolve_of_not_isUnresolved (hwell : s.isWellKnown = false)
    (hunresolved : r.isUnresolved s = false) : r.resolve s = s := by
  simp [resolve, localize_of_not_isWellKnown hwell, hunresolved]

/-- A path from a module is that of the first one that provides the file, which is not among the
main sources. -/
theorem of_moduleFile? {path : String} (h : r.moduleFile? s = some path) :
    r.finds (r.localize s).inMainSources = false ∧
      ∃ m, firstProviding r.modules (r.localize s).path = some m ∧
        m.fileIn? (r.localize s).path = some path := by
  unfold moduleFile? at h
  split at h
  · rename_i hmissing
    obtain ⟨m, hm, hfile⟩ := Option.bind_eq_some_iff.1 h
    refine ⟨?_, m, hm, hfile⟩
    simp only [inMain?, Bool.and_eq_true] at hmissing
    cases hfinds : r.finds (r.localize s).inMainSources with
    | false => rfl
    | true => simp [hfinds] at hmissing
  · cases h

theorem replaces_resolve (r : Resolver) (s : Statement) : r.Replaces s (r.resolve s).path := by
  refine ⟨?_, ?_, ?_⟩
  · intro hne
    cases hwell : s.isWellKnown with
    | true => exact .inl rfl
    | false =>
      refine .inr (isUnresolved_iff.1 ?_)
      by_contra hunresolved
      apply hne
      rw [resolve_of_not_isUnresolved hwell (Bool.eq_false_iff.2 hunresolved)]
  · intro hrelative hfinds
    have hunresolved : r.isUnresolved s = false := by simp [isUnresolved, hfinds]
    rw [resolve_of_not_isUnresolved (isWellKnown_of_isRelative hrelative) hunresolved]
  · rcases r.resolve_cases s with ⟨-, h⟩ | ⟨-, hmissing, hfinds, h⟩ | ⟨hmissing, path, hfile, h⟩
    · rw [h]
      rcases r.path_localize s with hsame | hrelative
      · exact .inl hsame
      · exact .inr (.inl hrelative)
    · rw [h]
      exact .inr (.inr (.inl ⟨hmissing, hfinds, rfl⟩))
    · rw [h]
      exact .inr (.inr (.inr ⟨hmissing, of_moduleFile? hfile⟩))

/-! ## Lines and texts -/

/-- What a resolution makes of a line: a line without import stays, and of one with an import at
most the characters between its first beginning and the next end are replaced. No line ends
there. -/
inductive Conserves (r : Resolver) (directory : Path) : Line → Line → Prop
  | plain {line : Line} (h : occurs opening.toList line.content = false) :
    Conserves r directory line line
  | imported {before path after ending : List Char} {replacement : String}
    (hopening : IsFirstCut opening.toList before (path ++ closing.toList ++ after))
    (hclosing : IsFirstCut closing.toList path after)
    (hpath : isUnbroken path = true)
    (h : r.Replaces ⟨directory, String.ofList before ++ opening, String.ofList path,
      closing ++ String.ofList after⟩ replacement) :
    Conserves r directory
      ⟨before ++ opening.toList ++ (path ++ closing.toList ++ after), ending⟩
      ⟨before ++ opening.toList ++ (replacement.toList ++ closing.toList ++ after), ending⟩

theorem occurs_eq_false_of_statementIn (h : statementIn directory line = .ok none) :
    occurs opening.toList line.content = false := by
  unfold statementIn at h
  split at h
  · cases hread : Statement.read directory (String.ofList line.content) with
    | error cause =>
      rw [hread] at h
      cases h
    | ok s =>
      rw [hread] at h
      cases h
  · rename_i hdeclared
    exact Bool.eq_false_iff.2 hdeclared

theorem conserves_of_resolveLine {text : List Char} (hl : line ∈ lines text)
    (h : r.resolveLine directory line = .ok line') : r.Conserves directory line line' := by
  rcases resolveLine_eq_ok_iff.1 h with ⟨hnone, rfl⟩ | ⟨s, u, hfound, hu, rfl⟩
  · exact .plain (occurs_eq_false_of_statementIn hnone)
  · obtain ⟨-, rfl⟩ := checked_eq_ok_iff.1 hu
    have hunbroken := (quotable_of_statementIn hl hfound).unbroken
    obtain ⟨before, rest, path, after, hopen, hclose, rfl⟩ := statementIn_eq_some_iff.1 hfound
    obtain ⟨content, ending⟩ := line
    have hrest := eq_of_cut? hclose
    have hcontent : content = _ := eq_of_cut? hopen
    subst hrest hcontent
    obtain ⟨replacement, hreplacement⟩ := r.exists_resolve
      ⟨directory, String.ofList before ++ opening, String.ofList path,
        closing ++ String.ofList after⟩
    have hreplaces := r.replaces_resolve
      ⟨directory, String.ofList before ++ opening, String.ofList path,
        closing ++ String.ofList after⟩
    rw [hreplacement] at hreplaces ⊢
    have hpath : isUnbroken path = true := by simpa using hunbroken
    have hline : r.Conserves directory
        ⟨before ++ opening.toList ++ (path ++ closing.toList ++ after), ending⟩
        ⟨before ++ opening.toList ++ (replacement.toList ++ closing.toList ++ after), ending⟩ :=
      .imported (isFirstCut_of_cut? hopen) (isFirstCut_of_cut? hclose) hpath hreplaces
    simpa [Statement.text, Statement.replacePath] using hline

/-- A resolution is conservative: line by line, only the first imported path is replaced, and only
by what one of the strategies gives for it. -/
theorem resolveText_conserves {text result : String}
    (h : r.resolveText directory text = .ok result) :
    ∃ resolved, List.Forall₂ (r.Conserves directory) (lines text.toList) resolved ∧
      result.toList = unlines resolved := by
  obtain ⟨resolved, hall, hresult⟩ := resolveText_eq_ok_iff.1 h
  refine ⟨resolved, List.forall₂_iff_get.2 ⟨hall.length_eq, fun i hi hi' => ?_⟩, hresult⟩
  exact conserves_of_resolveLine (List.get_mem _ _) (hall.get hi hi')

/-- Two lines, of which a line separator and a carriage return are the ends. -/
def separatedLines : String :=
  "x('./a.js')\u2028let any = require('./google/protobuf/api_pb.js'), y = require('./b.js');\r"

/-- The second import of a line stays. -/
def separatedResult : String :=
  "x('./a.js')\u2028let any = require('google-protobuf/google/protobuf/api_pb.js'), " ++
    "y = require('./b.js');\r"

theorem resolveText_conserves_separators :
    sampleResolver.resolveText (Path.read "gen") separatedLines = .ok separatedResult ∧
      ∃ resolved, List.Forall₂ (sampleResolver.Conserves (Path.read "gen"))
        (lines separatedLines.toList) resolved ∧ separatedResult.toList = unlines resolved := by
  have h : sampleResolver.resolveText (Path.read "gen") separatedLines = .ok separatedResult := by
    decide +kernel
  exact ⟨h, resolveText_conserves h⟩

/-- A line without import stays a line of its own, whatever becomes of those around it. -/
theorem hasLine_of_resolveText {line text result : String}
    (h : r.resolveText directory text = .ok result) (hline : HasLine line text)
    (hplain : occurs opening.toList line.toList = false) : HasLine line result := by
  obtain ⟨l, hl, hcontent⟩ := hline
  obtain ⟨resolved, hall, hresult⟩ := resolveText_eq_ok_iff.1 h
  have hedges : List.Forall₂ SameEdges (lines text.toList) resolved :=
    hall.imp fun _ _ => sameEdges_resolveLine
  have hself : r.resolveLine directory l = .ok l := by
    refine resolveLine_eq_ok_iff.2 (.inl ⟨?_, rfl⟩)
    rw [statementIn, isDeclaredIn, hcontent, hplain]
    rfl
  have hmem : l ∈ resolved := by
    obtain ⟨i, hi, rfl⟩ := List.getElem_of_mem hl
    have hi' : i < resolved.length := hall.length_eq ▸ hi
    have hi_resolved : r.resolveLine directory (lines text.toList)[i] = .ok resolved[i] :=
      hall.get hi hi'
    rw [hself] at hi_resolved
    rw [Except.ok.inj hi_resolved]
    exact List.getElem_mem hi'
  refine ⟨l, ?_, hcontent⟩
  rw [hresult, (areLines_lines _).lines_unlines_of_edges hedges]
  exact List.mem_flatMap.2 ⟨l, hmem, by simp [lines_of_mem hl]⟩

end Resolver

end Protogen.Import
