import Mathlib.Data.List.Chain
import Protogen.Import.Resolver
import Protogen.Proofs.Text.Cut
import Protogen.Proofs.Text.Lines

/-!
# Statements with another path

A path can stand in an import if no line ends in it and the import does not either. A statement
with such a path is read back from its line.

* `IsQuotable` says which paths can stand in an import, those in which its end does not occur
  (`unclosed_iff`); the path of a statement that was read is one (`quotable_of_statementIn`).
* `IsClean` texts have neither quotes nor boundaries of lines; in front of a quotable path they
  leave it quotable.
* `statementIn_replacePath` reads a statement with another path.
-/

set_option autoImplicit false

namespace Protogen.Import

open Text

/-- Texts that can be the path of an import. -/
structure IsQuotable (path : List Char) : Prop where
  unbroken : isUnbroken path = true
  /-- the end of an import does not occur -/
  unclosed : path.IsChain fun c d => ¬(c = '\'' ∧ d = ')')

/-- Whether a text has neither quotes nor boundaries of lines. -/
def isClean (text : List Char) : Bool := text.all fun c => c != '\'' && !isBreak c

theorem isClean_append {text rest : List Char} :
    isClean (text ++ rest) = true ↔ isClean text = true ∧ isClean rest = true := by
  simp [isClean]

theorem isUnbroken_of_isClean {text : List Char} (h : isClean text = true) :
    isUnbroken text = true := by
  simp only [isClean, List.all_eq_true, Bool.and_eq_true] at h
  exact List.all_eq_true.2 fun c hc => (h c hc).2

theorem quote_not_mem_of_isClean {text : List Char} (h : isClean text = true) : '\'' ∉ text := by
  intro hmem
  have hquote := List.all_eq_true.1 h _ hmem
  simp at hquote

theorem IsQuotable.of_clean_append {text rest : List Char} (h : isClean text = true)
    (hrest : IsQuotable rest) : IsQuotable (text ++ rest) := by
  induction text with
  | nil => exact hrest
  | cons c text ih =>
    simp only [isClean, List.all_cons, Bool.and_eq_true, bne_iff_ne, Bool.not_eq_true'] at h
    obtain ⟨⟨hquote, hbreak⟩, htext⟩ := h
    have hmore := ih htext
    refine ⟨isUnbroken_cons.2 ⟨hbreak, hmore.unbroken⟩, ?_⟩
    rw [List.cons_append, List.isChain_cons]
    exact ⟨fun d _ hclosed => hquote hclosed.1, hmore.unclosed⟩

theorem IsQuotable.of_append {text rest : List Char} (h : IsQuotable (text ++ rest)) :
    IsQuotable text ∧ IsQuotable rest := by
  have hunbroken := isUnbroken_append.1 h.unbroken
  have hunclosed := List.isChain_append.1 h.unclosed
  exact ⟨⟨hunbroken.1, hunclosed.1⟩, ⟨hunbroken.2, hunclosed.2.1⟩⟩

/-! ## Cuts -/

theorem toList_closing : closing.toList = ['\'', ')'] := rfl

/-- An import ends at the first end behind its path. -/
theorem cut?_closing {path : List Char} (h : path.IsChain fun c d => ¬(c = '\'' ∧ d = ')'))
    (after : List Char) :
    cut? closing.toList (path ++ closing.toList ++ after) = some (path, after) := by
  induction path with
  | nil => exact cut?_of_dropStart? (dropStart?_append _ _)
  | cons c path ih =>
    obtain ⟨hfirst, hrest⟩ := List.isChain_cons.1 h
    have hnone : dropStart? closing.toList (c :: (path ++ closing.toList ++ after)) = none := by
      rw [dropStart?_eq_none_iff, toList_closing]
      intro rest heq
      obtain ⟨hquote, htext⟩ := List.cons_eq_cons.1 heq
      cases path with
      | nil => cases htext
      | cons d path =>
        obtain ⟨hend, -⟩ := List.cons_eq_cons.1 htext
        exact hfirst d rfl ⟨hquote, hend⟩
    rw [List.cons_append, List.cons_append, cut?, hnone, ih hrest]
    rfl

/-- The end of an import is a quote in front of a parenthesis. -/
theorem unclosed_iff {path : List Char} :
    (path.IsChain fun c d => ¬(c = '\'' ∧ d = ')')) ↔ ¬closing.toList <:+: path := by
  rw [List.isChain_iff_forall_rel_of_append_cons_cons, toList_closing]
  constructor
  · rintro h ⟨before, after, rfl⟩
    exact h (List.append_assoc before _ after) ⟨rfl, rfl⟩
  · rintro h c d before after rfl ⟨rfl, rfl⟩
    exact h ⟨before, after, by simp⟩

/-- The end of an import does not occur in front of the first one. -/
theorem unclosed_of_cut? {text path after : List Char}
    (h : cut? closing.toList text = some (path, after)) :
    path.IsChain fun c d => ¬(c = '\'' ∧ d = ')') :=
  unclosed_iff.2 (not_isInfix_of_cut? (by decide) h)

/-! ## Statements of lines -/

variable {directory : Path} {line : Line} {s : Statement}

/-- Which statement a line has. -/
theorem statementIn_eq_some_iff :
    Resolver.statementIn directory line = .ok (some s) ↔
      ∃ before rest path after, cut? opening.toList line.content = some (before, rest) ∧
        cut? closing.toList rest = some (path, after) ∧
        s = ⟨directory, String.ofList before ++ opening, String.ofList path,
          closing ++ String.ofList after⟩ := by
  unfold Resolver.statementIn isDeclaredIn occurs Statement.read
  rw [String.toList_ofList]
  cases hopen : cut? opening.toList line.content with
  | none => simp
  | some parts =>
    obtain ⟨before, rest⟩ := parts
    cases hclose : cut? closing.toList rest with
    | none => simp [hclose, Except.map]
    | some parts =>
      obtain ⟨path, after⟩ := parts
      simp [hclose, Except.map, eq_comm]

/-- A text put together as an import is read as that import. -/
theorem statementIn_append {before path : String} (after : String) (ending : List Char)
    (hbefore : isClean before.toList = true) (hpath : isClean path.toList = true) :
    Resolver.statementIn directory
        ⟨(before ++ opening ++ path ++ (closing ++ after)).toList, ending⟩ =
      .ok (some ⟨directory, before ++ opening, path, closing ++ after⟩) := by
  refine statementIn_eq_some_iff.2
    ⟨before.toList, (path ++ (closing ++ after)).toList, path.toList, after.toList, ?_, ?_, ?_⟩
  · simp only [String.toList_append, List.append_assoc]
    rw [← List.append_assoc]
    exact cut?_append _ (by decide) (quote_not_mem_of_isClean hbefore)
  · simp only [String.toList_append]
    rw [← List.append_assoc]
    exact cut?_append _ (by decide) (quote_not_mem_of_isClean hpath)
  · simp only [String.ofList_toList]

theorem isUnbroken_import {before path after : String} (hbefore : isClean before.toList = true)
    (hpath : isClean path.toList = true) (hafter : isUnbroken after.toList = true) :
    isUnbroken (before ++ opening ++ path ++ (closing ++ after)).toList = true := by
  simp only [String.toList_append, isUnbroken_append]
  exact ⟨⟨⟨isUnbroken_of_isClean hbefore, rfl⟩, isUnbroken_of_isClean hpath⟩, rfl, hafter⟩

theorem text_of_statementIn (h : Resolver.statementIn directory line = .ok (some s)) :
    s.text.toList = line.content := by
  obtain ⟨before, rest, path, after, hopen, hclose, rfl⟩ := statementIn_eq_some_iff.1 h
  rw [eq_of_cut? hopen, eq_of_cut? hclose]
  simp [Statement.text]

theorem directory_of_statementIn (h : Resolver.statementIn directory line = .ok (some s)) :
    s.directory = directory := by
  obtain ⟨before, rest, path, after, hopen, hclose, rfl⟩ := statementIn_eq_some_iff.1 h
  rfl

/-- The path of a statement that was read from a line of a text can be read again. -/
theorem quotable_of_statementIn {text : List Char} (hl : line ∈ lines text)
    (h : Resolver.statementIn directory line = .ok (some s)) : IsQuotable s.path.toList := by
  obtain ⟨before, rest, path, after, hopen, hclose, rfl⟩ := statementIn_eq_some_iff.1 h
  have hunbroken := isUnbroken_dropLast hl
  have hcontent : line.content =
      (before ++ opening.toList ++ path) ++ (closing.toList ++ after) := by
    rw [eq_of_cut? hopen, eq_of_cut? hclose]
    simp only [List.append_assoc]
  have hne : closing.toList ++ after ≠ [] := by
    rw [toList_closing]
    exact List.cons_ne_nil _ _
  rw [hcontent, List.dropLast_append_of_ne_nil hne, isUnbroken_append, isUnbroken_append]
    at hunbroken
  rw [String.toList_ofList]
  exact ⟨hunbroken.1.2, unclosed_of_cut? hclose⟩

theorem text_replacePath (s : Statement) (path : String) :
    (s.replacePath path).text.toList = s.before.toList ++ (path.toList ++ s.after.toList) := by
  simp [Statement.text, Statement.replacePath]

/-- The path of a statement that was read stands inside its line. -/
theorem sides_of_statementIn (h : Resolver.statementIn directory line = .ok (some s)) :
    s.before.toList ≠ [] ∧ s.after.toList ≠ [] := by
  obtain ⟨before, rest, path, after, hopen, hclose, rfl⟩ := statementIn_eq_some_iff.1 h
  constructor
  · simp [opening]
  · simp [closing]

/-- Another path changes a line inside. -/
theorem sameEdges_replacePath (h : Resolver.statementIn directory line = .ok (some s))
    (path : String) : SameEdges line ⟨(s.replacePath path).text.toList, line.ending⟩ := by
  obtain ⟨hbefore, hafter⟩ := sides_of_statementIn h
  have hcontent : line.content = s.before.toList ++ (s.path.toList ++ s.after.toList) := by
    rw [← text_of_statementIn h]
    exact text_replacePath s s.path
  refine ⟨?_, ?_, rfl⟩
  · rw [text_replacePath, hcontent, List.head?_append_of_ne_nil _ hbefore,
      List.head?_append_of_ne_nil _ hbefore]
  · simp only [text_replacePath, hcontent, ← List.append_assoc]
    rw [List.getLast?_append_of_ne_nil _ hafter, List.getLast?_append_of_ne_nil _ hafter]

/-- A path without boundary of lines leaves none inside the line. -/
theorem isUnbroken_replacePath {text : List Char} (hl : line ∈ lines text)
    (h : Resolver.statementIn directory line = .ok (some s)) {path : String}
    (hpath : isUnbroken path.toList = true) :
    isUnbroken (s.replacePath path).text.toList.dropLast = true := by
  obtain ⟨-, hafter⟩ := sides_of_statementIn h
  have hline := isUnbroken_dropLast hl
  have hcontent : line.content = s.before.toList ++ (s.path.toList ++ s.after.toList) := by
    rw [← text_of_statementIn h]
    exact text_replacePath s s.path
  simp only [hcontent, text_replacePath, ← List.append_assoc,
    List.dropLast_append_of_ne_nil hafter, isUnbroken_append] at hline ⊢
  exact ⟨⟨hline.1.1, hpath⟩, hline.2⟩

/-- A statement with a path in which no import ends is read back from its line. -/
theorem statementIn_replacePath (h : Resolver.statementIn directory line = .ok (some s))
    {path : String} (hpath : path.toList.IsChain fun c d => ¬(c = '\'' ∧ d = ')')) :
    Resolver.statementIn directory ⟨(s.replacePath path).text.toList, line.ending⟩ =
      .ok (some (s.replacePath path)) := by
  obtain ⟨before, rest, old, after, hopen, hclose, rfl⟩ := statementIn_eq_some_iff.1 h
  refine statementIn_eq_some_iff.2
    ⟨before, path.toList ++ closing.toList ++ after, path.toList, after, ?_, ?_, ?_⟩
  · have hcut := cut?_congr_after hopen (path.toList ++ closing.toList ++ after)
    simpa [Statement.text, Statement.replacePath] using hcut
  · exact cut?_closing hpath after
  · simp [Statement.replacePath]

end Protogen.Import
