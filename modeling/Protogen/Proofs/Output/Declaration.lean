import Protogen.Proofs.Output.File
import Protogen.Proofs.Text.HasLine

/-!
# Where parsers are declared

* `declaration` is the line that declares a parser; each parser begins with it
  (`declaration_of_renderParser`), so it stands in the text of the parsers of a file
  (`File.standsIn_renderParsers`).
* `File.ne_empty_of_renderParsers` and `File.ne_empty_of_renderTypeUrls`: what is rendered for a file
  is never empty.
-/

set_option autoImplicit false

namespace Protogen

open Code Text

variable {registry : Registry}

/-- The line that declares a parser. -/
def declaration (parser : String) : String := parser ++ " = function() \x7b"

namespace Code

/-- Only a writer without open scopes can be appended. -/
theorem Emits.append_error {other : Writer} (h : other.scopes ≠ []) :
    Emits (Emission.append other) (.error (.scope .appendOpen)) [] := by
  intro w
  have happend : w.append other = .error .appendOpen := by
    rw [Writer.append, if_neg]
    simpa using h
  rw [Writer.extend_nil]
  exact Emits.run_attempt_error happend

/-- The text of lines begins with the first of them, if it is not indented. -/
theorem Writer.draft_cons_cons {first : String} (hne : first ≠ "") (second : Code.Line)
    (ls : List Code.Line) :
    ∃ rest, Writer.draft { lines := (⟨0, first⟩ :: second :: ls).map (Writer.shift 0) } =
      first ++ "\n" ++ rest := by
  have hfirst : Writer.indented "  " (Writer.shift 0 ⟨0, first⟩) = first := by
    rw [Writer.indented_shift_zero, Writer.indented_of_ne _ _ hne]
    simp
  refine ⟨String.intercalate "\n" ((second :: ls).map fun l =>
    Writer.indented "  " (Writer.shift 0 l)), ?_⟩
  simp only [Writer.draft, Writer.rendered, List.map_map, List.map_cons, Function.comp_def,
    String.intercalate_cons_cons, hfirst]

end Code

namespace Schema.MessageType

variable {t : MessageType} {text : String}

/-- A parser begins with its declaration. -/
theorem declaration_of_renderParser (h : t.renderParser registry = .ok text) :
    ∃ rest, text = declaration t.parser ++ "\n" ++ rest := by
  have hheader : t.parser ++ " = function(" ++ "" ++ ")" ++ " \x7b" = declaration t.parser := by
    simp only [declaration, String.append_assoc]
    rfl
  have hdeclare := emits_declareParser t.parser
  rw [hheader] at hdeclare
  cases hmethod : t.fromObjectMethod registry with
  | error failure =>
    rw [renderParser_of_error hmethod] at h
    cases h
  | ok w =>
    by_cases hscopes : w.scopes = []
    · obtain ⟨ls, hls⟩ : ∃ ls, Emits (do
          declareParser t.parser
          Emission.blank
          Emission.append (← Emission.demand (t.fromObjectMethod registry))) (.ok ())
          (⟨0, declaration t.parser⟩ :: ⟨1, "ObjectParser.call(this);"⟩ :: ls) := by
        rw [hmethod]
        exact ⟨_, hdeclare.bind (Emits.blank.bind
          ((Emits.demand (.ok w)).bind (Emits.append hscopes)))⟩
      rw [renderParser, hls.written] at h
      cases h
      exact Writer.draft_cons_cons (by simp [declaration]) _ _
    · obtain ⟨ls, hls⟩ : ∃ ls, Emits (do
          declareParser t.parser
          Emission.blank
          Emission.append (← Emission.demand (t.fromObjectMethod registry)))
          (.error (.scope .appendOpen)) ls := by
        rw [hmethod]
        exact ⟨_, hdeclare.bind (Emits.blank.bind
          ((Emits.demand (.ok w)).bind (Emits.append_error hscopes)))⟩
      rw [renderParser, hls.written_error] at h
      cases h

end Schema.MessageType

namespace Schema.File

variable {f : File} {text : String} {runtimePrefix : String}

/-- The text of the parsers of a file, by that of its parsers. -/
theorem renderParsers_eq_some
    (h : f.renderParsers registry runtimePrefix MessageType.isEligible = .ok (some text)) :
    ∃ types parsers js, f.targetTypes MessageType.isEligible = .ok types ∧ types ≠ [] ∧
      (types.mapM fun t : MessageType => t.renderParser registry) = .ok parsers ∧
      f.jsFile = .ok js ∧ text = parsersText (Naming.pathToRoot js ++ runtimePrefix) parsers := by
  obtain ⟨types, htypes, h⟩ := bind_eq_ok.1 h
  split at h
  · cases h
  · rename_i hempty
    obtain ⟨parsers, hparsers, h⟩ := bind_eq_ok.1 h
    obtain ⟨js, hjs, h⟩ := bind_eq_ok.1 h
    cases h
    exact ⟨types, parsers, js, failing_eq_ok.1 htypes, mt List.isEmpty_iff.2 hempty, hparsers,
      failing_eq_ok.1 hjs, rfl⟩

/-- Only a file with parsers has a text of them. -/
theorem exists_parses_of_renderParsers
    (h : f.renderParsers registry runtimePrefix MessageType.isEligible = .ok (some text)) :
    ∃ t, f.Parses t := by
  obtain ⟨types, -, -, htypes, hne, -, -, -⟩ := renderParsers_eq_some h
  obtain ⟨t, ht⟩ := List.exists_mem_of_ne_nil types hne
  exact ⟨t, (mem_targetTypes_iff htypes t).1 ht⟩

/-- Only a file without parsers has no text of them. -/
theorem not_parses_of_renderParsers
    (h : f.renderParsers registry runtimePrefix MessageType.isEligible = .ok none)
    (t : MessageType) : ¬f.Parses t := by
  intro ht
  obtain ⟨types, htypes, h⟩ := bind_eq_ok.1 h
  have hmem := (mem_targetTypes_iff (failing_eq_ok.1 htypes) t).2 ht
  have hempty : types.isEmpty = false := List.isEmpty_eq_false_iff_exists_mem.2 ⟨t, hmem⟩
  rw [hempty] at h
  obtain ⟨parsers, -, h⟩ := bind_eq_ok.1 h
  obtain ⟨js, -, h⟩ := bind_eq_ok.1 h
  cases h

/-- Lines behind a line leave a line feed at the end. -/
theorem exists_eq_append_feed (head : String) (lines : List String) :
    ∃ before, head ++ "\n" ++ String.join (lines.map (· ++ "\n")) = before ++ "\n" := by
  rcases List.eq_nil_or_concat lines with rfl | ⟨init, last, rfl⟩
  · exact ⟨head, by simp⟩
  · refine ⟨head ++ "\n" ++ String.join (init.map (· ++ "\n")) ++ last, ?_⟩
    simp [String.join_append, String.append_assoc]

/-- Each parser of a file is declared in the text of its parsers. -/
theorem standsIn_renderParsers
    (h : f.renderParsers registry runtimePrefix MessageType.isEligible = .ok (some text))
    {t : MessageType} (ht : f.Parses t) : StandsIn (declaration t.parser) text := by
  obtain ⟨parser, hparser⟩ := exists_renderParser_of_mem h ht
  obtain ⟨types, parsers, js, htypes, -, hparsers, -, rfl⟩ := renderParsers_eq_some h
  obtain ⟨rest, rfl⟩ := MessageType.declaration_of_renderParser hparser
  obtain ⟨before, after, rfl⟩ := List.append_of_mem
    ((mem_mapM_iff hparsers _).2 ⟨t, (mem_targetTypes_iff htypes t).2 ht, hparser⟩)
  -- the parser stands behind the imports or behind the parser of another message
  obtain ⟨front, hfront⟩ := exists_eq_append_feed ("\n// " ++ generatedMarker ++ "\n\n" ++
    runtimeImport "ObjectParser" (Naming.pathToRoot js ++ runtimePrefix ++ "object-parser.js") ++
    ("let " ++ "TypeParsers" ++ " = require('" ++
      (Naming.pathToRoot js ++ runtimePrefix ++ "type-parsers.js") ++ "').default;")) before
  refine ⟨front, rest ++ "\n" ++ String.join (after.map (· ++ "\n")), ?_⟩
  rw [← hfront]
  simp [parsersText, runtimeImport, String.join_append, String.append_assoc]

theorem ne_empty_of_renderParsers
    (h : f.renderParsers registry runtimePrefix MessageType.isEligible = .ok (some text)) :
    text ≠ "" := by
  obtain ⟨types, parsers, js, -, -, -, -, rfl⟩ := renderParsers_eq_some h
  simp [parsersText]

theorem ne_empty_of_renderTypeUrls (h : f.renderTypeUrls = .ok (some text)) : text ≠ "" := by
  obtain ⟨types, -, h⟩ := bind_eq_ok.1 h
  split at h
  · cases h
  · obtain ⟨w, -, h⟩ := bind_eq_ok.1 h
    obtain ⟨body, -, h⟩ := bind_eq_ok.1 h
    cases h
    simp

end Schema.File

end Protogen
