import Protogen.Output.File
import Protogen.Proofs.Field.Balance
import Protogen.Proofs.Schema.Types

/-!
# The lines of a parser

The code of a parser and that of the functions for type URLs are balanced, so that no scope is left
open or closed twice.

* `ParserLine` and `ParserHeader` list the lines of a parser.
* `renderParser_eq_ok` gives the lines of a parser that is rendered.
* `generate_balanced` is what holds of the code of every field on every writer, and with it of
  every parser and of the type URLs of every file.
-/

set_option autoImplicit false

namespace Protogen

open Code

namespace Schema.MessageType

/-- The lines of a parser that open no block. -/
inductive ParserLine (t : MessageType) (registry : Registry) : String → Prop
  | superCall : ParserLine t registry "ObjectParser.call(this);"
  | inheritance :
      ParserLine t registry (t.parser ++ ".prototype = Object.create(ObjectParser.prototype);")
  | ownConstructor :
      ParserLine t registry (t.parser ++ ".prototype.constructor = " ++ t.parser ++ ";")
  | nullResult : ParserLine t registry "return null;"
  | message :
      ParserLine t registry ("let msg = new " ++ Naming.typeName (shownName t.fullName) ++ "();")
  | result : ParserLine t registry "return msg;"
  | field {fields : List (Option Field)} {f : Field} {text : String}
      (hfields : t.declaration.fields = some fields) (hf : some f ∈ fields)
      (h : FieldToParse.CodeLine { field := f } registry text) : ParserLine t registry text

/-- The headers of the blocks of a parser. -/
inductive ParserHeader (t : MessageType) : String → Prop
  | declaration : ParserHeader t (t.parser ++ " = function(" ++ "" ++ ")")
  | method : ParserHeader t (t.parser ++ ".prototype.fromObject" ++ " = function(" ++ "obj" ++ ")")
  | isNull : ParserHeader t ("if (" ++ "obj === null" ++ ")")
  | field {fields : List (Option Field)} {f : Field} {header : String}
      (hfields : t.declaration.fields = some fields) (hf : some f ∈ fields)
      (h : FieldToParse.CodeHeader { field := f } header) : ParserHeader t header

variable {t : MessageType} {registry : Registry}

theorem balances_parseDeclared {fields : List (Option Field)} {field : Option Field}
    (hfields : t.declaration.fields = some fields) (hfield : field ∈ fields) :
    Balances (t.ParserLine registry) t.ParserHeader (parseDeclared field registry) := by
  refine .bind_demand (.failing (by simp) _) fun f hf => ?_
  obtain rfl := declared_eq_ok_iff.1 (failing_eq_ok.1 hf)
  exact FieldToParse.balances_generate.mono (fun _ => .field hfields hfield)
    fun _ => .field hfields hfield

theorem balances_emitMethod :
    Balances (t.ParserLine registry) t.ParserHeader (t.emitMethod registry) := by
  refine .method .method ?_
  refine .bind (.ifBlock .isNull (.line (by decide) .nullResult)) fun _ _ _ => ?_
  refine .bind .blank fun _ _ _ => .bind (.line (by simp) .message) fun _ _ _ => ?_
  refine .bind_demand (.failing (by simp) _) fun fields h => ?_
  have hfields : t.declaration.fields = some fields := wanted_eq_ok_iff.1 (failing_eq_ok.1 h)
  refine .bind (.forM fun field hfield => ?_) fun _ _ _ => ?_
  · exact .bind .blank fun _ _ _ => balances_parseDeclared hfields hfield
  · exact .bind .blank fun _ _ _ => .line (by decide) .result

theorem balances_declareParser :
    Balances (t.ParserLine registry) t.ParserHeader (declareParser t.parser) := by
  refine .bind (.method .declaration (.line (by decide) .superCall)) fun _ _ _ => ?_
  refine .bind (.line ?_ .inheritance) fun _ _ _ => .line ?_ .ownConstructor
  all_goals simp

theorem balances_code :
    Balances (t.ParserLine registry) t.ParserHeader (do
      declareParser t.parser
      Emission.blank
      Emission.append (← Emission.demand (t.fromObjectMethod registry))) := by
  refine .bind balances_declareParser fun _ _ _ => .bind .blank fun _ _ _ => ?_
  refine .bind_demand balances_emitMethod.noScopeFault_written fun method hmethod => ?_
  obtain ⟨-, hscopes, hlines⟩ := balances_emitMethod.written hmethod
  exact .append hscopes hlines

/-- A parser that is rendered is the text of balanced lines. -/
theorem renderParser_eq_ok {text : String} (h : t.renderParser registry = .ok text) :
    ∃ ls, Balanced (t.ParserLine registry) t.ParserHeader 0 ls ∧
      text = String.intercalate "\n" (ls.map (Writer.indented "  ")) := by
  obtain ⟨writer, hwriter, h⟩ := bind_eq_ok.1 h
  obtain ⟨hindent, hscopes, hlines⟩ := balances_code.written hwriter
  refine ⟨writer.lines, hlines, ?_⟩
  have htext : writer.text = .ok writer.draft := by simp [Writer.text, hscopes]
  rw [htext] at h
  cases h
  rw [← hindent]
  rfl

theorem noScopeFault_renderParser : NoScopeFault (t.renderParser registry) := by
  intro fault h
  rcases bind_eq_error.1 h with h | ⟨writer, hwriter, h⟩
  · exact balances_code.noScopeFault_written fault h
  · obtain ⟨-, hscopes, -⟩ := balances_code.written hwriter
    rw [Writer.text, hscopes] at h
    cases h

end Schema.MessageType

namespace Schema.File

variable {f : File}

/-- The lines of the function that returns the URL of a type, whatever they are. -/
theorem balances_emitTypeUrl (fullName : Option String) (url : String) :
    Balances (fun _ => True) (fun _ => True) (emitTypeUrl fullName url) := by
  refine .bind .blank fun _ _ _ => .bind (.line ?_ trivial) fun _ _ _ => ?_
  · simp
  · exact .method trivial (.line (by simp) trivial)

theorem noScopeFault_renderTypeUrls : NoScopeFault f.renderTypeUrls := by
  refine .bind (.failing (by simp) _) fun types => ?_
  split
  · exact .ok _
  · have hcode : Balances (fun _ => True) (fun _ => True)
        (types.forM fun t => emitTypeUrl t.1 t.2) :=
      .forM fun t _ => balances_emitTypeUrl t.1 t.2
    intro fault h
    rcases bind_eq_error.1 h with h | ⟨writer, hwriter, h⟩
    · exact hcode.noScopeFault_written fault h
    · obtain ⟨-, hscopes, -⟩ := hcode.written hwriter
      rw [Writer.text, hscopes] at h
      cases h

end Schema.File

/-- The code of a field is run on any writer, with any scopes open, and may fail anywhere: the
scopes and the lines before are as they were, and the lines written are whole blocks, in which each
line that opens a block has one closing line. Parsers and type URLs are never refused for scopes
that do not match. -/
theorem generate_balanced :
    (∀ (f : FieldToParse) (registry : Registry) (w : Writer),
      NoScopeFault ((f.generate registry).run w).1 ∧
        ∃ ls, ((f.generate registry).run w).2 = { w with lines := w.lines ++ ls } ∧
          Balanced (fun text => ¬opensBlock text ∧ ¬closesBlock text) (fun _ => True) w.depth ls ∧
          ∀ opening after, opening :: after <:+ ls → opensBlock opening.text →
            ∃! n, ClosesAt opening after n) ∧
      (∀ (t : Schema.MessageType) (registry : Registry), NoScopeFault (t.renderParser registry)) ∧
      ∀ file : Schema.File, NoScopeFault file.renderTypeUrls := by
  refine ⟨fun f registry w => ?_, fun t registry => Schema.MessageType.noScopeFault_renderParser,
    fun file => Schema.File.noScopeFault_renderTypeUrls⟩
  have hcode : Balances (fun text => ¬opensBlock text ∧ ¬closesBlock text) (fun _ => True)
      (f.generate registry) :=
    FieldToParse.balances_generate.mono (fun _ h => ⟨h.not_opensBlock, h.not_closesBlock⟩)
      fun _ _ => trivial
  obtain ⟨⟨ls, hls, hbalanced⟩, hfault⟩ := hcode.run w
  refine ⟨hfault, ls, hls, hbalanced, ?_⟩
  intro opening after hsuffix hopens
  exact hbalanced.existsUnique_closesAt (fun _ h => h.1) hsuffix hopens

end Protogen
