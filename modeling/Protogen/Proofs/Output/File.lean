import Protogen.Output.File
import Protogen.Proofs.Field.Consistency
import Protogen.Proofs.Field.Outcome
import Protogen.Proofs.Output.Parser

/-!
# When the parsers of a file are rendered

* `renderParser_of_error` and `exists_renderParser` take a parser back to its method.
* `MessageType.exists_renderParser_iff` and `File.exists_renderParsers_iff` tell when there is a
  parser, and when there are all parsers of a file: if no field is inconsistent.
* `MessageType.exists_written_of_renderParser` and `File.exists_renderParser_of_mem` take the
  parsers of a file back to its messages and their fields, whatever the cause of a failure.
-/

set_option autoImplicit false

namespace Protogen

open Code

variable {registry : Registry}

/-! ## Parsers of messages -/

namespace Schema.MessageType

variable {t : MessageType}

theorem emits_declareParser (parser : String) :
    Emits (declareParser parser) (.ok ())
      ([⟨0, parser ++ " = function(" ++ "" ++ ")" ++ " \x7b"⟩, ⟨1, "ObjectParser.call(this);"⟩,
          ⟨0, "\x7d;"⟩] ++
        ([⟨0, parser ++ ".prototype = Object.create(ObjectParser.prototype);"⟩] ++
          [⟨0, parser ++ ".prototype.constructor = " ++ parser ++ ";"⟩])) := by
  have hcall : Emits (Emission.line "ObjectParser.call(this);") (.ok ())
      [⟨0, "ObjectParser.call(this);"⟩] := Emits.line (by decide)
  have hbody : Emits (Emission.method parser "" (Emission.line "ObjectParser.call(this);"))
      (.ok ()) _ := hcall.method
  refine hbody.bind (Emits.bind (Emits.line ?_) (Emits.line ?_))
  · simp
  · simp

/-- A parser fails as its method does. -/
theorem renderParser_of_error {failure : Failure}
    (h : t.fromObjectMethod registry = .error failure) :
    t.renderParser registry = .error failure := by
  obtain ⟨ls, hls⟩ : ∃ ls, Emits (do
      declareParser t.parser
      Emission.blank
      Emission.append (← Emission.demand (t.fromObjectMethod registry))) (.error failure) ls := by
    rw [h]
    exact ⟨_, (emits_declareParser t.parser).bind (Emits.blank.bind
      (Emits.demand (.error failure)).bind_error)⟩
  rw [renderParser, hls.written_error]
  rfl

/-- There is a parser if there is a method; it has the lines of the method. -/
theorem exists_renderParser {w : Writer} (h : t.fromObjectMethod registry = .ok w)
    (hscopes : w.scopes = []) :
    ∃ lines, t.renderParser registry = .ok (String.intercalate "\n" lines) ∧
      ∀ l ∈ w.lines, Writer.indented "  " l ∈ lines := by
  obtain ⟨ls, hls, hlines⟩ : ∃ ls, Emits (do
      declareParser t.parser
      Emission.blank
      Emission.append (← Emission.demand (t.fromObjectMethod registry))) (.ok ()) ls ∧
        w.lines ⊆ ls := by
    rw [h]
    refine ⟨_, (emits_declareParser t.parser).bind (Emits.blank.bind
      ((Emits.demand (.ok w)).bind (Emits.append hscopes))), fun l hl => ?_⟩
    simp [hl]
  refine ⟨(ls.map (Writer.shift 0)).map (Writer.indented "  "), ?_, fun l hl => ?_⟩
  · rw [renderParser, hls.written]
    rfl
  · rw [← Writer.indented_shift_zero]
    exact List.mem_map_of_mem (List.mem_map_of_mem (hlines hl))

theorem isDetermined_parseDeclared (field : Option Field) (registry : Registry) :
    IsDetermined (parseDeclared field registry) := by
  unfold parseDeclared
  exact (IsDetermined.demand _).bind fun f => FieldToParse.isDetermined_generate

/-- Where there is a parser, there is code for each field on its own. -/
theorem exists_written_of_renderParser {text : String} (h : t.renderParser registry = .ok text)
    {fields : List (Option Field)} (hfields : t.declaration.fields = some fields)
    {field : Option Field} (hfield : field ∈ fields) :
    ∃ w, (parseDeclared field registry).written = .ok w := by
  cases hall : fields.mapM fun field => (parseDeclared field registry).written.map fun _ => () with
  | ok results =>
    obtain ⟨done, hdone⟩ := exists_mapM_iff.1 ⟨results, hall⟩ field hfield
    cases hwritten : (parseDeclared field registry).written with
    | ok w => exact ⟨w, rfl⟩
    | error failure =>
      rw [hwritten] at hdone
      cases hdone
  | error failure =>
    -- the method fails for the first field without code
    have heach : Yields (fields.forM fun field => do
        Emission.blank
        parseDeclared field registry) (.error failure) := by
      have hitem : ∀ field ∈ fields, Yields (do
          Emission.blank
          parseDeclared field registry)
          ((parseDeclared field registry).written.map fun _ => ()) := by
        intro field _
        have hfieldCode := Yields.of_written (isDetermined_parseDeclared field registry)
        exact (Yields.of_emits Emits.blank).bind hfieldCode
      have hforM := Yields.forM hitem
      rw [hall] at hforM
      exact hforM
    have hmethod : Yields (t.emitMethod registry) (.error failure) := by
      unfold emitMethod
      rw [hfields]
      exact Yields.within ((Yields.within (Yields.line _)).bind ((Yields.of_emits Emits.blank).bind
        ((Yields.line _).bind ((Yields.demand _).bind heach.bind_error))))
    rw [renderParser_of_error hmethod.written_error] at h
    cases h

/-- A message with a field for which no code can be written. -/
def HasInconsistentField (t : MessageType) (Knows : String → Prop) : Prop :=
  ∃ fields f, t.declaration.fields = some fields ∧ some f ∈ fields ∧ f.IsInconsistent Knows

/-- There is a parser for a complete message unless one of its fields is inconsistent. -/
theorem exists_renderParser_iff {Knows : String → Prop} (hcomplete : t.declaration.IsComplete)
    (hnames : t.hasPlainNames)
    (hknows : ∀ name, (∃ entry, registry.lookup (some name) = .ok entry) ↔ Knows name) :
    (∃ text, t.renderParser registry = .ok text) ↔ ¬t.HasInconsistentField Knows := by
  obtain ⟨fields, hfields, hfull⟩ := hcomplete.fields
  have hplans : (∃ plans, t.plans registry = .ok plans) ↔ ¬t.HasInconsistentField Knows := by
    have hmapM : t.plans registry = fields.mapM (planDeclared registry) := by
      rw [plans, hfields]
      rfl
    rw [hmapM, exists_mapM_iff]
    constructor
    · rintro hall ⟨fields', f, hfields', hf, hinconsistent⟩
      rw [hfields] at hfields'
      cases hfields'
      have hplan : ∃ p, FieldPlan.of f registry = .ok p := hall (some f) hf
      exact (FieldPlan.exists_of_iff (hcomplete.each fields hfields f hf) hknows).1 hplan
        hinconsistent
    · intro hconsistent item hitem
      cases item with
      | none => exact absurd hitem hfull
      | some f =>
        have hfield := hcomplete.each fields hfields f hitem
        exact (FieldPlan.exists_of_iff hfield hknows).2 fun hinconsistent =>
          hconsistent ⟨fields, f, hfields, hitem, hinconsistent⟩
  rw [← hplans]
  have hmethod := fromObjectMethod_eq t registry hnames
  cases hp : t.plans registry with
  | error failure =>
    rw [hp] at hmethod
    rw [renderParser_of_error hmethod]
    simp
  | ok plans =>
    rw [hp] at hmethod
    obtain ⟨lines, hparser, -⟩ := exists_renderParser hmethod rfl
    simp [hparser]

/-- A parser has the lines of what is planned for its fields. -/
theorem exists_lines_of_plans (hnames : t.hasPlainNames) {plans : List FieldPlan}
    (hplans : t.plans registry = .ok plans) :
    ∃ lines, t.renderParser registry = .ok (String.intercalate "\n" lines) ∧
      ∀ l ∈ t.codeLines plans, Writer.indented "  " l ∈ lines := by
  have hmethod := fromObjectMethod_eq t registry hnames
  rw [hplans] at hmethod
  obtain ⟨lines, hparser, hlines⟩ := exists_renderParser hmethod rfl
  refine ⟨lines, hparser, fun l hl => ?_⟩
  rw [← Writer.indented_shift_zero]
  exact hlines _ (List.mem_map_of_mem hl)

/-- A parser of a complete message fails for causes in the schema only. -/
theorem onlyInconsistent_renderParser (hcomplete : t.declaration.IsComplete)
    (hnames : t.hasPlainNames) (registry : Registry) :
    OnlyInconsistent (t.renderParser registry) := by
  obtain ⟨fields, hfields, hfull⟩ := hcomplete.fields
  have hplans : OnlyInconsistent (t.plans registry) := by
    rw [plans, hfields]
    refine OnlyInconsistent.mapM fun item hitem => ?_
    cases item with
    | none => exact absurd hitem hfull
    | some f => exact FieldPlan.onlyInconsistent_of (hcomplete.each fields hfields f hitem) registry
  have hmethod := fromObjectMethod_eq t registry hnames
  intro failure hfailure
  cases hp : t.plans registry with
  | error cause =>
    rw [hp] at hmethod
    rw [renderParser_of_error hmethod] at hfailure
    cases hfailure
    exact hplans _ hp
  | ok plans =>
    rw [hp] at hmethod
    obtain ⟨lines, hparser, -⟩ := exists_renderParser hmethod rfl
    rw [hparser] at hfailure
    cases hfailure

end Schema.MessageType

/-! ## Parsers of files -/

namespace Schema.File

variable {f : File}

theorem exists_jsFile (hcomplete : f.IsComplete) : ∃ js, f.jsFile = .ok js := by
  obtain ⟨name, hname⟩ := Option.ne_none_iff_exists'.1 hcomplete.name
  exact ⟨Naming.jsFileName name, by rw [jsFile, hname]; rfl⟩

/-- A message type of a file that gets a parser. -/
def Parses (f : File) (t : MessageType) : Prop := f.DeclaresMessage t ∧ t.isEligible = true

theorem mem_targetTypes_iff {types : List MessageType}
    (h : f.targetTypes MessageType.isEligible = .ok types) (t : MessageType) :
    t ∈ types ↔ f.Parses t := by
  unfold targetTypes at h
  cases hall : f.messageTypes with
  | error part =>
    rw [hall] at h
    cases h
  | ok all =>
    rw [hall] at h
    cases h
    rw [List.mem_filter, f.mem_messageTypes_iff hall, Parses]

/-- Where the parsers of a file are rendered, those of all its messages are. -/
theorem exists_renderParser_of_mem {runtimePrefix : String} {text : Option String}
    (h : f.renderParsers registry runtimePrefix MessageType.isEligible = .ok text) {t : MessageType}
    (ht : f.Parses t) : ∃ parser, t.renderParser registry = .ok parser := by
  obtain ⟨types, htypes, h⟩ := bind_eq_ok.1 h
  have hmem := (mem_targetTypes_iff (failing_eq_ok.1 htypes) t).2 ht
  have hempty : types.isEmpty = false := List.isEmpty_eq_false_iff_exists_mem.2 ⟨t, hmem⟩
  rw [hempty] at h
  obtain ⟨parsers, hparsers, -⟩ := bind_eq_ok.1 h
  exact exists_mapM_iff.1 ⟨parsers, hparsers⟩ t hmem

/-- The parsers of a complete file, by the parsers of its messages. -/
theorem renderParsers_spec (hcomplete : f.IsComplete) (registry : Registry) (runtimePrefix : String) :
    ∃ (types : List MessageType) (finish : List String → Option String),
      (∀ t, t ∈ types ↔ f.Parses t) ∧
      f.renderParsers registry runtimePrefix MessageType.isEligible =
        (types.mapM fun t : MessageType => t.renderParser registry).map finish := by
  obtain ⟨all, hall, -⟩ := f.messageTypes_spec hcomplete
  obtain ⟨js, hjs⟩ := exists_jsFile hcomplete
  obtain ⟨types, htypes⟩ : ∃ types, f.targetTypes MessageType.isEligible = .ok types :=
    ⟨_, by rw [targetTypes, hall]; rfl⟩
  have hmem := mem_targetTypes_iff htypes
  cases hempty : types.isEmpty with
  | true =>
    refine ⟨types, fun _ => none, hmem, ?_⟩
    rw [List.isEmpty_iff] at hempty
    rw [renderParsers, htypes, hempty]
    rfl
  | false =>
    refine ⟨types, fun parsers => some (parsersText (Naming.pathToRoot js ++ runtimePrefix) parsers),
      hmem, ?_⟩
    rw [renderParsers, htypes, hjs]
    show (if types.isEmpty then _ else _) = _
    rw [hempty]
    cases types.mapM fun t => t.renderParser registry <;> rfl

/-- The parsers of a complete file are rendered unless a field of one of its messages is
inconsistent. -/
theorem exists_renderParsers_iff {Knows : String → Prop} (hcomplete : f.IsComplete)
    (hnames : ∀ t, f.DeclaresMessage t → t.hasPlainNames)
    (hknows : ∀ name, (∃ entry, registry.lookup (some name) = .ok entry) ↔ Knows name)
    (runtimePrefix : String) :
    (∃ text, f.renderParsers registry runtimePrefix MessageType.isEligible = .ok text) ↔
      ∀ t, f.Parses t → ¬t.HasInconsistentField Knows := by
  obtain ⟨types, finish, hmem, hrender⟩ := renderParsers_spec hcomplete registry runtimePrefix
  have hmapM : (∃ text, f.renderParsers registry runtimePrefix MessageType.isEligible = .ok text) ↔
      ∃ parsers, (types.mapM fun t => t.renderParser registry) = .ok parsers := by
    rw [hrender]
    cases types.mapM fun t => t.renderParser registry <;> simp [Except.map]
  rw [hmapM, exists_mapM_iff]
  constructor
  · intro hall t ht
    exact (MessageType.exists_renderParser_iff (hcomplete.each t ht.1) (hnames t ht.1) hknows).1
      (hall t ((hmem t).2 ht))
  · intro hall t ht
    have hparses := (hmem t).1 ht
    exact (MessageType.exists_renderParser_iff (hcomplete.each t hparses.1) (hnames t hparses.1)
      hknows).2 (hall t hparses)

/-- The parsers of a complete file fail for causes in the schema only. -/
theorem onlyInconsistent_renderParsers (hcomplete : f.IsComplete)
    (hnames : ∀ t, f.DeclaresMessage t → t.hasPlainNames) (registry : Registry)
    (runtimePrefix : String) :
    OnlyInconsistent (f.renderParsers registry runtimePrefix MessageType.isEligible) := by
  obtain ⟨types, finish, hmem, hrender⟩ := renderParsers_spec hcomplete registry runtimePrefix
  rw [hrender]
  refine (OnlyInconsistent.mapM fun t ht => ?_).map
  have hparses := (hmem t).1 ht
  exact MessageType.onlyInconsistent_renderParser (hcomplete.each t hparses.1)
    (hnames t hparses.1) registry

end Schema.File

end Protogen
