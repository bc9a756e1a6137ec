import Protogen.Output.Parser
import Protogen.Proofs.Field.Generate
import Protogen.Proofs.Field.Run
import Protogen.Proofs.Schema.Types

/-!
# What a generated parser does

The method that turns a plain object into a message is read as the program that its lines spell,
and that program is run.

* `plans` are the plans of the fields of a message, in declaration order.
* `emitMethod_frames` puts what is written for the fields into the frame of the method.
* `fromObjectMethod_eq` gives the lines of the method and when there are none.
* `fromObject_runs` says what the method does on null and on every object.
-/

set_option autoImplicit false

namespace Protogen

open Code Script

/-- The plan of a field that may not be null. -/
def planDeclared (registry : Registry) (field : Option Schema.Field) :
    Except Failure FieldPlan := do
  let f ← failing .nullPart (Schema.declared field)
  FieldPlan.of f registry

theorem parseDeclared_follows {field : Option Schema.Field} (registry : Registry)
    (hname : ∀ f, field = some f → f.hasPlainName = true) :
    Follows (parseDeclared field registry) (planDeclared registry field)
      fun p => p.statement.lines := by
  refine Follows.demand fun f hf => ?_
  have hfield : field = some f := Schema.declared_eq_ok_iff.1 (failing_eq_ok.1 hf)
  exact generate_follows registry (hname f hfield)

namespace Schema.MessageType

/-- The plans of the fields of a message. -/
def plans (t : MessageType) (registry : Registry) : Except Failure (List FieldPlan) := do
  let fields ← failing .nullPart (wanted t.declaration.fields)
  fields.mapM (planDeclared registry)

/-- Whether the names of all fields of a message are without braces. -/
def hasPlainNames (t : MessageType) : Prop :=
  ∀ fields, t.declaration.fields = some fields → ∀ f, some f ∈ fields → f.hasPlainName = true

/-- The JavaScript type of a message. -/
def jsType (t : MessageType) : String := Naming.typeName (shownName t.fullName)

/-- The lines in the body of the method. -/
def methodLines (t : MessageType) (plans : List FieldPlan) : List Line :=
  (Statement.when (.one (.isNull (.var FieldPlan.objectVariable))) [.leave .null]).lines ++
    ([⟨0, ""⟩] ++ ((Statement.create FieldPlan.messageVariable t.jsType).lines ++
      (plans.flatMap (fun p => [⟨0, ""⟩] ++ p.statement.lines) ++
        ([⟨0, ""⟩] ++ (Statement.leave (.var FieldPlan.messageVariable)).lines))))

/-- The lines of the method. -/
def codeLines (t : MessageType) (plans : List FieldPlan) : List Line :=
  openingLine (t.parser ++ ".prototype.fromObject" ++ functionText ++ "(" ++
      FieldPlan.objectVariable ++ ")") ::
    (t.methodLines plans).map (Writer.shift 1) ++ [closingLine ";"]

/-- The statements in the body of the method. -/
def methodBody (t : MessageType) (plans : List FieldPlan) : List Statement :=
  [.when (.one (.isNull (.var FieldPlan.objectVariable))) [.leave .null],
    .create FieldPlan.messageVariable t.jsType] ++
      (plans.map FieldPlan.statement ++ [.leave (.var FieldPlan.messageVariable)])

/-- The lines of the method around the code of its fields. -/
def methodFrame (t : MessageType) (code : List Line) : List Line :=
  ⟨0, t.parser ++ ".prototype.fromObject" ++ " = function(" ++ "obj" ++ ")" ++ " \x7b"⟩ ::
    (⟨0, "if (obj === null) \x7b"⟩ :: ⟨1, "return null;"⟩ :: ⟨0, "\x7d"⟩ :: ⟨0, ""⟩ ::
      ⟨0, "let msg = new " ++ t.jsType ++ "();"⟩ ::
        (code ++ [⟨0, ""⟩, ⟨0, "return msg;"⟩])).map (Writer.shift 1) ++ [⟨0, "\x7d;"⟩]

/-- What is written for the fields is put into the frame of the method, each behind an empty
line. -/
theorem emitMethod_frames {α : Type} (t : MessageType) (registry : Registry)
    {planned : Option Field → Except Failure α} {lines : α → List Line}
    (h : ∀ fields, t.declaration.fields = some fields → ∀ field ∈ fields,
      Follows (parseDeclared field registry) (planned field) lines) :
    Follows (t.emitMethod registry)
      (failing .nullPart (wanted t.declaration.fields) >>= fun fields => fields.mapM planned)
      fun ps => t.methodFrame (ps.flatMap fun p => [⟨0, ""⟩] ++ lines p) := by
  have hnull : Emits (Emission.ifBlock "obj === null" (Emission.line "return null;")) (.ok ())
      [⟨0, "if (obj === null) \x7b"⟩, ⟨1, "return null;"⟩, ⟨0, "\x7d"⟩] :=
    Emits.ifBlock (Emits.line (by decide))
  have hcreate : Emits (Emission.line ("let msg = new " ++ t.jsType ++ "();")) (.ok ())
      [⟨0, "let msg = new " ++ t.jsType ++ "();"⟩] := Emits.line (by simp)
  have hleave : Emits (Emission.line "return msg;") (.ok ()) [⟨0, "return msg;"⟩] :=
    Emits.line (by decide)
  refine Follows.method (Follows.after hnull (Follows.after Emits.blank (Follows.after hcreate
    (Follows.demand fun fields hfields => ?_))))
  refine Follows.before (Follows.forM fun field hfield => Follows.after Emits.blank ?_)
    (Emits.blank.bind hleave)
  exact h fields (wanted_eq_ok_iff.1 (failing_eq_ok.1 hfields)) field hfield

theorem codeLines_eq_methodFrame (t : MessageType) (plans : List FieldPlan) :
    t.codeLines plans = t.methodFrame (plans.flatMap fun p => [⟨0, ""⟩] ++ p.statement.lines) := by
  have hheader : t.parser ++ ".prototype.fromObject" ++ functionText ++ "(" =
      t.parser ++ ".prototype.fromObject" ++ " = function(" := by
    rw [String.append_assoc]
    rfl
  have hcreate : (Statement.create FieldPlan.messageVariable t.jsType).lines =
      [⟨0, "let msg = new " ++ t.jsType ++ "();"⟩] := by
    have hstart : letText ++ FieldPlan.messageVariable ++ equalsText ++ newText =
        "let msg = new " := by decide
    rw [Statement.lines, simpleLine, hstart, String.append_assoc]
    rfl
  rw [codeLines, methodLines, hheader, hcreate]
  rfl

theorem emitMethod_follows (t : MessageType) (registry : Registry) (hnames : t.hasPlainNames) :
    Follows (t.emitMethod registry) (t.plans registry) t.codeLines := by
  have hframes := emitMethod_frames t registry fun fields hfields field hfield =>
    parseDeclared_follows registry fun f hf => hnames fields hfields f (hf ▸ hfield)
  simp only [← codeLines_eq_methodFrame] at hframes
  exact hframes

/-- The lines of the method, and when there are none. -/
theorem fromObjectMethod_eq (t : MessageType) (registry : Registry) (hnames : t.hasPlainNames) :
    t.fromObjectMethod registry = (t.plans registry).map fun plans =>
      ({ lines := (t.codeLines plans).map (Writer.shift 0) } : Writer) :=
  (emitMethod_follows t registry hnames).written

/-! ## Reading the method -/

/-- Whether the names of all fields of a message in JSON are identifiers. -/
def hasIdentifierKeys (t : MessageType) : Prop :=
  ∀ fields, t.declaration.fields = some fields → ∀ f key, some f ∈ fields →
    f.jsonKey = .ok key → isIdentifier key.toList = true

end Schema.MessageType

namespace FieldPlan

theorem isWellFormed_merge (p : FieldPlan) {operand : Operand} (h : operand.isWellFormed = true) :
    (p.merge operand).isWellFormed = true := by
  have hmessage : isIdentifier messageVariable.toList = true := by decide
  have harguments : p.keyArguments.all Operand.isWellFormed = true := by
    unfold keyArguments
    split <;> decide
  simp [merge, Statement.isWellFormed, hmessage, harguments, h]

theorem areWellFormed_convertAndMerge (p : FieldPlan) {raw : Access}
    (hraw : raw.isWellFormed = true) (hne : raw ≠ .var FieldToParse.propertyName) :
    areWellFormed (p.convertAndMerge raw) = true := by
  have hvalue : isIdentifier valueVariable.toList = true := by decide
  have hconversion : p.conversion.isWellFormed raw = true := by
    cases p.conversion <;> simp [Conversion.isWellFormed, hraw, hne]
  have hmerge : (p.merge (.var valueVariable)).isWellFormed = true :=
    p.isWellFormed_merge (by decide)
  simp [convertAndMerge, areWellFormed, Statement.isWellFormed, hvalue, hconversion, hmerge]

theorem areWellFormed_guarded (p : FieldPlan) {raw : Access}
    (hraw : raw.isWellFormed = true) (hne : raw ≠ .var FieldToParse.propertyName) :
    areWellFormed (p.guarded raw) = true := by
  have hconvert := p.areWellFormed_convertAndMerge hraw hne
  have hnull : (p.merge .null).isWellFormed = true := p.isWellFormed_merge rfl
  unfold guarded
  split
  · simp [areWellFormed, Statement.isWellFormed, Test.isWellFormed, Comparison.isWellFormed, hraw,
      hconvert, hnull]
  · exact hconvert

theorem isWellFormed_statement {p : FieldPlan} (hregular : p.IsRegular)
    (h : isIdentifier p.key.toList = true) : p.statement.isWellFormed = true := by
  have hobject : isIdentifier objectVariable.toList = true := by decide
  have hraw : p.raw.isWellFormed = true := by
    simp [FieldPlan.raw, Access.isWellFormed, hobject, h]
  have hentry : (Access.entry objectVariable p.key).isWellFormed = true := by
    simp [Access.isWellFormed, hobject, h]
  unfold statement
  split
  · have hbody := p.areWellFormed_guarded hraw (by simp [FieldPlan.raw])
    simp [Statement.isWellFormed, Test.isWellFormed, Comparison.isWellFormed, hraw, hbody]
  · have hbody : areWellFormed (p.guarded (.var FieldToParse.listItem)) = true :=
      p.areWellFormed_guarded (by decide) (by decide)
    have hitem : isIdentifier FieldToParse.listItem.toList = true := by decide
    simp [Statement.isWellFormed, areWellFormed, present, Test.isWellFormed,
      Comparison.isWellFormed, hraw, hitem, hbody]
  · rename_i key hholding
    have hbody := p.areWellFormed_convertAndMerge hentry (by simp)
    have hvariable : isIdentifier mapKeyVariable.toList = true := by decide
    have hkey : key.isWellFormed (.var FieldToParse.propertyName) = true := by
      rcases hregular.keys key hholding with rfl | rfl | rfl <;> decide
    simp [Statement.isWellFormed, areWellFormed, present, Test.isWellFormed,
      Comparison.isWellFormed, hraw, hvariable, hkey, hbody]

end FieldPlan

namespace Schema.MessageType

variable {t : MessageType} {plans : List FieldPlan}

/-- The lines of the body are read as its statements. -/
theorem readAs_methodLines (hplans : ∀ p ∈ plans, p.statement.isWellFormed = true) :
    Reading.ReadAs (t.methodLines plans) (t.methodBody plans) := by
  have hnull : Reading.ReadAs _ _ :=
    Reading.readAs_lines (.when (.one (.isNull (.var FieldPlan.objectVariable))) [.leave .null])
      (by decide)
  have hcreate : Reading.ReadAs _ _ :=
    Reading.readAs_lines (.create FieldPlan.messageVariable t.jsType)
      (by rw [Statement.isWellFormed]; decide)
  have hleave : Reading.ReadAs _ _ :=
    Reading.readAs_lines (.leave (.var FieldPlan.messageVariable)) (by decide)
  have hfields : Reading.ReadAs (plans.flatMap fun p => [⟨0, ""⟩] ++ p.statement.lines)
      (plans.map FieldPlan.statement) := by
    induction plans with
    | nil => exact Reading.ReadAs.nil
    | cons p plans ih =>
      have hfirst := Reading.readAs_lines p.statement (hplans p (List.mem_cons_self ..))
      have hrest := ih fun q hq => hplans q (List.mem_cons_of_mem _ hq)
      exact (Reading.ReadAs.blank.append hfirst).append hrest
  exact hnull.append (Reading.ReadAs.blank.append (hcreate.append
    (hfields.append (Reading.ReadAs.blank.append hleave))))

/-- The text of the method is read as a function with these statements. -/
theorem read_codeLines (hplans : ∀ p ∈ plans, p.statement.isWellFormed = true) :
    Program.read ({ lines := (t.codeLines plans).map (Writer.shift 0) } : Writer).rendered =
      some ⟨t.parser ++ ".prototype.fromObject", FieldPlan.objectVariable, t.methodBody plans⟩ := by
  have hrendered : ({ lines := (t.codeLines plans).map (Writer.shift 0) } : Writer).rendered =
      (t.codeLines plans).map (Writer.indented "  ") := by
    simp [Writer.rendered, Writer.indented_shift_zero]
  rw [hrendered]
  exact Program.read_indented _ (by decide) (readAs_methodLines hplans)

/-! ## Running the method -/

/-- What the method does on an object: it merges the fields in declaration order. -/
def expected (t : MessageType) (plans : List FieldPlan) (convert : Conversion → Value → Value)
    (source : Value) : Run :=
  (Run.sequence (plans.map fun p => p.expected convert (.message t.jsType) source)).andThen
    ⟨[], .returned (.message t.jsType)⟩

theorem runAll_statements {convert : Conversion → Value → Value} {scope : Scope}
    {message source : Value} (hplans : ∀ p ∈ plans, p.IsRegular)
    (hmessage : scope.lookup FieldPlan.messageVariable = some message)
    (hobject : scope.lookup FieldPlan.objectVariable = some source)
    (hsource : source.isMissing = false) (rest : List Statement) :
    runAll convert scope (plans.map FieldPlan.statement ++ rest) =
      (Run.sequence (plans.map fun p => p.expected convert message source)).andThen
        (runAll convert scope rest) := by
  induction plans with
  | nil => simp [Run.sequence, Run.done, Run.andThen]
  | cons p plans ih =>
    have hbinding : p.statement.isBinding = false := by
      unfold FieldPlan.statement
      split <;> rfl
    have hrest := ih fun q hq => hplans q (List.mem_cons_of_mem _ hq)
    have hfirst : p.statement.run convert scope = _ :=
      FieldPlan.statement_run (hplans p (List.mem_cons_self ..)).guard hmessage hobject hsource
    rw [List.map_cons, List.cons_append, runAll_cons _ hbinding, hrest, hfirst, ← Run.andThen_assoc]
    rfl

theorem call_null (t : MessageType) (plans : List FieldPlan)
    (convert : Conversion → Value → Value) (name : String) :
    Program.call convert ⟨name, FieldPlan.objectVariable, t.methodBody plans⟩ .null =
      ⟨[], .returned .null⟩ := by
  have htest : (Test.one (.isNull (.var FieldPlan.objectVariable))).holds?
      [(FieldPlan.objectVariable, .null)] = some true := rfl
  have hbinding : (Statement.when (.one (.isNull (.var FieldPlan.objectVariable)))
      [.leave .null]).isBinding = false := rfl
  unfold Program.call methodBody
  rw [List.cons_append, runAll_cons _ hbinding, Statement.run, htest]
  rfl

theorem call_object (hplans : ∀ p ∈ plans, p.IsRegular) (convert : Conversion → Value → Value)
    (name : String) {source : Value} (hsource : source.isEntity = true) :
    Program.call convert ⟨name, FieldPlan.objectVariable, t.methodBody plans⟩ source =
      t.expected plans convert source := by
  have hnull : source.isNull = false ∧ source.isMissing = false := by
    cases source <;> simp_all [Value.isEntity, Value.isNull, Value.isMissing, Value.isUndefined]
  have htest : (Test.one (.isNull (.var FieldPlan.objectVariable))).holds?
      [(FieldPlan.objectVariable, source)] = some false := by
    simp [Test.holds?, Comparison.holds?, Access.value?, hnull.1]
  have hbinding : (Statement.when (.one (.isNull (.var FieldPlan.objectVariable)))
      [.leave .null]).isBinding = false := rfl
  have hfields : runAll convert [(FieldPlan.messageVariable, .message t.jsType),
      (FieldPlan.objectVariable, source)] _ = _ :=
    runAll_statements hplans rfl rfl hnull.2 [.leave (.var FieldPlan.messageVariable)]
  unfold Program.call methodBody expected
  rw [List.cons_append, runAll_cons _ hbinding, Statement.run, htest]
  simp only [List.cons_append, List.nil_append, Script.runAll, hfields]
  rfl

theorem of_mem_plans {registry : Registry} {p : FieldPlan} (hplans : t.plans registry = .ok plans)
    (hmem : p ∈ plans) :
    ∃ fields f, t.declaration.fields = some fields ∧ some f ∈ fields ∧
      FieldPlan.of f registry = .ok p := by
  obtain ⟨fields, hfields, hplans⟩ := bind_eq_ok.1 hplans
  obtain ⟨field, hfield, hplan⟩ := (mem_mapM_iff hplans p).1 hmem
  obtain ⟨f, hf, hplan⟩ := bind_eq_ok.1 hplan
  refine ⟨fields, f, ?_, ?_, hplan⟩
  · cases hd : t.declaration.fields with
    | none =>
      rw [hd] at hfields
      cases hfields
    | some declared =>
      rw [hd] at hfields
      cases hfields
      rfl
  · cases field with
    | none => cases hf
    | some g =>
      cases hf
      exact hfield

/-- A generated parser makes null of null. Of an object it makes a new message, into which it
merges the fields in declaration order as their declarations say. -/
theorem fromObject_runs {registry : Registry} {w : Writer}
    (hok : t.fromObjectMethod registry = .ok w) (hnames : t.hasPlainNames)
    (hkeys : t.hasIdentifierKeys) :
    ∃ plans program, t.plans registry = .ok plans ∧ Program.read w.rendered = some program ∧
      ∀ convert, program.call convert .null = ⟨[], .returned .null⟩ ∧
        ∀ source, source.isEntity = true →
          program.call convert source = t.expected plans convert source := by
  rw [fromObjectMethod_eq t registry hnames] at hok
  cases hplans : t.plans registry with
  | error failure =>
    rw [hplans] at hok
    cases hok
  | ok plans =>
    rw [hplans] at hok
    cases hok
    have hfields : ∀ p ∈ plans, ∃ fields f, t.declaration.fields = some fields ∧
        some f ∈ fields ∧ FieldPlan.of f registry = .ok p := fun p hp => of_mem_plans hplans hp
    have hregular : ∀ p ∈ plans, p.IsRegular := by
      intro p hp
      obtain ⟨fields, f, -, -, hof⟩ := hfields p hp
      exact FieldPlan.isRegular_of hof
    have hwellFormed : ∀ p ∈ plans, p.statement.isWellFormed = true := by
      intro p hp
      obtain ⟨fields, f, hdeclared, hmem, hof⟩ := hfields p hp
      exact FieldPlan.isWellFormed_statement (hregular p hp)
        (hkeys fields hdeclared f p.key hmem (FieldPlan.key_of hof))
    refine ⟨plans, _, rfl, read_codeLines hwellFormed, fun convert => ⟨?_, fun source hsource => ?_⟩⟩
    · exact call_null t plans convert _
    · exact call_object hregular convert _ hsource

/-! ### A message with fields of all shapes -/

/-- A message with a number, a list of members of an enum, a map and a value of any kind. -/
def orderType : MessageType where
  fullName := some "shop.Order"
  file := { name := some "order.proto", package := some "shop" }
  declaration := .mk (some "Order")
    (some [
      some { name := some "id", type := some ⟨some "int64", none⟩, jsonName := some "id" },
      some { name := some "state", type := some ⟨some "enum", some "State"⟩,
             jsonName := some "state", repeated := some true },
      some { name := some "label", jsonName := some "label",
             map := some ⟨some ⟨some "int32", none⟩, some ⟨some "string", none⟩⟩ },
      some { name := some "extra", jsonName := some "extra",
             type := some ⟨some "message", some ".google.protobuf.Value"⟩ }])
    (some []) (some [])

/-- The types that the message refers to. -/
def orderRegistry : Registry :=
  ⟨[⟨"example.org/State", some "State", "proto.State", none⟩,
    Registry.wellKnown "google.protobuf.Value"]⟩

/-- An order with an inherited label and with null in two places. -/
def order : Value :=
  .entity "order" none [
    ⟨"id", true, true, .name "7"⟩,
    ⟨"state", true, true, .entity "states" (some [.name "OPEN", .null]) []⟩,
    ⟨"label", true, true, .entity "labels" none
      [⟨"1", true, true, .name "red"⟩, ⟨"2", false, true, .name "blue"⟩]⟩,
    ⟨"extra", true, true, .null⟩]

/-- The plans of the fields of an order. -/
def orderPlans : List FieldPlan := [
  ⟨"id", "id", .primitive "int64", .integer, .one⟩,
  ⟨"state", "state", .enum "State", .member "proto.State", .list⟩,
  ⟨"label", "label", .primitive "string", .plain, .map .integer⟩,
  ⟨"extra", "extra", .dynamic "google.protobuf.Value",
    .parsed "type.googleapis.com/google.protobuf.Value", .one⟩]

theorem plans_order : orderType.plans orderRegistry = .ok orderPlans := rfl

theorem hasPlainNames_order : orderType.hasPlainNames := by
  rintro fields ⟨⟩
  simp only [List.mem_cons, Option.some.injEq, List.not_mem_nil, or_false]
  rintro f (rfl | rfl | rfl | rfl) <;> decide

theorem hasIdentifierKeys_order : orderType.hasIdentifierKeys := by
  rintro fields ⟨⟩
  simp only [List.mem_cons, Option.some.injEq, List.not_mem_nil, or_false]
  rintro f key (rfl | rfl | rfl | rfl) ⟨⟩ <;> decide

theorem fromObject_runs_order : ∃ w plans program,
    orderType.fromObjectMethod orderRegistry = .ok w ∧ orderType.hasPlainNames ∧
      orderType.hasIdentifierKeys ∧ orderType.plans orderRegistry = .ok plans ∧
      Program.read w.rendered = some program ∧
      ∀ convert, program.call convert .null = ⟨[], .returned .null⟩ ∧
        order.isEntity = true ∧ program.call convert order =
          ⟨[⟨.message "proto.shop.Order", "setId", [convert .integer (.name "7")]⟩,
            ⟨.message "proto.shop.Order", "addState",
              [convert (.member "proto.State") (.name "OPEN")]⟩,
            ⟨.message "proto.shop.Order", "addState", [.null]⟩,
            ⟨.message "proto.shop.Order", "getLabelMap().set",
              [convert .integer (.name "1"), .name "red"]⟩,
            ⟨.message "proto.shop.Order", "setExtra",
              [convert (.parsed "type.googleapis.com/google.protobuf.Value") .null]⟩],
          .returned (.message "proto.shop.Order")⟩ := by
  have hok : orderType.fromObjectMethod orderRegistry =
      .ok { lines := (orderType.codeLines orderPlans).map (Writer.shift 0) } := by
    rw [fromObjectMethod_eq orderType orderRegistry hasPlainNames_order, plans_order]
    rfl
  obtain ⟨plans, program, hplans, hread, hruns⟩ :=
    fromObject_runs hok hasPlainNames_order hasIdentifierKeys_order
  rw [plans_order] at hplans
  cases hplans
  refine ⟨_, orderPlans, program, hok, hasPlainNames_order, hasIdentifierKeys_order, plans_order,
    hread, fun convert => ⟨(hruns convert).1, rfl, ?_⟩⟩
  exact (hruns convert).2 order rfl

end Schema.MessageType

end Protogen
