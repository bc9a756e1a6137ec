import Protogen.Proofs.Failure
import Protogen.Proofs.Naming
import Protogen.Proofs.Script.RoundTrip

/-!
# What is planned for a field

Before code is written for a field, everything that can go wrong is found out: the plan of a field
holds its name, its name in JSON, and how its raw values are converted.

* `ValueKind.conversion` and `ValueKind.keyConversion` are the conversions that the expressions
  for values and keys stand for.
* `FieldPlan.of` makes the plan of a field, `FieldPlan.statement` is the code that carries it out.
-/

set_option autoImplicit false

namespace Protogen

open Code Script

/-! ## Conversions -/

namespace ValueKind

/-- The conversion of a raw scalar. -/
def scalarConversion (scalar : String) : Conversion :=
  if longTypes.contains scalar then .integer
  else if floatTypes.contains scalar then .decimal
  else .plain

/-- The conversion of a raw value. -/
def conversion (kind : ValueKind) (registry : Registry) : Except Unregistered Conversion :=
  match kind with
  | .primitive scalar => .ok (scalarConversion scalar)
  | .enum name => (registry.lookup (some name)).map fun e => .member e.typeName
  | .message name => (registry.lookup (some name)).map fun e => .parsed e.url
  | .dynamic name => (registry.lookup (some name)).map fun e => .parsed e.url

/-- The conversion of a raw key. -/
def keyConversion (kind : ValueKind) : Except Inconsistency Conversion :=
  match kind with
  | .primitive scalar =>
    if longTypes.contains scalar || intTypes.contains scalar then .ok .integer
    else if scalar = "bool" then .ok .truth
    else if scalar = "string" then .ok .plain
    else .error (.keyType scalar)
  | _ => .error (.keyKind kind.text)

end ValueKind

theorem integer_text (raw : String) : Conversion.integer.text raw = "parseInt(" ++ raw ++ ")" := by
  have hname : integerFunction ++ "(" = "parseInt(" := by decide
  rw [Conversion.text, hname]

theorem decimal_text (raw : String) :
    Conversion.decimal.text raw = "parseFloat(" ++ raw ++ ")" := by
  have hname : decimalFunction ++ "(" = "parseFloat(" := by decide
  rw [Conversion.text, hname]

theorem parsed_text (url raw : String) :
    (Conversion.parsed url).text raw = parseCall (parserLookup url) raw := by
  have hend : parserEnd ++ "(" = "')" ++ ".fromObject(" := by decide
  have hcall : parserStart ++ url ++ parserEnd ++ "(" = parserLookup url ++ ".fromObject(" := by
    rw [String.append_assoc, hend, ← String.append_assoc]
    rfl
  rw [Conversion.text, parseCall, hcall]

theorem valueExpression_eq (kind : ValueKind) (raw : String) (registry : Registry) :
    valueExpression kind raw registry = (kind.conversion registry).map (·.text raw) := by
  cases kind with
  | primitive scalar =>
    simp only [valueExpression, ValueKind.conversion, ValueKind.scalarConversion, scalarExpression,
      Except.map]
    split
    · rw [integer_text]
    · split
      · rw [decimal_text]
      · rfl
  | enum name =>
    simp only [valueExpression, ValueKind.conversion]
    cases registry.lookup (some name) <;> rfl
  | message name =>
    simp only [valueExpression, ValueKind.conversion]
    cases registry.lookup (some name) <;> simp [Except.map, parsed_text]
  | dynamic name =>
    simp only [valueExpression, ValueKind.conversion]
    cases registry.lookup (some name) <;> simp [Except.map, parsed_text]

theorem keyExpression_eq (kind : ValueKind) (raw : String) :
    keyExpression kind raw = kind.keyConversion.map (·.text raw) := by
  cases kind with
  | primitive scalar =>
    simp only [keyExpression, ValueKind.keyConversion]
    split
    · simp only [Except.map, integer_text]
    · split
      · rfl
      · split <;> rfl
  | _ => rfl

/-! ## Plans -/

namespace Schema.Field

/-- The name of a field, which has to be there. -/
def declaredName (f : Field) : Except NullPart String :=
  match f.name with
  | some name => .ok name
  | none => .error .sequence

/-- Whether the name of a field has no braces. -/
def hasPlainName (f : Field) : Bool := f.name.all fun name => Template.isPlain name.toList

theorem isPlain_of_declaredName {f : Field} {name : String} (hplain : f.hasPlainName = true)
    (h : f.declaredName = .ok name) : Template.isPlain name.toList = true := by
  unfold declaredName at h
  split at h
  · rename_i hname
    cases h
    simpa [hasPlainName, hname] using hplain
  · cases h

end Schema.Field

/-- How many values a planned field holds; for a map, with the conversion of its keys. -/
inductive Holding
  | one
  | list
  | map (key : Conversion)

/-- The shape that a field has. -/
def Holding.shape : Holding → Shape
  | .one => .singular
  | .list => .repeated
  | .map _ => .map

/-- What the code for a field is made from. -/
structure FieldPlan where
  name : String
  /-- the name in JSON -/
  key : String
  kind : ValueKind
  conversion : Conversion
  holding : Holding

namespace FieldPlan

/-- The plan of a field that is no map. -/
def ofValues (f : Schema.Field) (registry : Registry) (key : String) (holding : Holding) :
    Except Failure FieldPlan := do
  let kind ← f.elementKind
  let name ← failing .nullPart f.declaredName
  let conversion ← failing .unregistered (kind.conversion registry)
  pure ⟨name, key, kind, conversion, holding⟩

theorem of_ofValues {f : Schema.Field} {registry : Registry} {key : String} {holding : Holding}
    {p : FieldPlan} (h : ofValues f registry key holding = .ok p) :
    p.key = key ∧ p.holding = holding := by
  obtain ⟨kind, -, h⟩ := bind_eq_ok.1 h
  obtain ⟨name, -, h⟩ := bind_eq_ok.1 h
  obtain ⟨conversion, -, h⟩ := bind_eq_ok.1 h
  cases h
  exact ⟨rfl, rfl⟩

/-- The plan of a map. -/
def ofMap (f : Schema.Field) (registry : Registry) (key : String) : Except Failure FieldPlan := do
  let kind ← f.elementKind
  let keyKind ← f.keyKind
  let keyConversion ← failing .inconsistent keyKind.keyConversion
  let conversion ← failing .unregistered (kind.conversion registry)
  let name ← failing .nullPart f.declaredName
  pure ⟨name, key, kind, conversion, .map keyConversion⟩

/-- The plan of a field. -/
def of (f : Schema.Field) (registry : Registry) : Except Failure FieldPlan := do
  let shape ← failing .inconsistent f.shape
  let key ← failing .nullPart f.jsonKey
  match shape with
  | .singular => ofValues f registry key .one
  | .repeated => ofValues f registry key .list
  | .map => ofMap f registry key

theorem key_of {f : Schema.Field} {registry : Registry} {p : FieldPlan}
    (h : of f registry = .ok p) : f.jsonKey = .ok p.key := by
  obtain ⟨shape, -, h⟩ := bind_eq_ok.1 h
  obtain ⟨key, hkey, h⟩ := bind_eq_ok.1 h
  have hp : p.key = key := by
    cases shape with
    | singular => exact (of_ofValues h).1
    | repeated => exact (of_ofValues h).1
    | map =>
      obtain ⟨kind, -, h⟩ := bind_eq_ok.1 h
      obtain ⟨keyKind, -, h⟩ := bind_eq_ok.1 h
      obtain ⟨keyConversion, -, h⟩ := bind_eq_ok.1 h
      obtain ⟨conversion, -, h⟩ := bind_eq_ok.1 h
      obtain ⟨name, -, h⟩ := bind_eq_ok.1 h
      cases h
      rfl
  rw [hp]
  exact failing_eq_ok.1 hkey

/-- The variable of the object that is read. -/
def objectVariable : String := "obj"

/-- The variable of the message that values are merged into. -/
def messageVariable : String := "msg"

/-- The place of the raw value of a field. -/
def raw (p : FieldPlan) : Access := .property objectVariable p.key

/-- The accessor that merges a value. -/
def accessor (p : FieldPlan) : String :=
  match p.holding with
  | .one => Naming.setter p.name
  | .list => Naming.adder p.name
  | .map _ => Naming.mapGetter p.name ++ "().set"

/-- What is handed to the accessor in front of a value. -/
def keyArguments (p : FieldPlan) : List Operand :=
  match p.holding with
  | .map _ => [.var mapKeyVariable]
  | _ => []

/-- The call that merges a value. -/
def merge (p : FieldPlan) (value : Operand) : Statement :=
  .merge messageVariable p.accessor (p.keyArguments ++ [value])

/-- Converts a raw value and merges it. -/
def convertAndMerge (p : FieldPlan) (raw : Access) : List Statement :=
  [.bind valueVariable p.conversion raw, p.merge (.var valueVariable)]

/-- Merges null where it stands for no value, and converts anything else. -/
def guarded (p : FieldPlan) (raw : Access) : List Statement :=
  if p.kind.requiresNullGuard then
    [.choose (.one (.isNull raw)) [p.merge .null] (p.convertAndMerge raw)]
  else p.convertAndMerge raw

/-- The test that a raw value is neither undefined nor null. -/
def present (raw : Access) : Test := .both (.isDefined raw) (.isNotNull raw)

/-- The code for a field. -/
def statement (p : FieldPlan) : Statement :=
  match p.holding with
  | .one => .when (.one (.isDefined p.raw)) (p.guarded p.raw)
  | .list =>
    .when (present p.raw)
      [.forEach p.raw FieldToParse.listItem (p.guarded (.var FieldToParse.listItem))]
  | .map key =>
    .when (present p.raw)
      [.forIn p.raw
        [.when (.one (.owns p.raw))
          (.bind mapKeyVariable key (.var FieldToParse.propertyName) ::
            p.convertAndMerge (.entry objectVariable p.key))]]

/-! ## Lines of plans -/

/-- The shape of a planned field. -/
def shape (p : FieldPlan) : Shape := p.holding.shape

/-- The text that merges a value. -/
def mergeText (p : FieldPlan) (value : String) : String :=
  FieldToParse.mergeCall messageVariable p.name p.shape ++ value ++ ");"

theorem mergeText_ne (p : FieldPlan) (value : String) : p.mergeText value ≠ "" := by
  simp [mergeText]

theorem merge_lines (p : FieldPlan) (value : Operand) :
    (p.merge value).lines = [⟨0, p.mergeText value.text⟩] := by
  obtain ⟨name, key, kind, conversion, holding⟩ := p
  cases holding <;>
    simp [merge, mergeText, Statement.lines, simpleLine, accessor, keyArguments, shape,
      Holding.shape,      FieldToParse.mergeCall, argumentsText, Operand.text, String.append_assoc]

end FieldPlan

end Protogen
