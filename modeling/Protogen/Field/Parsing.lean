import Protogen.Field.Conversion
import Protogen.Code.Emission
import Protogen.Template.Fill

/-!
# The code that parses a field

The value of a field is read from a JavaScript object and merged into a message.

* `nullGuard` merges null and skips the code it guards, unless null is a value of the kind.
* `mergeFormat` is the template of the statement that merges a value.
* `generate` writes the code for a field of any shape.
-/

set_option autoImplicit false

namespace Protogen

open Code

/-- A field, the object it is read from and the message it is merged into. -/
structure FieldToParse where
  field : Schema.Field
  jsObject : String := "obj"
  target : String := "msg"

/-- Guards code against a value that is null: null is merged instead. -/
def nullGuard (kind : ValueKind) (value merge : String) (body : Emission Unit) : Emission Unit :=
  if kind.requiresNullGuard then
    Emission.ifBlock (value ++ " === null") do
      Emission.line (← Emission.demand (failing .template (Template.fill merge "null")))
      Emission.enterElse
      body
  else body

namespace FieldToParse

/-- The raw value of the field. -/
def rawValue (f : FieldToParse) : Except NullPart String :=
  f.field.jsonKey.map fun key => f.jsObject ++ "." ++ key

/-- The call that merges a value, up to the value. -/
def mergeCall (target name : String) : Shape → String
  | .repeated => target ++ "." ++ Naming.adder name ++ "("
  | .map => target ++ "." ++ Naming.mapGetter name ++ "().set(" ++ mapKeyVariable ++ ", "
  | .singular => target ++ "." ++ Naming.setter name ++ "("

/-- The statement that merges a value, with an empty field for the value. -/
def mergeFormat (f : FieldToParse) : Except Failure String := do
  let shape ← failing .inconsistent f.field.shape
  match f.field.name with
  | none => throw (.nullPart .sequence)
  | some name => pure (mergeCall f.target name shape ++ "\x7b\x7d);")

/-- The statement that merges a given value. -/
def merge (template value : String) : Emission Unit := do
  Emission.line (← Emission.demand (failing .template (Template.fill template value)))

/-- Converts a raw value and returns the expression that holds the result. -/
def convert (kind : ValueKind) (raw : String) (registry : Registry) : Emission String := do
  let parsed ← Emission.demand
    (failing .unregistered (parseValue kind raw registry valueVariable))
  Emission.lines parsed.code
  pure parsed.value

/-- Compares a raw value with null, converts and merges it. -/
def mergeParsed (f : FieldToParse) (raw : String) (registry : Registry) : Emission Unit := do
  let kind ← Emission.demand f.field.elementKind
  let template ← Emission.demand f.mergeFormat
  nullGuard kind raw template do
    merge template (← convert kind raw registry)

/-- The test that a value is defined. -/
def isDefined (value : String) : String := value ++ " !== undefined"

/-- The test that a value is neither undefined nor null. -/
def isPresent (value : String) : String := value ++ " !== undefined && " ++ value ++ " !== null"

/-- The variable of an element of a list. -/
def listItem : String := "listItem"

/-- The variable of the property name of an entry. -/
def propertyName : String := "attribute"

/-- Parses a field of one value. -/
def generateSingular (f : FieldToParse) (registry : Registry) : Emission Unit := do
  let raw ← Emission.demand (failing .nullPart f.rawValue)
  Emission.ifBlock (isDefined raw) (f.mergeParsed raw registry)

/-- Parses a list, element by element. -/
def generateRepeated (f : FieldToParse) (registry : Registry) : Emission Unit := do
  let raw ← Emission.demand (failing .nullPart f.rawValue)
  Emission.ifBlock (isPresent raw) do
    Emission.block (raw ++ ".forEach((" ++ listItem ++ ", index, array) =>") ");"
      (f.mergeParsed listItem registry)

/-- Parses a map, entry by entry. -/
def generateMap (f : FieldToParse) (registry : Registry) : Emission Unit := do
  let raw ← Emission.demand (failing .nullPart f.rawValue)
  let kind ← Emission.demand f.field.elementKind
  let keyKind ← Emission.demand f.field.keyKind
  let key ← Emission.demand (failing .inconsistent (parseKey keyKind propertyName mapKeyVariable))
  Emission.ifBlock (isPresent raw) do
    Emission.block ("for (let " ++ propertyName ++ " in " ++ raw ++ ")") "" do
      Emission.ifBlock
          ("Object.prototype.hasOwnProperty.call(" ++ raw ++ ", " ++ propertyName ++ ")") do
        Emission.lines key.code
        let value ← convert kind (raw ++ "[" ++ propertyName ++ "]") registry
        merge (← Emission.demand f.mergeFormat) value

/-- Parses a field according to its shape. -/
def generate (f : FieldToParse) (registry : Registry) : Emission Unit := do
  match ← Emission.demand (failing .inconsistent f.field.shape) with
  | .map => f.generateMap registry
  | .repeated => f.generateRepeated registry
  | .singular => f.generateSingular registry

end FieldToParse

end Protogen
