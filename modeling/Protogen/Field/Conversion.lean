import Protogen.Field.Kind
import Protogen.Registry

/-!
# Conversion of raw values

A raw JSON value is converted by an expression that is bound to a variable.

* `valueExpression` converts a value of any kind, `keyExpression` the key of a map, which JSON
  always represents as a text.
* `parseValue` and `parseKey` bind the result.
-/

set_option autoImplicit false

namespace Protogen

/-- Code that converts a value, and the expression that holds the result. -/
structure Parsed where
  code : List String
  value : String
  deriving DecidableEq, Repr

/-- The variable of a parsed value. -/
def valueVariable : String := "value"

/-- The variable of the key of a map. -/
def mapKeyVariable : String := "mapKey"

/-- The call of the method that parses a raw value. -/
def parseCall (parser raw : String) : String := parser ++ ".fromObject(" ++ raw ++ ")"

/-- The parser that is registered at run time for a URL. -/
def parserLookup (url : String) : String := "TypeParsers.parserFor('" ++ url ++ "')"

/-- The expression that converts a raw scalar. -/
def scalarExpression (scalar raw : String) : String :=
  if longTypes.contains scalar then "parseInt(" ++ raw ++ ")"
  else if floatTypes.contains scalar then "parseFloat(" ++ raw ++ ")"
  else raw

/-- The expression that converts a raw value. -/
def valueExpression (kind : ValueKind) (raw : String) (registry : Registry) :
    Except Unregistered String :=
  match kind with
  | .primitive scalar => .ok (scalarExpression scalar raw)
  | .enum name => (registry.lookup (some name)).map fun e => e.typeName ++ "[" ++ raw ++ "]"
  | .message name => (registry.lookup (some name)).map fun e => parseCall (parserLookup e.url) raw
  | .dynamic name => (registry.lookup (some name)).map fun e => parseCall (parserLookup e.url) raw

/-- The expression that converts a raw key. -/
def keyExpression (kind : ValueKind) (raw : String) : Except Inconsistency String :=
  match kind with
  | .primitive scalar =>
    if longTypes.contains scalar || intTypes.contains scalar then .ok ("parseInt(" ++ raw ++ ")")
    else if scalar = "bool" then .ok ("(" ++ raw ++ " === 'true')")
    else if scalar = "string" then .ok raw
    else .error (.keyType scalar)
  | _ => .error (.keyKind kind.text)

/-- The statement that binds an expression to a variable. -/
def bindTo (name expression : String) : Parsed :=
  ⟨["let " ++ name ++ " = " ++ expression ++ ";"], name⟩

/-- Converts a raw value into a variable. -/
def parseValue (kind : ValueKind) (raw : String) (registry : Registry) (name : String) :
    Except Unregistered Parsed :=
  (valueExpression kind raw registry).map (bindTo name)

/-- Converts a raw key into a variable. -/
def parseKey (kind : ValueKind) (raw : String) (name : String) :
    Except Inconsistency Parsed :=
  (keyExpression kind raw).map (bindTo name)

end Protogen
