import Protogen.Naming
import Protogen.Schema.Types

/-!
# Shapes and kinds of fields

* `Shape` tells how many values a field holds, `ValueKind` what a single value is.
* `ValueKind.ofType` classifies the type of a value; `shape`, `keyKind` and `elementKind`
  classify a field. Types that no value has are inconsistencies.
* `jsonKey` is the name of a field in JSON.
-/

set_option autoImplicit false

namespace Protogen

/-- 64-bit integers, which JSON encodes as texts. -/
def longTypes : List String := ["int64", "uint64", "sint64", "fixed64", "sfixed64"]

/-- 32-bit integers. -/
def intTypes : List String := ["int32", "uint32", "sint32", "fixed32", "sfixed32"]

/-- Floating-point numbers. -/
def floatTypes : List String := ["double", "float"]

/-- All scalar types. -/
def scalarTypes : List String := longTypes ++ intTypes ++ floatTypes ++ ["bool", "string", "bytes"]

/-- The message that represents JSON null as a value of its own. -/
def dynamicValueType : String := "google.protobuf.Value"

/-- How many values a field holds. -/
inductive Shape
  | singular
  | repeated
  | map
  deriving DecidableEq, Repr

/-- What a single value is, with its scalar type or the full name of its type. -/
inductive ValueKind
  | primitive (scalar : String)
  | enum (name : String)
  | message (name : String)
  /-- a message whose parser is to see null -/
  | dynamic (name : String)
  deriving DecidableEq, Repr

namespace ValueKind

/-- The scalar type or the full name of the type. -/
def name : ValueKind → String
  | primitive name => name
  | enum name => name
  | message name => name
  | dynamic name => name

/-- The word for the category of a kind. -/
def category : ValueKind → String
  | primitive _ => "primitive"
  | enum _ => "enum"
  | message _ => "message"
  | dynamic _ => "message_no_null_guard"

/-- A kind in messages. -/
def text (kind : ValueKind) : String := kind.category ++ "(" ++ kind.name ++ ")"

/-- Whether values are messages. -/
def isMessage : ValueKind → Bool
  | message _ => true
  | dynamic _ => true
  | _ => false

/-- Whether a value is compared with null before it is parsed. -/
def requiresNullGuard : ValueKind → Bool
  | dynamic _ => false
  | _ => true

/-- The kind of a reference to a type; leading dots do not count. -/
def ofReference (keyword : String) (typeName : Option String) :
    Except Inconsistency ValueKind :=
  if Schema.isNamed typeName then
    let name := Text.dropLeading '.' (shownName typeName)
    if keyword = "enum" then .ok (.enum name)
    else if name = dynamicValueType then .ok (.dynamic name)
    else .ok (.message name)
  else .error (.missingTypeName keyword)

/-- The kind of the values of a type. -/
def ofType (t : Schema.TypeRef) : Except Inconsistency ValueKind :=
  match t.name with
  | none => .error (.unknownType none)
  | some name =>
    if scalarTypes.contains name then .ok (.primitive name)
    else if name = "enum" || name = "message" then ofReference name t.typeName
    else .error (.unknownType (some name))

end ValueKind

namespace Schema

/-- The kind of a type that may be null. -/
def kindOf (t : Option TypeRef) : Except Failure ValueKind := do
  failing .inconsistent (ValueKind.ofType (← failing .nullPart (declared t)))

namespace Field

/-- The name of a field in JSON: the one it gives or its own in camel case. -/
def jsonKey (f : Field) : Except NullPart String :=
  if isNamed f.jsonName then .ok (shownName f.jsonName)
  else match f.name with
    | some name => .ok (Naming.camelCase name)
    | none => .error .sequence

/-- The shape of a field. -/
def shape (f : Field) : Except Inconsistency Shape :=
  if f.map.isSome then .ok .map
  else if f.type.isNone then .error (.untypedField f.name)
  else if f.repeated.getD false then .ok .repeated
  else .ok .singular

/-- Scalar types that keys of a map do not have. -/
def keylessTypes : List String := floatTypes ++ ["bytes"]

/-- The kind of the keys of a map. -/
def keyKind (f : Field) : Except Failure ValueKind :=
  match f.map with
  | none => .error (.inconsistent (.notMap f.name))
  | some map => do
    let kind ← kindOf map.key
    match kind with
    | .primitive scalar =>
      if keylessTypes.contains scalar then
        throw (.inconsistent (.invalidKeyType f.name scalar))
      else pure kind
    | _ => throw (.inconsistent (.invalidKeyType f.name kind.name))

/-- The kind of the values of a field; for a map, that of the values of its entries. -/
def elementKind (f : Field) : Except Failure ValueKind :=
  match f.map, f.type with
  | some map, _ => kindOf map.value
  | none, none => .error (.inconsistent (.untypedField f.name))
  | none, some type => failing .inconsistent (ValueKind.ofType type)

end Field

end Schema

end Protogen
