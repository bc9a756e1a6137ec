/-!
# Schemas

A schema is a compiled set of files that declare messages and enums. It comes from a document in
which any part may be null, so every part is optional here; `FileSet` is the whole.

* A field holds one value, a list of values (`repeated`) or a map; its values have a `TypeRef`:
  the name of a scalar type, or `enum` or `message` with the full name of the type.
* A number may be written as a truth value (`Number.flag`).
-/

set_option autoImplicit false

namespace Protogen.Schema

/-- A number as it is written in a document. -/
inductive Number
  | int (value : Int)
  | flag (value : Bool)
  deriving DecidableEq, Repr

/-- The type of a value. -/
structure TypeRef where
  name : Option String
  typeName : Option String := none
  deriving DecidableEq, Repr

/-- The types of the keys and the values of a map. -/
structure MapEntry where
  key : Option TypeRef
  value : Option TypeRef
  deriving DecidableEq, Repr

/-- A field of a message. -/
structure Field where
  name : Option String
  type : Option TypeRef := none
  number : Option Number := some (.int 0)
  jsonName : Option String := none
  repeated : Option Bool := some false
  map : Option MapEntry := none
  deriving DecidableEq, Repr

/-- A value of an enum. -/
structure EnumValue where
  name : Option String
  number : Option Number
  deriving DecidableEq, Repr

/-- The declaration of an enum. -/
structure Enum where
  name : Option String
  values : Option (List (Option EnumValue)) := some []
  deriving DecidableEq, Repr

/-- The declaration of a message with the types nested in it. -/
inductive Message
  | mk (name : Option String) (fields : Option (List (Option Field)))
      (messages : Option (List (Option Message))) (enums : Option (List (Option Enum)))
  deriving Repr

namespace Message

/-- The name of a message within its scope. -/
def name : Message → Option String
  | mk name _ _ _ => name

/-- The fields of a message in declaration order. -/
def fields : Message → Option (List (Option Field))
  | mk _ fields _ _ => fields

/-- The messages nested in a message. -/
def messages : Message → Option (List (Option Message))
  | mk _ _ messages _ => messages

/-- The enums nested in a message. -/
def enums : Message → Option (List (Option Enum))
  | mk _ _ _ enums => enums

end Message

/-- The prefix of type URLs where a file gives none. -/
def defaultUrlPrefix : String := "type.googleapis.com"

/-- The package of the standard types. -/
def standardPackage : String := "google.protobuf"

/-- A schema file. -/
structure File where
  name : Option String
  package : Option String := some ""
  messages : Option (List (Option Message)) := some []
  enums : Option (List (Option Enum)) := some []
  urlPrefix : Option String := some defaultUrlPrefix
  deriving Repr

/-- Whether a file declares standard types. -/
def File.isStandard (f : File) : Bool := f.package == some standardPackage

/-- The files of one run. -/
structure FileSet where
  files : Option (List (Option File)) := some []
  deriving Repr

end Protogen.Schema
