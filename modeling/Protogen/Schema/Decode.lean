import Protogen.Schema.Basic
import Protogen.Failure
import Protogen.Decimal.Whole

/-!
# Reading schemas from documents

Each declaration is read from an object, member by member in a fixed order: null stays null,
an absent member takes its default or is a fault, members of other names do not count.

* Texts accept every value and take its text, truth values every value and take its truth.
* Whole numbers drop the fraction of a number and read texts.
* Lists accept whatever has elements: lists, texts (their characters) and objects (their names).
* `FileSet.read` reads a schema from a JSON text.
-/

set_option autoImplicit false

namespace Protogen

/-- The shape of a JSON value that is not null. -/
def Json.shape : Json → JsonShape
  | .int _ => .int
  | .float _ => .float
  | .bool _ => .bool
  | .str _ => .str
  | .arr _ => .list
  | .obj _ => .dict
  | .null => .dict

namespace Schema

/-- A reader of a part of a document. -/
abbrev Decoder (α : Type) := Json → Except DecodeFault α

/-- The members of an object. -/
def membersOf : Decoder (List (String × Json))
  | .obj members => .ok members
  | _ => .error .notObject

/-- A part that may be null. -/
def orNull {α : Type} (decode : Decoder α) : Decoder (Option α)
  | .null => .ok none
  | value => (decode value).map some

/-- A member that has to be there. -/
def required {α : Type} (name : String) (decode : Decoder α) (members : List (String × Json)) :
    Except DecodeFault (Option α) :=
  match members.lookup name with
  | none => .error (.missing name)
  | some value => orNull decode value

/-- A member that has a default. -/
def optional {α : Type} (name : String) (default : Option α) (decode : Decoder α)
    (members : List (String × Json)) : Except DecodeFault (Option α) :=
  match members.lookup name with
  | none => .ok default
  | some value => orNull decode value

/-- A text. -/
def asText : Decoder String := fun value => .ok value.display

/-- A truth value. -/
def asTruth : Decoder Bool := fun value => .ok value.truth

/-- A whole number. -/
def asNumber : Decoder Number
  | .int n => .ok (.int n)
  | .bool b => .ok (.flag b)
  | .float x =>
    match x, x.truncate with
    | _, some n => .ok (.int n)
    | .notANumber, none => .error .notANumber
    | _, none => .error .infiniteNumber
  | .str s =>
    match Decimal.readWhole s.toList with
    | .error .malformed => .error (.badNumber s)
    | .error (.tooLong digits) => .error (.hugeNumber digits)
    | .ok n => .ok (.int n)
  | value => .error (.notNumber value.shape)

/-- The elements of whatever has some. -/
def elementsOf : Decoder (List Json)
  | .arr items => .ok items
  | .str s => .ok (s.toList.map fun c => .str (String.singleton c))
  | .obj members => .ok (members.map fun m => .str m.1)
  | value => .error (.notIterable value.shape)

/-- A list; its elements may be null. -/
def asList {α : Type} (decode : Decoder α) : Decoder (List (Option α)) := fun value => do
  (← elementsOf value).mapM (orNull decode)

/-- Reads a type. -/
def TypeRef.decode : Decoder TypeRef := fun value => do
  let members ← membersOf value
  let name ← required "name" asText members
  let typeName ← optional "type_name" none asText members
  pure ⟨name, typeName⟩

/-- Reads the types of a map. -/
def MapEntry.decode : Decoder MapEntry := fun value => do
  let members ← membersOf value
  let key ← required "key" TypeRef.decode members
  let value ← required "value" TypeRef.decode members
  pure ⟨key, value⟩

/-- Reads a field. -/
def Field.decode : Decoder Field := fun value => do
  let members ← membersOf value
  let name ← required "name" asText members
  let type ← optional "type" none TypeRef.decode members
  let number ← optional "number" (some (.int 0)) asNumber members
  let jsonName ← optional "json_name" none asText members
  let repeated ← optional "repeated" (some false) asTruth members
  let map ← optional "map" none MapEntry.decode members
  pure ⟨name, type, number, jsonName, repeated, map⟩

/-- Reads a value of an enum. -/
def EnumValue.decode : Decoder EnumValue := fun value => do
  let members ← membersOf value
  let name ← required "name" asText members
  let number ← required "number" asNumber members
  pure ⟨name, number⟩

/-- Reads an enum. -/
def Enum.decode : Decoder Enum := fun value => do
  let members ← membersOf value
  let name ← required "name" asText members
  let values ← optional "values" (some []) (asList EnumValue.decode) members
  pure ⟨name, values⟩

mutual

/-- Reads a message. -/
def Message.decode : Json → Except DecodeFault Message
  | .obj members => do
    let name ← required "name" asText members
    let fields ← optional "fields" (some []) (asList Field.decode) members
    let messages ← Message.decodeNested members
    let enums ← optional "enums" (some []) (asList Enum.decode) members
    pure (.mk name fields messages enums)
  | _ => .error .notObject

/-- Reads the nested messages among the members of a message. -/
def Message.decodeNested :
    List (String × Json) → Except DecodeFault (Option (List (Option Message)))
  | [] => .ok (some [])
  | (name, value) :: members =>
    if name = "messages" then Message.decodeList value else Message.decodeNested members

/-- Reads a list of messages, which may be null. -/
def Message.decodeList : Json → Except DecodeFault (Option (List (Option Message)))
  | .null => .ok none
  | .arr items => (Message.decodeItems items).map some
  | .str s => if s.isEmpty then .ok (some []) else .error .notObject
  | .obj members => if members.isEmpty then .ok (some []) else .error .notObject
  | value => .error (.notIterable value.shape)

/-- Reads messages, each of which may be null. -/
def Message.decodeItems : List Json → Except DecodeFault (List (Option Message))
  | [] => .ok []
  | .null :: items => do
    let rest ← Message.decodeItems items
    pure (none :: rest)
  | item :: items => do
    let first ← Message.decode item
    let rest ← Message.decodeItems items
    pure (some first :: rest)

end

/-- Reads a file. -/
def File.decode : Decoder File := fun value => do
  let members ← membersOf value
  let name ← required "name" asText members
  let package ← optional "package" (some "") asText members
  let messages ← optional "messages" (some []) (asList Message.decode) members
  let enums ← optional "enums" (some []) (asList Enum.decode) members
  let urlPrefix ← optional "type_url_prefix" (some defaultUrlPrefix) asText members
  pure ⟨name, package, messages, enums, urlPrefix⟩

/-- Reads a file set. -/
def FileSet.decode : Decoder FileSet := fun value => do
  let members ← membersOf value
  let files ← optional "files" (some []) (asList File.decode) members
  pure ⟨files⟩

/-- Reads a file set from a JSON text. -/
def FileSet.read (text : String) : Except Failure FileSet := do
  let document ← failing .json (Json.parse text)
  failing .document (FileSet.decode document)

end Schema

end Protogen
