import Protogen.Schema.Basic
import Protogen.Json.Basic

/-!
# Writing schemas as documents

Every part is written, with null for what is null.
-/

set_option autoImplicit false

namespace Protogen.Schema

/-- A text or null. -/
def encodeText (text : Option String) : Json := text.elim .null .str

/-- A list or null, its elements written by `encode` or null. -/
def encodeList {α : Type} (encode : α → Json) (items : Option (List (Option α))) : Json :=
  items.elim .null fun items => .arr (items.map fun item => item.elim .null encode)

/-- Writes a number. -/
def Number.encode : Number → Json
  | .int n => .int n
  | .flag b => .bool b

/-- Writes a type. -/
def TypeRef.encode (t : TypeRef) : Json :=
  .obj [("name", encodeText t.name), ("type_name", encodeText t.typeName)]

/-- Writes the types of a map. -/
def MapEntry.encode (m : MapEntry) : Json :=
  .obj [("key", m.key.elim .null TypeRef.encode), ("value", m.value.elim .null TypeRef.encode)]

/-- Writes a field. -/
def Field.encode (f : Field) : Json :=
  .obj [("name", encodeText f.name), ("type", f.type.elim .null TypeRef.encode),
    ("number", f.number.elim .null Number.encode), ("json_name", encodeText f.jsonName),
    ("repeated", f.repeated.elim .null .bool), ("map", f.map.elim .null MapEntry.encode)]

/-- Writes a value of an enum. -/
def EnumValue.encode (v : EnumValue) : Json :=
  .obj [("name", encodeText v.name), ("number", v.number.elim .null Number.encode)]

/-- Writes an enum. -/
def Enum.encode (e : Enum) : Json :=
  .obj [("name", encodeText e.name), ("values", encodeList EnumValue.encode e.values)]

mutual

/-- Writes a message. -/
def Message.encode : Message → Json
  | .mk name fields messages enums =>
    .obj [("name", encodeText name), ("fields", encodeList Field.encode fields),
      ("messages", Message.encodeNested messages), ("enums", encodeList Enum.encode enums)]

/-- Writes the nested messages, or null. -/
def Message.encodeNested : Option (List (Option Message)) → Json
  | none => .null
  | some messages => .arr (Message.encodeItems messages)

/-- Writes messages, each of which may be null. -/
def Message.encodeItems : List (Option Message) → List Json
  | [] => []
  | message :: messages => Message.encodeItem message :: Message.encodeItems messages

/-- Writes a message or null. -/
def Message.encodeItem : Option Message → Json
  | none => .null
  | some message => message.encode

end

/-- Writes a file. -/
def File.encode (f : File) : Json :=
  .obj [("name", encodeText f.name), ("package", encodeText f.package),
    ("messages", encodeList Message.encode f.messages), ("enums", encodeList Enum.encode f.enums),
    ("type_url_prefix", encodeText f.urlPrefix)]

/-- Writes a file set. -/
def FileSet.encode (s : FileSet) : Json := .obj [("files", encodeList File.encode s.files)]

end Protogen.Schema
