import Protogen.Naming
import Protogen.Schema.Types

/-!
# The registry of types

A registry knows the types of one run by URL and by full name. It is the list of what was added
to it: of several entries with one key the last one counts.

* `Registry.entries` lists the entries by URL, each URL once, in the order of its first entry.
* `Registry.lookup` and `Registry.byUrl` find entries; `Registry.contains` tells whether
  `lookup` finds one.
* `Registry.ofFileSet` holds the standard types and the types of a schema.
-/

set_option autoImplicit false

namespace Protogen

/-- What is generated for a type. -/
structure Entry where
  url : String
  fullName : Option String
  typeName : String
  parserName : Option String := none
  deriving DecidableEq, Repr

/-- Standard types whose parsers the runtime library has. -/
def wellKnownTypes : List String :=
  ["Any", "BoolValue", "BytesValue", "DoubleValue", "Duration", "Empty", "FieldMask",
    "FloatValue", "Int32Value", "Int64Value", "ListValue", "NullValue", "StringValue", "Struct",
    "Timestamp", "UInt32Value", "UInt64Value", "Value"].map
      fun name => Schema.standardPackage ++ "." ++ name

/-- The types known to a run, in the order in which they were added. -/
structure Registry where
  added : List Entry

namespace Schema

/-- Whether a parser is generated for a message: standard types have parsers already. -/
def MessageType.isEligible (t : MessageType) : Bool := !t.file.isStandard

end Schema

namespace Registry

/-- The entry with a full name. -/
def find? (r : Registry) (fullName : Option String) : Option Entry :=
  r.added.reverse.find? fun e => e.fullName == fullName

/-- The entry with a URL. -/
def findUrl? (r : Registry) (url : String) : Option Entry :=
  r.added.reverse.find? fun e => e.url == url

/-- Whether a full name is known. -/
def contains (r : Registry) (fullName : Option String) : Bool := (r.find? fullName).isSome

/-- The entry with a full name, which has to be known. -/
def lookup (r : Registry) (fullName : Option String) : Except Unregistered Entry :=
  match r.find? fullName with
  | some entry => .ok entry
  | none => .error (.name fullName)

/-- The entry with a URL, which has to be known. -/
def byUrl (r : Registry) (url : String) : Except Unregistered Entry :=
  match r.findUrl? url with
  | some entry => .ok entry
  | none => .error (.url (some url))

/-- Puts an entry in the place of the one with its URL, or last. -/
def place (entry : Entry) : List Entry → List Entry
  | [] => [entry]
  | e :: entries => if e.url == entry.url then entry :: entries else e :: place entry entries

/-- The entries, each URL once. -/
def entries (r : Registry) : List Entry := r.added.foldl (fun acc e => place e acc) []

/-- The number of URLs. -/
def size (r : Registry) : Nat := r.entries.length

/-- The entry of a standard type. -/
def wellKnown (name : String) : Entry :=
  ⟨Schema.defaultUrlPrefix ++ "/" ++ name, some name, Naming.typeName name, none⟩

/-- The entry of a message. -/
def ofMessage (t : Schema.MessageType) : Entry :=
  let name := shownName t.fullName
  ⟨t.url, t.fullName, Naming.typeName name,
    if t.isEligible then some (Naming.parserName name) else none⟩

/-- The entry of an enum. -/
def ofEnum (t : Schema.EnumType) : Entry :=
  ⟨t.url, t.fullName, Naming.typeName (shownName t.fullName), none⟩

/-- The registry of the standard types and the types of a schema. -/
def ofFileSet (s : Schema.FileSet) : Except NullPart Registry := do
  let messages ← s.messageTypes
  let enums ← s.enumTypes
  pure ⟨wellKnownTypes.map wellKnown ++ messages.map ofMessage ++ enums.map ofEnum⟩

end Registry

end Protogen
