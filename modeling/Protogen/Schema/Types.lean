import Protogen.Schema.Basic
import Protogen.Failure

/-!
# The types a schema declares

Messages and enums are enumerated with their place in the schema: each message is followed by
its enums and by the enumeration of its nested messages. The full name of a type is the package
of its file, the names of the messages around it and its own name, joined by dots.

* `qualify` joins a scope and a name.
* `walk` enumerates the declarations of a list of messages.
* `File.messageTypes`, `File.enumTypes`, `FileSet.messageTypes` and `FileSet.enumTypes` list the
  types of a file and of a set; a null list or declaration on the way is a failure.
-/

set_option autoImplicit false

namespace Protogen.Schema

/-- A declaration together with its place in the schema. -/
structure Declared (α : Type) where
  fullName : Option String
  file : File
  declaration : α

/-- A message type. -/
abbrev MessageType := Declared Message

/-- An enum type. -/
abbrev EnumType := Declared Enum

/-- The URL of a type. -/
def Declared.url {α : Type} (t : Declared α) : String :=
  shownName t.file.urlPrefix ++ "/" ++ shownName t.fullName

/-- Whether a name is there and not empty. -/
def isNamed (name : Option String) : Bool := name.any (!·.isEmpty)

/-- The full name of a type in a scope; an empty scope stands for the package of the file. -/
def qualify (package scope name : Option String) : Option String :=
  if isNamed scope then some (shownName scope ++ "." ++ shownName name)
  else if isNamed package then some (shownName package ++ "." ++ shownName name)
  else name

/-- A list that has to be there. -/
def wanted {α : Type} (items : Option (List α)) : Except NullPart (List α) :=
  match items with
  | some items => .ok items
  | none => .error .sequence

/-- A declaration that has to be there. -/
def declared {α : Type} (item : Option α) : Except NullPart α :=
  match item with
  | some item => .ok item
  | none => .error .declaration

/-- The enums of a scope. -/
def enumsIn (file : File) (scope : Option String) (enums : Option (List (Option Enum))) :
    Except NullPart (List EnumType) := do
  (← wanted enums).mapM fun item => do
    let e ← declared item
    pure ⟨qualify file.package scope e.name, file, e⟩

mutual

/-- A message, its enums, and the declarations of its nested messages. -/
def walkMessage (file : File) (scope : Option String) :
    Message → Except NullPart (List (MessageType ⊕ EnumType))
  | .mk name fields messages enums => do
    let fullName := qualify file.package scope name
    let own ← enumsIn file fullName enums
    let nested ← walk file fullName messages
    pure (.inl ⟨fullName, file, .mk name fields messages enums⟩ :: own.map .inr ++ nested)

/-- The declarations of a list of messages. -/
def walk (file : File) (scope : Option String) :
    Option (List (Option Message)) → Except NullPart (List (MessageType ⊕ EnumType))
  | none => .error .sequence
  | some messages => walkItems file scope messages

/-- The declarations of messages, none of which may be null. -/
def walkItems (file : File) (scope : Option String) :
    List (Option Message) → Except NullPart (List (MessageType ⊕ EnumType))
  | [] => .ok []
  | message :: messages => do
    let first ← walkItem file scope message
    let rest ← walkItems file scope messages
    pure (first ++ rest)

/-- The declarations of a message that may not be null. -/
def walkItem (file : File) (scope : Option String) :
    Option Message → Except NullPart (List (MessageType ⊕ EnumType))
  | none => .error .declaration
  | some message => walkMessage file scope message

end

/-- The declarations of a file other than its own enums. -/
def File.declarations (f : File) : Except NullPart (List (MessageType ⊕ EnumType)) :=
  walk f none f.messages

/-- The message types of a file, each nested type behind the one around it. -/
def File.messageTypes (f : File) : Except NullPart (List MessageType) :=
  f.declarations.map fun ds => ds.filterMap Sum.getLeft?

/-- The enum types of a file, its own ones first. -/
def File.enumTypes (f : File) : Except NullPart (List EnumType) := do
  let own ← enumsIn f none f.enums
  let nested ← f.declarations
  pure (own ++ nested.filterMap Sum.getRight?)

/-- The files of a set. -/
def FileSet.fileList (s : FileSet) : Except NullPart (List (Option File)) := wanted s.files

/-- The message types of a set. -/
def FileSet.messageTypes (s : FileSet) : Except NullPart (List MessageType) := do
  let types ← (← s.fileList).mapM fun item => do (← declared item).messageTypes
  pure types.flatten

/-- The enum types of a set. -/
def FileSet.enumTypes (s : FileSet) : Except NullPart (List EnumType) := do
  let types ← (← s.fileList).mapM fun item => do (← declared item).enumTypes
  pure types.flatten

end Protogen.Schema
