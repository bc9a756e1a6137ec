import Protogen.Template.Catalogue
import Protogen.Text.Quoted

/-!
# What field names look up

A field name begins with a text and goes on to its attributes and elements: to its class, to the
operations of the class, to the numbers and texts that describe them, and so on.

* `Subject` is what a look-up can find, `Subject.className` its class.
* `Subject.shown` is a subject as text, `Subject.quoted` the same with texts in quotes.
-/

set_option autoImplicit false

namespace Protogen.Template

open Catalogue

/-- What a look-up can find. -/
inductive Subject
  | text (value : List Char)
  | whole (n : Nat)
  | truth (value : Bool)
  | nothing
  | group (elements : List Subject)
  /-- a class, by its name -/
  | sort (name : String)
  /-- a member of a class, as it stands in the class -/
  | member (owner name : String)
  /-- an operation of a subject, or of a class, by the class that defines it -/
  | operation (self : Subject) (owner name : String)
  /-- the members of a class by their names -/
  | table (className : String)
  /-- a table with nothing in it -/
  | emptyTable
  /-- a class with a parameter -/
  | applied (className : String) (parameter : Subject)

/-- The sort of a member of a class. -/
def sortOf (owner name : String) : MemberSort :=
  ((memberOf? owner name).map (·.sort)).getD .method

/-- The class of members of a sort. -/
def memberClass : MemberSort → String
  | .operator => "wrapper_descriptor"
  | .classMethod => "classmethod_descriptor"
  | .static => "staticmethod"
  | .property => "getset_descriptor"
  | .slot => "member_descriptor"
  | _ => "method_descriptor"

/-- The class of an operation. -/
def operationClass (owner name : String) : String :=
  if sortOf owner name == .operator then "method-wrapper" else "builtin_function_or_method"

/-- The class of a subject. -/
def Subject.className : Subject → String
  | .text _ => "str"
  | .whole _ => "int"
  | .truth _ => "bool"
  | .nothing => "NoneType"
  | .group _ => "tuple"
  | .sort _ => "type"
  | .member owner name => memberClass (sortOf owner name)
  | .operation _ owner name => operationClass owner name
  | .table _ => "mappingproxy"
  | .emptyTable => "dict"
  | .applied _ _ => "GenericAlias"

/-- The description of a class. -/
def notesOf (className : String) : Subject :=
  match (factsOf? className).bind (·.doc) with
  | some doc => .text doc.toList
  | none => .nothing

/-- An operation as text; where its subject is kept says nothing about it. -/
def operationText (selfClass owner name : String) : String :=
  let what := if sortOf owner name == .operator then "<method-wrapper '" ++ name ++ "'"
    else "<built-in method " ++ name
  what ++ " of " ++ fullName selfClass ++ " object at 0x7f0000000000>"

/-- A member of a class as text. -/
def memberText (owner name : String) : String :=
  let called (what : String) :=
    "<" ++ what ++ " '" ++ name ++ "' of '" ++ fullName owner ++ "' objects>"
  match sortOf owner name with
  | .operator => called "slot wrapper"
  | .property => called "attribute"
  | .slot => called "member"
  | .static => "<staticmethod(" ++ operationText "type" owner name ++ ")>"
  | _ => called "method"

/-- A member as text, as it stands in the table of its class. -/
def entryText (quote : String → String) (className : String) (member : Member) : String :=
  match member.sort with
  | .maker => operationText "type" className member.name
  | .notes => quote (((factsOf? className).bind (·.doc)).getD "")
  | .absent => "None"
  | _ => memberText className member.name

/-- The members of a class as text. -/
def tableText (quote : String → String) (className : String) : String :=
  let entries := (membersOf className).map fun member =>
    quote member.name ++ ": " ++ entryText quote className member
  "\x7b" ++ ", ".intercalate entries ++ "\x7d"

mutual

/-- A subject as text, in which texts are quoted. -/
def Subject.quoted (quote : String → String) : Subject → String
  | .text value => quote (String.ofList value)
  | .whole n => toString n
  | .truth value => if value then "True" else "False"
  | .nothing => "None"
  | .group [] => "()"
  | .group [only] => "(" ++ only.quoted quote ++ ",)"
  | .group (first :: second :: rest) =>
    "(" ++ first.quoted quote ++ ", " ++ second.quoted quote ++ quotedAfter quote rest ++ ")"
  | .sort name => "<class '" ++ fullName name ++ "'>"
  | .member owner name => memberText owner name
  | .operation self owner name => operationText self.className owner name
  | .table className => "mappingproxy(" ++ tableText quote className ++ ")"
  | .emptyTable => "\x7b\x7d"
  | .applied className parameter => className ++ "[" ++ parameter.quoted quote ++ "]"

/-- The elements of a group behind others, as text. -/
def quotedAfter (quote : String → String) : List Subject → String
  | [] => ""
  | element :: rest => ", " ++ element.quoted quote ++ quotedAfter quote rest

end

/-- A subject as text. -/
def Subject.shown : Subject → List Char
  | .text value => value
  | .table className => (tableText Text.quote className).toList
  | other => (other.quoted Text.quote).toList

end Protogen.Template
