import Protogen.Template.Fault
import Protogen.Template.Subject

/-!
# Elements of subjects

Texts and groups have elements by number, tables by name; a class may take a parameter.

* `Subject.element` is an element of a subject.
-/

set_option autoImplicit false

namespace Protogen.Template

open Catalogue

/-- What stands between brackets. -/
inductive Key
  | place (n : Nat)
  | name (text : List Char)
  deriving DecidableEq, Repr

/-- A key as a subject. -/
def Key.subject : Key → Subject
  | .place n => .whole n
  | .name text => .text text

/-- What the table of a class has under a name. -/
def entry? (className name : String) : Option Subject :=
  (memberOf? className name).map fun member =>
    match member.sort with
    | .maker => .operation (.sort className) className name
    | .notes => notesOf className
    | .absent => .nothing
    | _ => .member className name

/-- Whether a class takes a parameter. -/
def takesParameter (className : String) : Bool :=
  className == "type" || (memberOf? className "__class_getitem__").isSome

/-- An element by its number. -/
def elementAt (elements : List Subject) : Key → Except Fault Subject
  | .place n =>
    match elements[n]? with
    | some element => .ok element
    | none => .error .noSuchElement
  | .name _ => .error .elementByName

/-- The fault of a key that a table does not have. -/
def missingKey (key : Key) : Fault := .noSuchKey (key.subject.quoted Text.quote)

/-- The element of a subject under a key. -/
def Subject.element (subject : Subject) (key : Key) : Except Fault Subject :=
  match subject with
  | .text value => elementAt (value.map fun c => .text [c]) key
  | .group elements => elementAt elements key
  | .table className =>
    match key with
    | .name name =>
      match entry? className (String.ofList name) with
      | some found => .ok found
      | none => .error (missingKey key)
    | .place _ => .error (missingKey key)
  | .emptyTable => .error (missingKey key)
  | .sort className =>
    if takesParameter className then .ok (.applied className key.subject) else .error .noElements
  | _ => .error .noElements

end Protogen.Template
