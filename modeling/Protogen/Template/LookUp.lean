import Protogen.Template.Number
import Protogen.Template.Subject.Attribute
import Protogen.Template.Subject.Element

/-!
# Look-ups in field names

A field name begins with the value and goes on to attributes, `.name`, and elements, `[key]`.

* `lookUp` follows a field name from one subject to the next.
-/

set_option autoImplicit false

namespace Protogen.Template

/-- The number that a whole text spells; digits at its beginning that spell too large a number
are a fault, whatever follows them. -/
def wholeNumber? (text : List Char) : Except Fault (Option Nat) :=
  let (number, rest) := leadingNumber text
  if number.any (numberLimit ≤ ·) then .error .hugeNumber
  else .ok (if rest.isEmpty then number else none)

/-- The attribute of a subject that a field name gives, back to front. -/
def Subject.follow (subject : Subject) (name : List Char) : Except Fault Subject :=
  if name.isEmpty then .error .emptyLookup
  else match subject.attribute? (String.ofList name.reverse) with
    | some found => .ok found
    | none => .error .noAttribute

/-- The element of a subject that a field name gives, back to front. -/
def Subject.pick (subject : Subject) (key : List Char) : Except Fault Subject := do
  let number ← wholeNumber? key.reverse
  if key.isEmpty then throw .emptyLookup
  subject.element ((number.map .place).getD (.name key.reverse))

/-- Where the reader of look-ups stands. -/
inductive LookUp
  /-- behind a closing bracket -/
  | behind
  /-- in a name after a dot; `name` is read back to front -/
  | name (name : List Char)
  /-- between brackets; `key` is read back to front -/
  | key (key : List Char)

/-- Follows the look-ups of a field name from a place in it to its end. -/
def lookUpFrom : Subject → LookUp → List Char → Except Fault Subject
  | subject, .behind, [] => .ok subject
  | subject, .behind, c :: rest =>
    if c == '.' then lookUpFrom subject (.name []) rest
    else if c == '[' then lookUpFrom subject (.key []) rest
    else .error .afterBracket
  | subject, .name name, [] => subject.follow name
  | subject, .name name, c :: rest =>
    if c == '.' then do lookUpFrom (← subject.follow name) (.name []) rest
    else if c == '[' then do lookUpFrom (← subject.follow name) (.key []) rest
    else lookUpFrom subject (.name (c :: name)) rest
  | _, .key _, [] => .error .unclosedBracket
  | subject, .key key, c :: rest =>
    if c == ']' then do lookUpFrom (← subject.pick key) .behind rest
    else lookUpFrom subject (.key (c :: key)) rest

/-- What a value and the look-ups behind the first part of a field name lead to. -/
def lookUp (value lookUps : List Char) : Except Fault Subject :=
  lookUpFrom (.text value) .behind lookUps

end Protogen.Template
