import Protogen.Template.Subject

/-!
# Attributes of subjects

An attribute is looked up in the class of the subject and in those above it. What is found there
is a value, or an operation that remembers the subject. A class has the attributes of classes and,
as they stand in it, its own members.

* `Subject.property?` is the value of a property or slot.
* `Subject.attribute?` is an attribute of a subject.
-/

set_option autoImplicit false

namespace Protogen.Template

open Catalogue

/-- A text that may be missing. -/
def ofText? : Option String → Subject
  | some text => .text text.toList
  | none => .nothing

/-- A property of a number. -/
def numberProperty? (n : Nat) : String → Option Subject
  | "real" => some (.whole n)
  | "numerator" => some (.whole n)
  | "imag" => some (.whole 0)
  | "denominator" => some (.whole 1)
  | _ => none

/-- The description of a class, or the member that stands in its place. -/
def classNotes (facts : ClassFacts) : Subject :=
  if facts.doc.isSome then ofText? facts.doc
  else if sortOf facts.name "__doc__" == .property then .member facts.name "__doc__"
  else .nothing

/-- A property of a class. -/
def classProperty? (facts : ClassFacts) : String → Option Subject
  | "__name__" => some (.text facts.name.toList)
  | "__qualname__" => some (.text facts.name.toList)
  | "__module__" => some (.text facts.home.toList)
  | "__doc__" => some (classNotes facts)
  | "__text_signature__" => some (ofText? facts.signature)
  | "__dict__" => some (.table facts.name)
  | "__mro__" => some (.group ((lineage facts.name).map .sort))
  | "__bases__" => some (.group (facts.base.toList.map .sort))
  | "__base__" => some ((facts.base.map .sort).getD .nothing)
  | "__basicsize__" => some (.whole facts.basicSize)
  | "__itemsize__" => some (.whole facts.itemSize)
  | "__flags__" => some (.whole facts.flags)
  | "__weakrefoffset__" => some (.whole facts.weakOffset)
  | "__dictoffset__" => some (.whole facts.tableOffset)
  | _ => none

/-- The name of an operation behind the name of a class: for an operator the class that defines
it, else the class of the subject, or the subject itself if that is a class. -/
def operationName (self : Subject) (owner name : String) : String :=
  if sortOf owner name == .operator then owner ++ "." ++ name
  else match self with
    | .sort className => className ++ "." ++ name
    | other => other.className ++ "." ++ name

/-- A property of an operation; one that takes neither value nor class has no subject. -/
def operationProperty? (self : Subject) (owner name : String) : String → Option Subject
  | "__self__" => some (if sortOf owner name == .static then .nothing else self)
  | "__name__" => some (.text name.toList)
  | "__qualname__" => some (.text (operationName self owner name).toList)
  | "__module__" => some .nothing
  | "__objclass__" => some (.sort owner)
  | "__doc__" => some (ofText? ((memberOf? owner name).bind (·.doc)))
  | "__text_signature__" => some (ofText? ((memberOf? owner name).bind (·.signature)))
  | _ => none

/-- A property of a member of a class. -/
def memberProperty? (owner name : String) : String → Option Subject
  | "__name__" => some (.text name.toList)
  | "__qualname__" => some (.text (owner ++ "." ++ name).toList)
  | "__objclass__" => some (.sort owner)
  | "__doc__" => some (ofText? ((memberOf? owner name).bind (·.doc)))
  | "__text_signature__" => some (ofText? ((memberOf? owner name).bind (·.signature)))
  | "__func__" => some (.operation (.sort owner) owner name)
  | "__wrapped__" => some (.operation (.sort owner) owner name)
  | "__isabstractmethod__" => some (.truth false)
  | "__dict__" => some .emptyTable
  | _ => none

/-- A property of a class with a parameter. -/
def appliedProperty? (className : String) (parameter : Subject) : String → Option Subject
  | "__origin__" => some (.sort className)
  | "__args__" => some (.group [parameter])
  | "__parameters__" => some (.group [])
  | "__unpacked__" => some (.truth false)
  | "__typing_unpacked_tuple_args__" => some .nothing
  | _ => none

/-- The value of a property or slot that the class of a subject has. -/
def Subject.property? (subject : Subject) (name : String) : Option Subject :=
  if name == "__class__" then some (.sort subject.className)
  else match subject with
    | .whole n => numberProperty? n name
    | .truth value => numberProperty? value.toNat name
    | .sort className => (factsOf? className).bind (classProperty? · name)
    | .operation self owner called => operationProperty? self owner called name
    | .member owner called => memberProperty? owner called name
    | .applied className parameter => appliedProperty? className parameter name
    | _ => none

/-- A member of a class as an attribute of a subject of that class. -/
def Subject.bound (subject : Subject) (owner : String) (member : Member) : Option Subject :=
  match member.sort with
  | .property => subject.property? member.name
  | .slot => subject.property? member.name
  | .operator => some (.operation subject owner member.name)
  | .method => some (.operation subject owner member.name)
  | .classMethod => some (.operation (.sort subject.className) owner member.name)
  | .static => some (.operation (.sort owner) owner member.name)
  | .maker => some (.operation (.sort owner) owner member.name)
  | .notes => some (notesOf owner)
  | .absent => some .nothing

/-- A member as an attribute of the class itself. -/
def unbound (className owner : String) (member : Member) : Subject :=
  match member.sort with
  | .classMethod => .operation (.sort className) owner member.name
  | .static => .operation (.sort owner) owner member.name
  | .maker => .operation (.sort owner) owner member.name
  | .notes => notesOf owner
  | .absent => .nothing
  | _ => .member owner member.name

/-- An attribute of a subject that it has from its class. -/
def Subject.inherited? (subject : Subject) (name : String) : Option Subject :=
  (findMember? subject.className name).bind fun found => subject.bound found.1 found.2

/-- An attribute of a class: properties of classes come before its own members, and these before
operations of classes. -/
def classAttribute? (className name : String) : Option Subject :=
  let subject := Subject.sort className
  match findMember? "type" name, findMember? className name with
  | some (_, ⟨_, .property, _, _⟩), _ => subject.property? name
  | some (_, ⟨_, .slot, _, _⟩), _ => subject.property? name
  | _, some (owner, member) => some (unbound className owner member)
  | some (owner, member), none => subject.bound owner member
  | none, none => none

/-- The attributes that a class with a parameter does not have from the class. -/
def appliedNames : List String :=
  ["__class__", "__origin__", "__args__", "__unpacked__", "__parameters__",
    "__typing_unpacked_tuple_args__", "__mro_entries__", "__reduce_ex__", "__reduce__",
    "__copy__", "__deepcopy__"]

/-- An attribute of a subject. -/
def Subject.attribute? (subject : Subject) (name : String) : Option Subject :=
  match subject with
  | .sort className => classAttribute? className name
  | .applied className _ =>
    if appliedNames.contains name then subject.inherited? name
    else classAttribute? className name
  | _ => subject.inherited? name

end Protogen.Template
