import Protogen.Template.Catalogue.Class
import Protogen.Template.Catalogue.Collection
import Protogen.Template.Catalogue.Number
import Protogen.Template.Catalogue.Operation
import Protogen.Template.Catalogue.Text

/-!
# The catalogue of classes

Everything that a template can reach from a text belongs to one of the classes of the catalogue.

* `classes` lists them, `factsOf?` looks one up by its name.
* `lineage` is a class with those that it is derived from.
* `findMember?` is a member of a class with the class in which it is defined.
-/

set_option autoImplicit false

namespace Protogen.Template.Catalogue

/-- All classes. -/
def classes : List ClassFacts :=
  [textClass, wholeClass, truthClass, groupClass, tableClass, viewClass, aliasClass, nothingClass,
    anythingClass, classClass, functionClass, wrapperClass, operatorClass, methodClass,
    classMethodClass, propertyClass, slotClass, staticClass]

/-- What is known of a class. -/
def factsOf? (name : String) : Option ClassFacts := classes.find? (·.name == name)

/-- A class with those above it, up to a number of them. -/
def lineageIn : Nat → String → List String
  | 0, name => [name]
  | n + 1, name =>
    match (factsOf? name).bind (·.base) with
    | some base => name :: lineageIn n base
    | none => [name]

/-- A class with those above it, of which there are at most two. -/
def lineage (name : String) : List String := lineageIn 2 name

/-- The members of a class that are defined in it. -/
def membersOf (name : String) : List Member := ((factsOf? name).map (·.members)).getD []

/-- A member that is defined in a class. -/
def memberOf? (owner name : String) : Option Member := (membersOf owner).find? (·.name == name)

/-- A member of a class with the class that defines it. -/
def findMember? (className name : String) : Option (String × Member) :=
  (lineage className).findSome? fun owner => (memberOf? owner name).map (owner, ·)

/-- A class as its name is written behind the place where it is defined. -/
def fullName (name : String) : String :=
  match factsOf? name with
  | some facts => if facts.home == "builtins" then name else facts.home ++ "." ++ name
  | none => name

end Protogen.Template.Catalogue
