/-!
# Members of classes

A class has members, each of a sort that says how it is found in the values of the class.

* `Member` is a member with its description, `ClassFacts` a class with all that is known of it.
* `operatorNotes` describes the operators, which are the same in every class that has them.
-/

set_option autoImplicit false

namespace Protogen.Template.Catalogue

/-- How a member belongs to its class. -/
inductive MemberSort
  /-- an operation that a mark or a word stands for -/
  | operator
  | method
  /-- a method that takes the class in the place of a value -/
  | classMethod
  /-- a method that takes neither -/
  | static
  /-- what makes a value of the class -/
  | maker
  /-- a value that is worked out -/
  | property
  /-- a value that is stored -/
  | slot
  /-- the description of the class -/
  | notes
  /-- a member that is withdrawn -/
  | absent
  deriving DecidableEq, Repr

/-- A member of a class, its description, and the arguments that it takes. -/
structure Member where
  name : String
  sort : MemberSort
  doc : Option String := none
  signature : Option String := none
  deriving DecidableEq, Repr

/-- What is known of a class: its name and where it is defined, the class that it is derived from,
its description and the arguments that it takes, sizes and other numbers, and its members. -/
structure ClassFacts where
  name : String
  home : String := "builtins"
  base : Option String := none
  doc : Option String := none
  signature : Option String := none
  basicSize : Nat
  itemSize : Nat := 0
  flags : Nat
  weakOffset : Nat := 0
  tableOffset : Nat := 0
  members : List Member
  deriving Repr

/-- A description of several lines. -/
def inLines (lines : List String) : Option String := some ("\n".intercalate lines)

/-- The operators, with their descriptions and arguments. -/
def operatorNotes : List Member := [
  ⟨"__abs__", .operator, "abs(self)", "($self, /)"⟩,
  ⟨"__add__", .operator, "Return self+value.", "($self, value, /)"⟩,
  ⟨"__and__", .operator, "Return self&value.", "($self, value, /)"⟩,
  ⟨"__bool__", .operator, "True if self else False", "($self, /)"⟩,
  ⟨"__call__", .operator, "Call self as a function.", "($self, /, *args, **kwargs)"⟩,
  ⟨"__contains__", .operator, "Return key in self.", "($self, key, /)"⟩,
  ⟨"__delattr__", .operator, "Implement delattr(self, name).", "($self, name, /)"⟩,
  ⟨"__delete__", .operator, "Delete an attribute of instance.", "($self, instance, /)"⟩,
  ⟨"__delitem__", .operator, "Delete self[key].", "($self, key, /)"⟩,
  ⟨"__divmod__", .operator, "Return divmod(self, value).", "($self, value, /)"⟩,
  ⟨"__eq__", .operator, "Return self==value.", "($self, value, /)"⟩,
  ⟨"__float__", .operator, "float(self)", "($self, /)"⟩,
  ⟨"__floordiv__", .operator, "Return self//value.", "($self, value, /)"⟩,
  ⟨"__ge__", .operator, "Return self>=value.", "($self, value, /)"⟩,
  ⟨"__get__", .operator, "Return an attribute of instance, which is of type owner.",
    "($self, instance, owner=None, /)"⟩,
  ⟨"__getattribute__", .operator, "Return getattr(self, name).", "($self, name, /)"⟩,
  ⟨"__getitem__", .operator, "Return self[key].", "($self, key, /)"⟩,
  ⟨"__gt__", .operator, "Return self>value.", "($self, value, /)"⟩,
  ⟨"__hash__", .operator, "Return hash(self).", "($self, /)"⟩,
  ⟨"__index__", .operator,
    "Return self converted to an integer, if self is suitable for use as an index into a list.",
    "($self, /)"⟩,
  ⟨"__init__", .operator, "Initialize self.  See help(type(self)) for accurate signature.",
    "($self, /, *args, **kwargs)"⟩,
  ⟨"__int__", .operator, "int(self)", "($self, /)"⟩,
  ⟨"__invert__", .operator, "~self", "($self, /)"⟩,
  ⟨"__ior__", .operator, "Return self|=value.", "($self, value, /)"⟩,
  ⟨"__iter__", .operator, "Implement iter(self).", "($self, /)"⟩,
  ⟨"__le__", .operator, "Return self<=value.", "($self, value, /)"⟩,
  ⟨"__len__", .operator, "Return len(self).", "($self, /)"⟩,
  ⟨"__lshift__", .operator, "Return self<<value.", "($self, value, /)"⟩,
  ⟨"__lt__", .operator, "Return self<value.", "($self, value, /)"⟩,
  ⟨"__mod__", .operator, "Return self%value.", "($self, value, /)"⟩,
  ⟨"__mul__", .operator, "Return self*value.", "($self, value, /)"⟩,
  ⟨"__ne__", .operator, "Return self!=value.", "($self, value, /)"⟩,
  ⟨"__neg__", .operator, "-self", "($self, /)"⟩,
  ⟨"__or__", .operator, "Return self|value.", "($self, value, /)"⟩,
  ⟨"__pos__", .operator, "+self", "($self, /)"⟩,
  ⟨"__pow__", .operator, "Return pow(self, value, mod).", "($self, value, mod=None, /)"⟩,
  ⟨"__radd__", .operator, "Return value+self.", "($self, value, /)"⟩,
  ⟨"__rand__", .operator, "Return value&self.", "($self, value, /)"⟩,
  ⟨"__rdivmod__", .operator, "Return divmod(value, self).", "($self, value, /)"⟩,
  ⟨"__repr__", .operator, "Return repr(self).", "($self, /)"⟩,
  ⟨"__rfloordiv__", .operator, "Return value//self.", "($self, value, /)"⟩,
  ⟨"__rlshift__", .operator, "Return value<<self.", "($self, value, /)"⟩,
  ⟨"__rmod__", .operator, "Return value%self.", "($self, value, /)"⟩,
  ⟨"__rmul__", .operator, "Return value*self.", "($self, value, /)"⟩,
  ⟨"__ror__", .operator, "Return value|self.", "($self, value, /)"⟩,
  ⟨"__rpow__", .operator, "Return pow(value, self, mod).", "($self, value, mod=None, /)"⟩,
  ⟨"__rrshift__", .operator, "Return value>>self.", "($self, value, /)"⟩,
  ⟨"__rshift__", .operator, "Return self>>value.", "($self, value, /)"⟩,
  ⟨"__rsub__", .operator, "Return value-self.", "($self, value, /)"⟩,
  ⟨"__rtruediv__", .operator, "Return value/self.", "($self, value, /)"⟩,
  ⟨"__rxor__", .operator, "Return value^self.", "($self, value, /)"⟩,
  ⟨"__set__", .operator, "Set an attribute of instance to value.", "($self, instance, value, /)"⟩,
  ⟨"__setattr__", .operator, "Implement setattr(self, name, value).", "($self, name, value, /)"⟩,
  ⟨"__setitem__", .operator, "Set self[key] to value.", "($self, key, value, /)"⟩,
  ⟨"__str__", .operator, "Return str(self).", "($self, /)"⟩,
  ⟨"__sub__", .operator, "Return self-value.", "($self, value, /)"⟩,
  ⟨"__truediv__", .operator, "Return self/value.", "($self, value, /)"⟩,
  ⟨"__xor__", .operator, "Return self^value.", "($self, value, /)"⟩]

/-- The operators with names. -/
def operators (names : List String) : List Member :=
  names.map fun name =>
    (operatorNotes.find? (·.name == name)).getD { name, sort := .operator }

/-- A method. -/
def method (name : String) (doc signature : Option String) : Member :=
  ⟨name, .method, doc, signature⟩

/-- A method of the class. -/
def classMethod (name : String) (doc signature : Option String) : Member :=
  ⟨name, .classMethod, doc, signature⟩

/-- A method of neither value nor class. -/
def static (name : String) (doc signature : Option String) : Member :=
  ⟨name, .static, doc, signature⟩

/-- A value that is worked out. -/
def property (name : String) (doc : Option String) : Member := ⟨name, .property, doc, none⟩

/-- A value that is stored. -/
def slot (name : String) : Member := { name, sort := .slot }

/-- A member that is withdrawn. -/
def absent (name : String) : Member := { name, sort := .absent }

/-- The description of a class. -/
def notes : Member := { name := "__doc__", sort := .notes }

/-- What makes a value. -/
def maker : Member :=
  ⟨"__new__", .maker, "Create and return a new object.  See help(type) for accurate signature.",
    "($type, *args, **kwargs)"⟩

end Protogen.Template.Catalogue
