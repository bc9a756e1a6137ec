import Protogen.Template.Catalogue.Member

/-!
# Operations in the catalogue

What a template can ask about an operation and about a member of a class.
-/

set_option autoImplicit false

namespace Protogen.Template.Catalogue

/-- The class of operations with a name. -/
def functionClass : ClassFacts where
  name := "builtin_function_or_method"
  base := "object"
  basicSize := 56
  flags := 547200
  weakOffset := 40
  members :=
    operators ["__repr__", "__hash__", "__call__", "__getattribute__", "__lt__", "__le__",
      "__eq__", "__ne__", "__gt__", "__ge__"] ++
    [method "__reduce__" none none,
     slot "__module__",
     property "__doc__" none,
     property "__name__" none,
     property "__qualname__" none,
     property "__self__" none,
     property "__text_signature__" none]

/-- The class of operations of an operator. -/
def wrapperClass : ClassFacts where
  name := "method-wrapper"
  base := "object"
  basicSize := 32
  flags := 545152
  members :=
    operators ["__repr__", "__hash__", "__call__", "__getattribute__", "__lt__", "__le__",
      "__eq__", "__ne__", "__gt__", "__ge__"] ++
    [method "__reduce__" none none,
     slot "__self__",
     property "__objclass__" none,
     property "__name__" none,
     property "__qualname__" none,
     property "__doc__" none,
     property "__text_signature__" none]

/-- The class of operators in their class. -/
def operatorClass : ClassFacts where
  name := "wrapper_descriptor"
  base := "object"
  basicSize := 56
  flags := 676224
  members :=
    operators ["__repr__", "__call__", "__getattribute__", "__get__"] ++
    [method "__reduce__" none none,
     slot "__objclass__",
     slot "__name__",
     property "__doc__" none,
     property "__qualname__" none,
     property "__text_signature__" none]

/-- The class of methods in their class. -/
def methodClass : ClassFacts where
  name := "method_descriptor"
  base := "object"
  basicSize := 56
  flags := 678272
  members :=
    operators ["__repr__", "__call__", "__getattribute__", "__get__"] ++
    [method "__reduce__" none none,
     slot "__objclass__",
     slot "__name__",
     property "__doc__" none,
     property "__qualname__" none,
     property "__text_signature__" none]

/-- The class of methods of a class in it. -/
def classMethodClass : ClassFacts where
  name := "classmethod_descriptor"
  base := "object"
  basicSize := 56
  flags := 545152
  members :=
    operators ["__repr__", "__call__", "__getattribute__", "__get__"] ++
    [slot "__objclass__",
     slot "__name__",
     property "__doc__" none,
     property "__qualname__" none,
     property "__text_signature__" none]

/-- The class of properties in their class. -/
def propertyClass : ClassFacts where
  name := "getset_descriptor"
  base := "object"
  basicSize := 48
  flags := 545152
  members :=
    operators ["__repr__", "__getattribute__", "__get__", "__set__", "__delete__"] ++
    [slot "__objclass__",
     slot "__name__",
     property "__doc__" none,
     property "__qualname__" none]

/-- The class of slots in their class. -/
def slotClass : ClassFacts where
  name := "member_descriptor"
  base := "object"
  basicSize := 48
  flags := 545152
  members :=
    operators ["__repr__", "__getattribute__", "__get__", "__set__", "__delete__"] ++
    [method "__reduce__" none none,
     slot "__objclass__",
     slot "__name__",
     property "__doc__" none,
     property "__qualname__" none]

/-- The class of methods of no value in their class. -/
def staticClass : ClassFacts where
  name := "staticmethod"
  base := "object"
  doc := inLines
    ["staticmethod(function) -> method",
     "",
     "Convert a function to be a static method.",
     "",
     "A static method does not receive an implicit first argument.",
     "To declare a static method, use this idiom:",
     "",
     "     class C:",
     "         @staticmethod",
     "         def f(arg1, arg2, argN):",
     "             ...",
     "",
     "It can be called either on the class (e.g. C.f()) or on an instance",
     "(e.g. C().f()). Both the class and the instance are ignored, and",
     "neither is passed implicitly as the first argument to the method.",
     "",
     "Static methods in Python are similar to those found in Java or C++.",
     "For a more advanced concept, see the classmethod builtin."]
  basicSize := 32
  flags := 546048
  tableOffset := 24
  members :=
    [maker] ++
    operators ["__repr__", "__call__", "__get__", "__init__"] ++
    [slot "__func__",
     slot "__wrapped__",
     property "__isabstractmethod__" none,
     property "__dict__" none,
     notes]

end Protogen.Template.Catalogue
