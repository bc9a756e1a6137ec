import Protogen.Template.Catalogue.Member

/-!
# Classes in the catalogue

What a template can ask about a class, and about everything.
-/

set_option autoImplicit false

namespace Protogen.Template.Catalogue

/-- The class of everything. -/
def anythingClass : ClassFacts where
  name := "object"
  doc := inLines
    ["The base class of the class hierarchy.",
     "",
     "When called, it accepts no arguments and returns a new featureless",
     "instance that has no instance attributes and cannot be given any.",
     ""]
  signature := "()"
  basicSize := 16
  flags := 529664
  members :=
    [maker] ++
    operators ["__repr__", "__hash__", "__str__", "__getattribute__", "__setattr__",
      "__delattr__", "__lt__", "__le__", "__eq__", "__ne__", "__gt__", "__ge__", "__init__"] ++
    [method "__reduce_ex__" "Helper for pickle." "($self, protocol, /)",
     method "__reduce__" "Helper for pickle." "($self, /)",
     method "__getstate__" "Helper for pickle." "($self, /)",
     classMethod "__subclasshook__"
       (inLines
         ["Abstract classes can override this to customize issubclass().",
          "",
          "This is invoked early on by abc.ABCMeta.__subclasscheck__().",
          "It should return True, False or NotImplemented.  If it returns",
          "NotImplemented, the normal algorithm is used.  Otherwise, it",
          "overrides the normal algorithm (and the outcome is cached).",
          ""])
       none,
     classMethod "__init_subclass__"
       (inLines
         ["This method is called when a class is subclassed.",
          "",
          "The default implementation does nothing. It may be",
          "overridden to extend subclasses.",
          ""])
       none,
     method "__format__" "Default object formatter." "($self, format_spec, /)",
     method "__sizeof__" "Size of object in memory, in bytes." "($self, /)",
     method "__dir__" "Default dir() implementation." "($self, /)",
     property "__class__" "the object's class",
     notes]

/-- The class of classes. -/
def classClass : ClassFacts where
  name := "type"
  base := "object"
  doc := inLines
    ["type(object) -> the object's type",
     "type(name, bases, dict, **kwds) -> a new type"]
  basicSize := 904
  itemSize := 40
  flags := 2148031744
  weakOffset := 368
  tableOffset := 264
  members :=
    [maker] ++
    operators ["__repr__", "__call__", "__getattribute__", "__setattr__", "__delattr__",
      "__init__", "__or__", "__ror__"] ++
    [method "mro" "Return a type's method resolution order." "($self, /)",
     method "__subclasses__" "Return a list of immediate subclasses." "($self, /)",
     classMethod "__prepare__"
       (inLines
         ["__prepare__() -> dict",
          "used to create the namespace for the class statement"])
       none,
     method "__instancecheck__" "Check if an object is an instance." "($self, instance, /)",
     method "__subclasscheck__" "Check if a class is a subclass." "($self, subclass, /)",
     method "__dir__" "Specialized __dir__ implementation for types." "($self, /)",
     method "__sizeof__" "Return memory consumption of the type object." "($self, /)",
     slot "__basicsize__",
     slot "__itemsize__",
     slot "__flags__",
     slot "__weakrefoffset__",
     slot "__base__",
     slot "__dictoffset__",
     slot "__mro__",
     property "__name__" none,
     property "__qualname__" none,
     property "__bases__" none,
     property "__module__" none,
     property "__abstractmethods__" none,
     property "__dict__" none,
     property "__doc__" none,
     property "__text_signature__" none,
     property "__annotations__" none]

/-- The class of what is missing. -/
def nothingClass : ClassFacts where
  name := "NoneType"
  base := "object"
  basicSize := 16
  flags := 528640
  members :=
    [maker] ++
    operators ["__repr__", "__bool__"] ++
    [absent "__doc__"]

end Protogen.Template.Catalogue
