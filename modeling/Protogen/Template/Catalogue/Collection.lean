import Protogen.Template.Catalogue.Member

/-!
# Collections in the catalogue

What a template can ask about a group, a table, and a class with a parameter.
-/

set_option autoImplicit false

namespace Protogen.Template.Catalogue

/-- The class of groups. -/
def groupClass : ClassFacts where
  name := "tuple"
  base := "object"
  doc := inLines
    ["Built-in immutable sequence.",
     "",
     "If no argument is given, the constructor returns an empty tuple.",
     "If iterable is specified the tuple is initialized from iterable's items.",
     "",
     "If the argument is a tuple, the return value is the same object."]
  signature := "(iterable=(), /)"
  basicSize := 24
  itemSize := 8
  flags := 71849248
  members :=
    [maker] ++
    operators ["__repr__", "__hash__", "__getattribute__", "__lt__", "__le__", "__eq__", "__ne__",
      "__gt__", "__ge__", "__iter__", "__len__", "__getitem__", "__add__", "__mul__", "__rmul__",
      "__contains__"] ++
    [method "__getnewargs__" none "($self, /)",
     method "index"
       (inLines
         ["Return first index of value.",
          "",
          "Raises ValueError if the value is not present."])
       "($self, value, start=0, stop=sys.maxsize, /)",
     method "count" "Return number of occurrences of value." "($self, value, /)",
     classMethod "__class_getitem__" "See PEP 585" none,
     notes]

/-- The class of tables. -/
def tableClass : ClassFacts where
  name := "dict"
  base := "object"
  doc := inLines
    ["dict() -> new empty dictionary",
     "dict(mapping) -> new dictionary initialized from a mapping object's",
     "    (key, value) pairs",
     "dict(iterable) -> new dictionary initialized as if via:",
     "    d = \x7b\x7d",
     "    for k, v in iterable:",
     "        d[k] = v",
     "dict(**kwargs) -> new dictionary initialized with the name=value pairs",
     "    in the keyword argument list.  For example:  dict(one=1, two=2)"]
  basicSize := 48
  flags := 541611328
  members :=
    [maker] ++
    operators ["__repr__"] ++
    [absent "__hash__"] ++
    operators ["__getattribute__", "__lt__", "__le__", "__eq__", "__ne__", "__gt__", "__ge__",
      "__iter__", "__init__", "__or__", "__ror__", "__ior__", "__len__"] ++
    [method "__getitem__" "x.__getitem__(y) <==> x[y]" none] ++
    operators ["__setitem__", "__delitem__"] ++
    [method "__contains__" "True if the dictionary has the specified key, else False."
       "($self, key, /)",
     method "__sizeof__" "D.__sizeof__() -> size of D in memory, in bytes" none,
     method "get" "Return the value for key if key is in the dictionary, else default."
       "($self, key, default=None, /)",
     method "setdefault"
       (inLines
         ["Insert key with a value of default if key is not in the dictionary.",
          "",
          "Return the value for key if key is in the dictionary, else default."])
       "($self, key, default=None, /)",
     method "pop"
       (inLines
         ["D.pop(k[,d]) -> v, remove specified key and return the corresponding value.",
          "",
          "If the key is not found, return the default if given; otherwise,",
          "raise a KeyError."])
       "($self, key, default=<unrepresentable>, /)",
     method "popitem"
       (inLines
         ["Remove and return a (key, value) pair as a 2-tuple.",
          "",
          "Pairs are returned in LIFO (last-in, first-out) order.",
          "Raises KeyError if the dict is empty."])
       "($self, /)",
     method "keys" "D.keys() -> a set-like object providing a view on D's keys" none,
     method "items" "D.items() -> a set-like object providing a view on D's items" none,
     method "values" "D.values() -> an object providing a view on D's values" none,
     method "update"
       (inLines
         ["D.update([E, ]**F) -> None.  Update D from dict/iterable E and F.",
          "If E is present and has a .keys() method, then does:  for k in E: D[k] = E[k]",
          "If E is present and lacks a .keys() method, then does:  for k, v in E: D[k] = v",
          "In either case, this is followed by: for k in F:  D[k] = F[k]"])
       none,
     classMethod "fromkeys"
       "Create a new dictionary with keys from iterable and values set to value."
       "($type, iterable, value=None, /)",
     method "clear" "D.clear() -> None.  Remove all items from D." none,
     method "copy" "D.copy() -> a shallow copy of D" none,
     method "__reversed__" "Return a reverse iterator over the dict keys." "($self, /)",
     classMethod "__class_getitem__" "See PEP 585" none,
     notes]

/-- The class of tables that are only looked at. -/
def viewClass : ClassFacts where
  name := "mappingproxy"
  base := "object"
  basicSize := 24
  flags := 545088
  members :=
    [maker] ++
    operators ["__repr__", "__str__", "__getattribute__", "__lt__", "__le__", "__eq__", "__ne__",
      "__gt__", "__ge__", "__iter__", "__or__", "__ror__", "__ior__", "__len__", "__getitem__",
      "__contains__"] ++
    [method "get" "D.get(k[,d]) -> D[k] if k in D, else d.  d defaults to None." none,
     method "keys" "D.keys() -> a set-like object providing a view on D's keys" none,
     method "values" "D.values() -> an object providing a view on D's values" none,
     method "items" "D.items() -> a set-like object providing a view on D's items" none,
     method "copy" "D.copy() -> a shallow copy of D" none,
     classMethod "__class_getitem__" "See PEP 585" none,
     method "__reversed__" "D.__reversed__() -> reverse iterator" none,
     absent "__doc__",
     absent "__hash__"]

/-- The class of classes with a parameter. -/
def aliasClass : ClassFacts where
  name := "GenericAlias"
  home := "types"
  base := "object"
  doc := inLines
    ["Represent a PEP 585 generic type",
     "",
     "E.g. for t = list[int], t.__origin__ is list and t.__args__ is (int,)."]
  basicSize := 64
  flags := 548096
  weakOffset := 40
  members :=
    [maker] ++
    operators ["__repr__", "__hash__", "__call__", "__getattribute__", "__lt__", "__le__",
      "__eq__", "__ne__", "__gt__", "__ge__", "__iter__", "__or__", "__ror__", "__getitem__"] ++
    [method "__mro_entries__" none none,
     method "__instancecheck__" none none,
     method "__subclasscheck__" none none,
     method "__reduce__" none none,
     method "__dir__" none none,
     slot "__origin__",
     slot "__args__",
     slot "__unpacked__",
     property "__parameters__" "Type variables in the GenericAlias.",
     property "__typing_unpacked_tuple_args__" none,
     notes]

end Protogen.Template.Catalogue
