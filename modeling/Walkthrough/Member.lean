import Walkthrough.Value

/-!
# Members of kinds

Every kind declares members for its values: operations, such as counting the elements of a list,
and parts, such as the denominator of an integer. A kind extends others and has what they declare,
unless it declares a member of the same name itself.

## Main definitions

* `Nature` — the sorts of members
* `Kind.declared` — the members that a kind declares, in order
* `Kind.lineage` — a kind and the kinds that it extends
* `Kind.find?` — who declares the member that values of a kind have under a name
-/

namespace Walkthrough

/-- The sorts of members. -/
inductive Nature
  /-- An operation on a value. -/
  | method
  /-- An operation that stands for a sign or for a notion, such as a sum or a length. -/
  | special
  /-- An operation of the kind that it is asked of. -/
  | ofKind
  /-- An operation of the kind that declares it. -/
  | ofDeclarer
  /-- An operation of records. -/
  | function
  /-- A value that is worked out when it is asked for. -/
  | property
  /-- A value that is part of another. -/
  | part
  /-- A value that belongs to the kind. -/
  | constant
deriving DecidableEq, Repr

namespace Kind

/-- The names of the rules for making, showing and comparing records. -/
def ruleNames : List String := ["init", "repr", "eq", "order", "unsafe_hash", "frozen"]

/-- The members that a kind declares, in order. -/
def declared : Kind → List (Nature × List String)
  | .object =>
    [(.ofDeclarer, ["__new__"]),
     (.special, ["__repr__", "__hash__", "__str__", "__getattribute__", "__setattr__",
                 "__delattr__", "__lt__", "__le__", "__eq__", "__ne__", "__gt__", "__ge__",
                 "__init__"]),
     (.method, ["__reduce_ex__", "__reduce__", "__getstate__"]),
     (.ofKind, ["__subclasshook__", "__init_subclass__"]),
     (.method, ["__format__", "__sizeof__", "__dir__"]),
     (.property, ["__class__"]),
     (.constant, ["__doc__"])]
  | .null =>
    [(.ofDeclarer, ["__new__"]),
     (.special, ["__repr__", "__bool__"]),
     (.constant, ["__doc__"])]
  | .bool =>
    [(.ofDeclarer, ["__new__"]),
     (.special, ["__repr__", "__and__", "__rand__", "__xor__", "__rxor__", "__or__", "__ror__"]),
     (.constant, ["__doc__"])]
  | .int =>
    [(.ofDeclarer, ["__new__"]),
     (.special, ["__repr__", "__hash__", "__getattribute__", "__lt__", "__le__", "__eq__", "__ne__",
                 "__gt__", "__ge__", "__add__", "__radd__", "__sub__", "__rsub__", "__mul__",
                 "__rmul__", "__mod__", "__rmod__", "__divmod__", "__rdivmod__", "__pow__",
                 "__rpow__", "__neg__", "__pos__", "__abs__", "__bool__", "__invert__",
                 "__lshift__", "__rlshift__", "__rshift__", "__rrshift__", "__and__", "__rand__",
                 "__xor__", "__rxor__", "__or__", "__ror__", "__int__", "__float__", "__floordiv__",
                 "__rfloordiv__", "__truediv__", "__rtruediv__", "__index__"]),
     (.method, ["conjugate", "bit_length", "bit_count", "to_bytes"]),
     (.ofKind, ["from_bytes"]),
     (.method, ["as_integer_ratio", "__trunc__", "__floor__", "__ceil__", "__round__",
                "__getnewargs__", "__format__", "__sizeof__"]),
     (.property, ["real", "imag", "numerator", "denominator"]),
     (.constant, ["__doc__"])]
  | .real =>
    [(.ofDeclarer, ["__new__"]),
     (.special, ["__repr__", "__hash__", "__getattribute__", "__lt__", "__le__", "__eq__", "__ne__",
                 "__gt__", "__ge__", "__add__", "__radd__", "__sub__", "__rsub__", "__mul__",
                 "__rmul__", "__mod__", "__rmod__", "__divmod__", "__rdivmod__", "__pow__",
                 "__rpow__", "__neg__", "__pos__", "__abs__", "__bool__", "__int__", "__float__",
                 "__floordiv__", "__rfloordiv__", "__truediv__", "__rtruediv__"]),
     (.method, ["conjugate", "__trunc__", "__floor__", "__ceil__", "__round__",
                "as_integer_ratio"]),
     (.ofKind, ["fromhex"]),
     (.method, ["hex", "is_integer", "__getnewargs__"]),
     (.ofKind, ["__getformat__"]),
     (.method, ["__format__"]),
     (.property, ["real", "imag"]),
     (.constant, ["__doc__"])]
  | .text =>
    [(.ofDeclarer, ["__new__"]),
     (.special, ["__repr__", "__hash__", "__str__", "__getattribute__", "__lt__", "__le__",
                 "__eq__", "__ne__", "__gt__", "__ge__", "__iter__", "__mod__", "__rmod__",
                 "__len__", "__getitem__", "__add__", "__mul__", "__rmul__", "__contains__"]),
     (.method, ["encode", "replace", "split", "rsplit", "join", "capitalize", "casefold", "title",
                "center", "count", "expandtabs", "find", "partition", "index", "ljust", "lower",
                "lstrip", "rfind", "rindex", "rjust", "rstrip", "rpartition", "splitlines", "strip",
                "swapcase", "translate", "upper", "startswith", "endswith", "removeprefix",
                "removesuffix", "isascii", "islower", "isupper", "istitle", "isspace", "isdecimal",
                "isdigit", "isnumeric", "isalpha", "isalnum", "isidentifier", "isprintable",
                "zfill", "format", "format_map", "__format__"]),
     (.ofDeclarer, ["maketrans"]),
     (.method, ["__sizeof__", "__getnewargs__"]),
     (.constant, ["__doc__"])]
  | .list =>
    [(.ofDeclarer, ["__new__"]),
     (.special, ["__repr__"]),
     (.constant, ["__hash__"]),
     (.special, ["__getattribute__", "__lt__", "__le__", "__eq__", "__ne__", "__gt__", "__ge__",
                 "__iter__", "__init__", "__len__"]),
     (.method, ["__getitem__"]),
     (.special, ["__setitem__", "__delitem__", "__add__", "__mul__", "__rmul__", "__contains__",
                 "__iadd__", "__imul__"]),
     (.method, ["__reversed__", "__sizeof__", "clear", "copy", "append", "insert", "extend", "pop",
                "remove", "index", "count", "reverse", "sort"]),
     (.ofKind, ["__class_getitem__"]),
     (.constant, ["__doc__"])]
  | .tuple =>
    [(.ofDeclarer, ["__new__"]),
     (.special, ["__repr__", "__hash__", "__getattribute__", "__lt__", "__le__", "__eq__", "__ne__",
                 "__gt__", "__ge__", "__iter__", "__len__", "__getitem__", "__add__", "__mul__",
                 "__rmul__", "__contains__"]),
     (.method, ["__getnewargs__", "index", "count"]),
     (.ofKind, ["__class_getitem__"]),
     (.constant, ["__doc__"])]
  | .dict =>
    [(.ofDeclarer, ["__new__"]),
     (.special, ["__repr__"]),
     (.constant, ["__hash__"]),
     (.special, ["__getattribute__", "__lt__", "__le__", "__eq__", "__ne__", "__gt__", "__ge__",
                 "__iter__", "__init__", "__or__", "__ror__", "__ior__", "__len__"]),
     (.method, ["__getitem__"]),
     (.special, ["__setitem__", "__delitem__"]),
     (.method, ["__contains__", "__sizeof__", "get", "setdefault", "pop", "popitem", "keys",
                "items", "values", "update"]),
     (.ofKind, ["fromkeys"]),
     (.method, ["clear", "copy", "__reversed__"]),
     (.ofKind, ["__class_getitem__"]),
     (.constant, ["__doc__"])]
  | .range =>
    [(.ofDeclarer, ["__new__"]),
     (.special, ["__repr__", "__hash__", "__getattribute__", "__lt__", "__le__", "__eq__", "__ne__",
                 "__gt__", "__ge__", "__iter__", "__bool__", "__len__", "__getitem__",
                 "__contains__"]),
     (.method, ["__reversed__", "__reduce__", "count", "index"]),
     (.part, ["start", "stop", "step"]),
     (.constant, ["__doc__"])]
  | .listIterator | .rangeIterator | .longRangeIterator | .tupleIterator | .textIterator
  | .asciiIterator =>
    [(.special, ["__getattribute__", "__iter__", "__next__"]),
     (.method, ["__length_hint__", "__reduce__", "__setstate__"]),
     (.constant, ["__doc__"])]
  | .keyIterator =>
    [(.special, ["__getattribute__", "__iter__", "__next__"]),
     (.method, ["__length_hint__", "__reduce__"]),
     (.constant, ["__doc__"])]
  | .builtin =>
    [(.special, ["__repr__", "__hash__", "__call__", "__getattribute__", "__lt__", "__le__",
                 "__eq__", "__ne__", "__gt__", "__ge__"]),
     (.method, ["__reduce__"]),
     (.part, ["__module__"]),
     (.property, ["__doc__", "__name__", "__qualname__", "__self__", "__text_signature__"])]
  | .wrapper =>
    [(.special, ["__repr__", "__hash__", "__call__", "__getattribute__", "__lt__", "__le__",
                 "__eq__", "__ne__", "__gt__", "__ge__"]),
     (.method, ["__reduce__"]),
     (.part, ["__self__"]),
     (.property, ["__objclass__", "__name__", "__qualname__", "__doc__", "__text_signature__"])]
  | .method =>
    [(.ofDeclarer, ["__new__"]),
     (.special, ["__repr__", "__hash__", "__call__", "__getattribute__", "__setattr__",
                 "__delattr__", "__lt__", "__le__", "__eq__", "__ne__", "__gt__", "__ge__"]),
     (.method, ["__reduce__"]),
     (.part, ["__func__", "__self__"]),
     (.property, ["__doc__"])]
  | .function =>
    [(.ofDeclarer, ["__new__"]),
     (.special, ["__repr__", "__call__", "__get__"]),
     (.part, ["__closure__", "__doc__", "__globals__", "__module__", "__builtins__"]),
     (.property, ["__code__", "__defaults__", "__kwdefaults__", "__annotations__", "__dict__",
                  "__name__", "__qualname__"])]
  | .type =>
    [(.ofDeclarer, ["__new__"]),
     (.special, ["__repr__", "__call__", "__getattribute__", "__setattr__", "__delattr__",
                 "__init__", "__or__", "__ror__"]),
     (.method, ["mro", "__subclasses__"]),
     (.ofKind, ["__prepare__"]),
     (.method, ["__instancecheck__", "__subclasscheck__", "__dir__", "__sizeof__"]),
     (.part, ["__basicsize__", "__itemsize__", "__flags__", "__weakrefoffset__", "__base__",
              "__dictoffset__", "__mro__"]),
     (.property, ["__name__", "__qualname__", "__bases__", "__module__", "__abstractmethods__",
                  "__dict__", "__doc__", "__text_signature__", "__annotations__"])]
  | .methodMember | .wrapperMember =>
    [(.special, ["__repr__", "__call__", "__getattribute__", "__get__"]),
     (.method, ["__reduce__"]),
     (.part, ["__objclass__", "__name__"]),
     (.property, ["__doc__", "__qualname__", "__text_signature__"])]
  | .propertyMember =>
    [(.special, ["__repr__", "__getattribute__", "__get__", "__set__", "__delete__"]),
     (.part, ["__objclass__", "__name__"]),
     (.property, ["__doc__", "__qualname__"])]
  | .partMember =>
    [(.special, ["__repr__", "__getattribute__", "__get__", "__set__", "__delete__"]),
     (.method, ["__reduce__"]),
     (.part, ["__objclass__", "__name__"]),
     (.property, ["__doc__", "__qualname__"])]
  | .rules =>
    [(.constant, ["__module__", "__slots__"]),
     (.part, ruleNames),
     (.constant, ["__doc__"])]
  | .members | .code => []
  | .person =>
    [(.constant, ["__module__", "__annotations__", "__doc__"]),
     (.function, ["get_full_name"]),
     (.property, ["__dict__", "__weakref__"]),
     (.constant, ["__dataclass_params__", "__dataclass_fields__"]),
     (.function, ["__init__", "__repr__", "__eq__"]),
     (.constant, ["__hash__", "__match_args__"])]
  | .settings =>
    [(.constant, ["__module__", "__annotations__", "__doc__", "greeting", "name", "count",
                  "iterations", "is_active"]),
     (.property, ["__dict__", "__weakref__"]),
     (.constant, ["__dataclass_params__", "__dataclass_fields__"]),
     (.function, ["__init__", "__repr__", "__eq__"]),
     (.constant, ["__hash__", "__match_args__"])]
  | .step =>
    [(.constant, ["__module__", "__annotations__", "__doc__"]),
     (.property, ["__dict__", "__weakref__"]),
     (.constant, ["__dataclass_params__", "__dataclass_fields__"]),
     (.function, ["__init__", "__repr__", "__eq__"]),
     (.constant, ["__hash__", "__match_args__"])]

/-- A kind and the kinds that it extends, the nearest first. -/
def lineage : Kind → List Kind
  | .object => [.object]
  | .bool => [.bool, .int, .object]
  | k => [k, .object]

/-- The nature of the member that a kind itself declares under a name. -/
def nature? (k : Kind) (name : String) : Option Nature :=
  (k.declared.find? fun group => name ∈ group.2).map (·.1)

/-- The kind that declares the member that values of a kind have under a name, and its nature. -/
def find? (k : Kind) (name : String) : Option (Kind × Nature) :=
  k.lineage.findSome? fun l => (l.nature? name).map (l, ·)

/-- Whether values of a kind are records. -/
def isRecord : Kind → Bool
  | .person | .settings | .step => true
  | _ => false

end Kind

end Walkthrough
