import Walkthrough.Member

/-!
# How many arguments an operation takes

An operation is asked for with arguments, and tells if they are too few or too many. How it tells
depends on what sort of operation it is.

## Main definitions

* `Arity` — how many arguments an operation takes, and how it is told
* `Arity.accepts` — whether a number of arguments is right
* `Kind.arity` — the arity of an operation that a kind declares
-/

namespace Walkthrough

/-- How many arguments an operation takes, as it is told. -/
inductive Arity
  /-- Any number. -/
  | free
  /-- A number of them, told without a name. -/
  | exactly (n : Nat)
  /-- A number of them, told where a name would stand. -/
  | bare (least most : Nat)
  /-- None; the kind is told. -/
  | none
  /-- One; the kind is told. -/
  | one
  /-- None or one. -/
  | optional
  /-- A number of them, told with the name. -/
  | named (least most : Nat)
  /-- At least one, told in the words for a call. -/
  | called
  /-- One that has a name. -/
  | required (argument : String) (position : Nat)
  /-- None but by name. -/
  | byName
deriving DecidableEq, Repr

/-- Whether a number of arguments is right. -/
def Arity.accepts (given : Nat) : Arity → Bool
  | .free => true
  | .exactly n => given == n
  | .bare least most => least ≤ given && given ≤ most
  | .none => given == 0
  | .one => given == 1
  | .optional => given ≤ 1
  | .named least most => least ≤ given && given ≤ most
  | .called => 1 ≤ given
  | .required _ _ => given == 1
  | .byName => given == 0

namespace Kind

/-- The notions that take nothing but the value itself. -/
def unarySpecials : List String :=
  ["__repr__", "__hash__", "__str__", "__iter__", "__len__", "__neg__", "__pos__", "__abs__",
   "__bool__", "__invert__", "__int__", "__float__", "__index__", "__next__"]

/-- The arity of an operation that stands for a sign or a notion. -/
def specialArity (k : Kind) (name : String) : Arity :=
  if name ∈ unarySpecials then .exactly 0
  else if name ∈ ["__init__", "__call__"] then .free
  else if name ∈ ["__setattr__", "__setitem__", "__set__"] then .bare 2 2
  else if name ∈ ["__pow__", "__rpow__", "__get__"] then .bare 1 2
  else if name ∈ ["__mul__", "__rmul__", "__imul__"] && k ∈ [.text, .list, .tuple] then .bare 1 1
  else .exactly 1

/-- The arity of an operation on texts. -/
def textArity (name : String) : Arity :=
  if name ∈ ["format_map", "join", "partition", "removeprefix", "removesuffix", "rpartition",
      "translate", "zfill", "__format__"] then .one
  else if name ∈ ["encode", "expandtabs", "lstrip", "rsplit", "rstrip", "split", "splitlines",
      "strip"] then .optional
  else if name ∈ ["center", "ljust", "rjust"] then .named 1 2
  else if name ∈ ["count", "endswith", "find", "index", "rfind", "rindex", "startswith"] then
    .called
  else if name = "maketrans" then .named 1 3
  else if name = "replace" then .named 2 3
  else if name = "format" then .free
  else .none

/-- The arity of an operation on lists, tuples, dictionaries and progressions. -/
def collectionArity (k : Kind) (name : String) : Arity :=
  match k, name with
  | _, "__getitem__" | _, "__contains__" | _, "__class_getitem__" | _, "count" => .one
  | .range, "index" => .one
  | _, "index" => .named 1 3
  | .list, "append" | .list, "extend" | .list, "remove" => .one
  | .list, "insert" => .named 2 2
  | .list, "pop" | .dict, "update" => .optional
  | .list, "sort" => .byName
  | .dict, "get" | .dict, "setdefault" | .dict, "pop" | .dict, "fromkeys" => .named 1 2
  | .range, "__reduce__" => .free
  | _, _ => .none

/-- The arity of an operation on numbers. -/
def numberArity (name : String) : Arity :=
  match name with
  | "to_bytes" | "__round__" => .optional
  | "from_bytes" => .required "bytes" 1
  | "fromhex" | "__getformat__" | "__format__" => .one
  | _ => .none

/-- The arity of an operation that a kind declares. -/
def arity (k : Kind) (name : String) : Arity :=
  if k.nature? name = some .special then k.specialArity name
  else
    match k, name with
    | _, "__new__" | _, "__subclasshook__" | _, "__prepare__" => .free
    | _, "__reduce_ex__" | _, "__setstate__" | _, "__instancecheck__" | _, "__subclasscheck__" =>
      .one
    | .object, "__format__" => .one
    | .text, _ => textArity name
    | .bool, _ | .int, _ | .real, _ => numberArity name
    | .list, _ | .tuple, _ | .dict, _ | .range, _ => k.collectionArity name
    | _, _ => .none

end Kind

end Walkthrough
