import Walkthrough.Call.Comparison
import Walkthrough.Call.Construction
import Walkthrough.Call.Sequence
import Walkthrough.Call.Text

/-!
# Operations of all values

Every value can be displayed and formatted, has attributes that can be read and taken away, and
tells what it has. Operations and kinds are values too, with some operations of their own.

## Main definitions

* `Store.memberNames` — the names of what a value has
* `Action.general` — an operation that every value has
* `Action.ofKind` — an operation of a kind, as a value
-/

namespace Walkthrough

/-- The names that a kind and the kinds that it extends declare, each once. -/
def Kind.memberNames (k : Kind) : List String :=
  (k.lineage.flatMap fun l => l.declared.flatMap (·.2)).eraseDups

/-- The names of what a value has: its attributes, and the members of its kind. -/
def Store.memberNames (s : Store) (v : Value) : List String :=
  match v, s.cell? v with
  | .kind k, _ => k.memberNames
  | _, some (.record r) =>
    let names := (s.attributesAt r.attributes).filterMap fun entry =>
      match entry.1 with
      | .text name => some name
      | _ => none
    (names ++ r.kind.memberNames).eraseDups
  | _, _ => (s.kind v).memberNames

/-- The size of values of a kind in the memory of a usual machine. -/
def Kind.size : Kind → Nat
  | .real | .person | .settings | .step => 24
  | .range | .rangeIterator | .longRangeIterator | .method => 48
  | .listIterator | .tupleIterator | .textIterator | .asciiIterator | .wrapper => 32
  | .keyIterator | .builtin => 56
  | .function => 136
  | .methodMember | .wrapperMember | .propertyMember | .partMember => 72
  | _ => 16

namespace Action

/-- The name of an attribute, which must be a text. -/
def attributeName (v : Value) : Action String :=
  match v with
  | .text t => pure t
  | _ => wrongKind v .attributeNotText

/-- Takes an attribute away. -/
def removeAttribute (v : Value) (name : String) : Action Value :=
  ExceptT.mk fun s =>
    match s.remove v name with
    | .ok s => (.ok .null, s)
    | .error f => (.error f, s)

/-- A value in a format, which must be empty. -/
def plainFormat (v : Value) (f : Value) : Action Value := do
  let format ← format f
  if format = "" then return .text (← read fun s => s.sentence v)
  else wrongKind v .unsupportedFormat

/-- What would build a value again, which only few values can tell. -/
def pickled (v : Value) : Action Value := do
  let k ← kindOf v
  if k.isRecord then return .shown .tuple "(<function _reconstructor>)"
  else misuse (.notPicklable k)

/-- What a record has beyond its kind. -/
def stateOf (v : Value) : Action Value :=
  read fun s =>
    match s.cell? v with
    | some (.record r) => .ok (.ref r.attributes)
    | _ => .ok .null

/-- An operation that every value has. -/
def general (v : Value) (name : String) (args : List Value) : Action Value := do
  match name, args with
  | "__repr__", _ | "__str__", _ => return .text (← read fun s => s.display v)
  | "__hash__", _ => return .int (← read fun s => s.hash v)
  | "__getattribute__", [w] =>
    let name ← attributeName w
    read fun s => s.lookup v name
  | "__delattr__", [w] => removeAttribute v (← attributeName w)
  | "__init__", _ | "__init_subclass__", _ => return .null
  | "__format__", [f] => plainFormat v f
  | "__reduce__", _ => pickled v
  | "__getstate__", _ => stateOf v
  | "__dir__", _ => do list ((← read fun s => .ok (s.memberNames v)).map .text)
  | "__sizeof__", _ => return .int (← kindOf v).size
  | _, _ => return .notImplemented

/-! ### Operations and members as values -/

/-- The operation that reads an attribute. -/
def attributeReading : Value := .shown .object "<built-in function getattr>"

/-- What would build an operation or a member again: reading it from its owner. -/
def readingAgain : Value → Action Value
  | .operation owner name => do tuple [attributeReading, ← tuple [owner, .text name]]
  | .method a _ name => do tuple [attributeReading, ← tuple [.ref a, .text name]]
  | .member k name => do tuple [attributeReading, ← tuple [.kind k, .text name]]
  | v => pickled v

/-- A member of a kind, or an operation of records, for a value. -/
def bound (member v : Value) : Action Value := do
  match member, v with
  | _, .null => misuse .nothingBound
  | .function k name, _ =>
    return .shown .object ("<bound method " ++ k.name ++ "." ++ name ++ " of " ++
      (← read fun s => s.display v) ++ ">")
  | .member k name, _ =>
    let given ← kindOf v
    if k ∉ given.lineage then misuse (.foreignOwner k name given)
    else
      match k.nature? name with
      | some .property | some .part => read fun s => .ok (s.property v name)
      | _ => return .operation v name
  | _, _ => return .notImplemented

/-- Taking a property or a part of a value away, which only operations of records allow. -/
def unbound (member v : Value) : Action Value := do
  match member with
  | .member k name =>
    let given ← kindOf v
    if k ∉ given.lineage then misuse (.foreignOwner k name given)
    else if k = .function then removeAttribute v name
    else if k.nature? name = some .property then throw (.fixedProperty k name)
    else throw .fixedPart
  | _ => return .notImplemented

/-! ### Kinds as values -/

/-- The kind that a value stands for among alternatives; nothing stands for its kind. -/
def alternative? : Value → Option Kind
  | .kind k => some k
  | .null => some .null
  | _ => none

/-- Two kinds as alternatives. -/
def alternatives (first second : Value) : Action Value := do
  match alternative? first, alternative? second with
  | some k, some l =>
    if k = l then return .kind k
    return .shown .object ((← argumentText first) ++ " | " ++ (← argumentText second))
  | _, _ => return .notImplemented

/-- An operation that every kind has. -/
def ofEveryKind (k : Kind) (name : String) (args : List Value) : Action Value := do
  match name, args with
  | "__repr__", _ => return .text (← read fun s => s.display (.kind k))
  | "mro", _ => list (k.lineage.map .kind)
  | "__subclasses__", _ => list []
  | "__prepare__", _ => make (.dict [])
  | "__instancecheck__", [v] => return .bool ((← kindOf v).lineage.contains k)
  | "__subclasscheck__", [.kind other] => return .bool (other.lineage.contains k)
  | "__subclasscheck__", _ => misuse .notClass
  | "__or__", [v] => alternatives (.kind k) v
  | "__ror__", [v] => alternatives v (.kind k)
  | _, _ => general (.kind k) name args

/-- An operation of a kind, as a value. -/
def ofKind (k : Kind) (name : String) (args : List Value) : Action Value :=
  match name, args with
  | "__new__", _ => bare k args
  | "__subclasshook__", _ => return .notImplemented
  | "__init_subclass__", _ => return .null
  | "from_bytes", [v] => fromBytes k v
  | "fromhex", [v] => fromHex v
  | "__getformat__", [v] => realFormat v
  | "maketrans", [v] => translationTable v
  | "fromkeys", [v] => fromKeys v
  | "__class_getitem__", [v] => parameterized k v
  | _, _ => ofEveryKind k name args

end Action

end Walkthrough
