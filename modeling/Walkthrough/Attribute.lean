import Walkthrough.Display
import Walkthrough.Manual

/-!
# Attributes of values

Records have attributes that can be read and written by name. A person also has an operation that
composes its full name, which an attribute of the same name hides. All attributes of a record can be
read together, as the dictionary that they are, and another dictionary can take its place; so can
another kind of record take the place of its kind.

Other values have the members that their kinds declare, which can be read and not replaced. A kind
is a value too, and has the members that it declares, as values, and those that every kind has.

## Main definitions

* `Store.lookup`, `Store.assign` — reading and writing an attribute
* `Store.remove` — taking an attribute away
-/

namespace Walkthrough

/-- The name of the operation that composes a full name. -/
def fullNameAttribute : String := "get_full_name"

/-- What a kind of record is for. -/
def Kind.purpose : Kind → String
  | .person => "A named person with an age."
  | .settings => "Inputs to a demo run. Defaults reproduce the original literals."
  | .step => "Metadata about a demo step."
  | _ => ""

/-- What composing a full name is for. -/
def fullNamePurpose : String :=
  "First and last name joined by a single space.\n\n        " ++
    "Read from the fields on every call, so it always reflects\n        " ++
    "their current values.\n        "

/-- How records of every kind are made, shown and compared. -/
def recordRules : String :=
  "_DataclassParams(init=True,repr=True,eq=True,order=False,unsafe_hash=False,frozen=False)"

/-- A text that may be missing, as a value. -/
def Value.ofText? : Option String → Value
  | some t => .text t
  | none => .null

namespace Kind

/-- What the manual says about a kind, if it says anything. -/
def manualText (k : Kind) : Value := .ofText? (k.manual?.bind (·.text?))

/-- The value that a kind holds under a name. -/
def constant (k : Kind) (name : String) : Value :=
  match k.isRecord, name with
  | false, "__module__" => .text "dataclasses"
  | false, "__slots__" => .description .ruleNames
  | false, "__doc__" => k.manualText
  | true, "__doc__" => .text k.purpose
  | true, "__module__" => .text k.module
  | true, "__annotations__" => .description (.fieldKinds k)
  | true, "__match_args__" => .description (.fields k)
  | true, "__dataclass_params__" => .shown .rules recordRules
  | true, "__dataclass_fields__" => .description (.fieldEntries k)
  | _, _ => (k.fieldDefault? name).getD .null

/-- What the manual says about a member that a kind declares. -/
def memberText (k : Kind) (name : String) : Value :=
  .ofText? ((k.memberManual? name).bind (·.text?))

/-- How the arguments of a member that a kind declares are written. -/
def memberSignature (k : Kind) (name : String) : Value :=
  .ofText? ((k.memberManual? name).bind (·.signature))

/-- The size of what all values of a kind hold alike, in bytes. -/
def fixedSize : Kind → Nat
  | .object | .null => 16
  | .int | .real | .tuple | .members | .person | .settings | .step => 24
  | .bool | .listIterator | .tupleIterator | .textIterator | .asciiIterator | .wrapper => 32
  | .list => 40
  | .dict | .range | .rangeIterator | .longRangeIterator | .method | .propertyMember
  | .partMember => 48
  | .keyIterator | .builtin | .methodMember | .wrapperMember => 56
  | .rules => 64
  | .text => 80
  | .function => 136
  | .code => 184
  | .type => 904

/-- The size of each part of which values of a kind hold more or fewer, in bytes. -/
def partSize : Kind → Nat
  | .code => 2
  | .int | .bool => 4
  | .tuple => 8
  | .type => 40
  | _ => 0

/-- What values of a kind can do, as the sum of powers of two. -/
def abilities : Kind → Nat
  | .rangeIterator | .longRangeIterator => 4480
  | .listIterator | .tupleIterator | .textIterator | .asciiIterator | .wrapper => 20864
  | .methodMember => 153984
  | .null | .code => 528640
  | .range => 528672
  | .object => 529664
  | .members => 545088
  | .keyIterator | .propertyMember | .partMember => 545152
  | .rules => 546304
  | .person | .settings | .step => 546320
  | .method => 547072
  | .builtin => 547200
  | .wrapperMember => 676224
  | .function => 678144
  | .real => 4199680
  | .bool => 21500160
  | .int => 21501184
  | .list => 38294816
  | .tuple => 71849248
  | .text => 273159424
  | .dict => 541611328
  | .type => 2148031744

/-- Where values of a kind note who refers to them, and `0` if they do not. -/
def referenceOffset : Kind → Int
  | .person | .settings | .step => 16
  | .method => 32
  | .builtin => 40
  | .function => 96
  | .code => 144
  | .type => 368
  | _ => 0

/-- Where values of a kind keep their attributes, and `0` if they have none. -/
def attributeOffset : Kind → Int
  | .person | .settings | .step => -48
  | .function => 88
  | .type => 264
  | _ => 0

/-- A property that every kind, as a value, has, unless this one lacks it. -/
def property? (k : Kind) (name : String) : Option Value :=
  match name with
  | "__name__" | "__qualname__" => some (.text k.name)
  | "__module__" => some (.text k.module)
  | "__mro__" => some (.description (.lineage k))
  | "__bases__" => some (.description (.parents k))
  | "__base__" => some (((k.lineage.drop 1).head?.map Value.kind).getD .null)
  | "__doc__" =>
    some (if (k.nature? name) = some .property then .member k name else k.constant name)
  | "__text_signature__" => some (.ofText? (k.manual?.bind (·.signature)))
  | "__annotations__" => if k.isRecord then some (.description (.fieldKinds k)) else none
  | "__dict__" => some (.shown .members "mappingproxy")
  | "__class__" => some (.kind .type)
  | "__basicsize__" => some (.int k.fixedSize)
  | "__itemsize__" => some (.int k.partSize)
  | "__flags__" => some (.int k.abilities)
  | "__weakrefoffset__" => some (.int k.referenceOffset)
  | "__dictoffset__" => some (.int k.attributeOffset)
  | _ => none

/-- An attribute of a kind, as a value. -/
def attribute? (k : Kind) (name : String) : Option Value :=
  match Kind.type.find? name with
  | some (_, .property) | some (_, .part) => k.property? name
  | general =>
    match k.find? name with
    | some (_, .ofKind) => some (.operation (.kind k) name)
    | some (declarer, .ofDeclarer) => some (.operation (.kind declarer) name)
    | some (declarer, .constant) => some (declarer.constant name)
    | some (declarer, .function) => some (.function declarer name)
    | some (declarer, _) => some (.member declarer name)
    | none => general.map fun _ => .operation (.kind k) name

/-- The kind of what a property of an operation of records can be set to, and whether nothing can
stand in its place. -/
def functionContent? : String → Option (Kind × Bool)
  | "__defaults__" => some (.tuple, true)
  | "__kwdefaults__" | "__annotations__" => some (.dict, true)
  | "__dict__" => some (.dict, false)
  | "__code__" => some (.code, false)
  | "__name__" | "__qualname__" => some (.text, false)
  | _ => none

/-- A property of an operation of records of a kind, as it is at the beginning. The dictionaries
that an operation looks names up in are only shown; a program keeps when one of them is reached. -/
def functionProperty (k : Kind) (operation name : String) : Value :=
  match name with
  | "__name__" => .text operation
  | "__qualname__" => .text (k.name ++ "." ++ operation)
  | "__module__" => .text k.module
  | "__doc__" => if operation = fullNameAttribute then .text fullNamePurpose else .null
  | "__annotations__" => .description (.parameterKinds k operation)
  | "__dict__" => .description .nothing
  | "__code__" => .shown .code "<code object>"
  | "__globals__" | "__builtins__" => .shown .dict "\x7b...\x7d"
  | "__defaults__" =>
    if k = .settings ∧ operation = "__init__" then .description (.defaults k operation) else .null
  | _ => .null

end Kind

namespace Store

/-- The kind that declares an operation of a value. -/
def declarer (s : Store) (owner : Value) (name : String) : Kind :=
  match owner with
  | .kind k =>
    match k.find? name with
    | some (declarer, .ofKind) | some (declarer, .ofDeclarer) => declarer
    | _ => ((Kind.type.find? name).map (·.1)).getD .type
  | v => (((s.kind v).find? name).map (·.1)).getD (s.kind v)

/-- A property of an operation of a value. A plain operation goes by the kind of its value, one that
stands for a sign or a notion by the kind that declares it. -/
def operationProperty (s : Store) (owner : Value) (operation name : String) : Value :=
  let declarer := s.declarer owner operation
  let isSpecial := s.kind (.operation owner operation) = .wrapper
  match name with
  | "__self__" => owner
  | "__name__" => .text operation
  | "__qualname__" =>
    let k := match owner with
      | .kind k => if isSpecial then declarer else k
      | _ => if isSpecial then declarer else s.kind owner
    .text (k.name ++ "." ++ operation)
  | "__objclass__" => .kind declarer
  | "__doc__" => declarer.memberText operation
  | "__text_signature__" => declarer.memberSignature operation
  | _ => .null

/-- A property or a part of a value. -/
def property (s : Store) (v : Value) (name : String) : Value :=
  match v, name with
  | _, "__class__" => .kind (s.kind v)
  | .bool b, "real" | .bool b, "numerator" => .int b.toNat
  | .int n, "real" | .int n, "numerator" => .int n
  | .bool _, "imag" | .int _, "imag" => .int 0
  | .bool _, "denominator" | .int _, "denominator" => .int 1
  | .real x mark, "real" => .real x mark
  | .real _ mark, "imag" => .real 0 mark
  | .range r, "start" => .int r.start
  | .range r, "stop" => .int r.stop
  | .range r, "step" => .int r.step
  | .operation owner operation, _ => s.operationProperty owner operation name
  | .method a _ _, "__self__" => .ref a
  | .method _ k operation, "__func__" => .function k operation
  | .method _ k operation, _ => k.functionProperty operation name
  | .function k operation, _ => k.functionProperty operation name
  | .shown .rules _, _ => .bool (name ∈ ["init", "repr", "eq"])
  | .member k _, "__objclass__" => .kind k
  | .member _ member, "__name__" => .text member
  | .member k member, "__qualname__" => .text (k.name ++ "." ++ member)
  | .member k member, "__doc__" => k.memberText member
  | .member k member, "__text_signature__" => k.memberSignature member
  | _, _ => .null

/-- The member that a value has by its kind, if it has one of the name. -/
def member? (s : Store) (v : Value) (name : String) : Option Value :=
  let k := s.kind v
  match k.find? name with
  | none => none
  | some (_, .property) | some (_, .part) => some (s.property v name)
  | some (declarer, .constant) => some (declarer.constant name)
  | some (_, .ofKind) => some (.operation (.kind k) name)
  | some (declarer, .ofDeclarer) => some (.operation (.kind declarer) name)
  | some (_, .method) | some (_, .special) | some (_, .function) => some (.operation v name)

/-- The attribute of the record at an address: its kind, the dictionary of its attributes, one of
these, or a member of its kind. -/
def recordAttribute? (s : Store) (a : Addr) (r : Record) (name : String) : Option Value :=
  match name with
  | "__class__" => some (.kind r.kind)
  | "__dict__" => some (.ref r.attributes)
  | "__weakref__" => some .null
  | _ =>
    (s.attribute? r name).or <|
      match r.kind.find? name with
      | some (declarer, .function) => some (.method a declarer name)
      | _ => s.member? (.ref a) name

/-- The attribute of a value, if it has one of the name. What an operation of a record lacks, the
function behind it may have. -/
def lookup? (s : Store) (v : Value) (name : String) : Option Value :=
  match v with
  | .kind k => k.attribute? name
  | .method _ k operation =>
    (s.member? v name).or (s.member? (.function k operation) name)
  | .ref a =>
    match s.get? a with
    | some (.record r) => s.recordAttribute? a r name
    | _ => s.member? v name
  | _ => s.member? v name

/-- The attribute of a value. -/
def lookup (s : Store) (v : Value) (name : String) : Except Fault Value :=
  match s.lookup? v name with
  | some w => .ok w
  | none =>
    match v with
    | .kind k => .error (.noKindAttribute k name)
    | .method _ _ _ => .error (.noAttribute .function name)
    | _ => .error (.noAttribute (s.kind v) name)

/-- Why an attribute of a value that is no record cannot be set. -/
def assignmentFault (s : Store) (v : Value) (name : String) (w : Value) : Fault :=
  let k := s.kind v
  match v with
  | .kind immutable => .fixedKind immutable name
  | _ =>
    if name = "__class__" then
      match w with
      | .kind _ => .fixedClass
      | _ => .notKind (s.kind w)
    else
      match k.find? name with
      | some (declarer, .property) => .fixedProperty declarer name
      | some (_, .part) => .fixedPart
      | some _ => .readOnlyAttribute k name
      | none => .noAttribute k name

/-- The record that a record becomes when an attribute is set, and the store. The kind can be
replaced by one of records, and the attributes by another dictionary. -/
def assignRecord (s : Store) (r : Record) (name : String) (w : Value) :
    Except Fault (Record × Store) :=
  match name with
  | "__class__" =>
    match w with
    | .kind k => if k.isRecord then .ok ({ r with kind := k }, s) else .error .fixedClass
    | _ => .error (.notKind (s.kind w))
  | "__dict__" =>
    match w, s.cell? w with
    | .ref b, some (.dict _) => .ok ({ r with attributes := b }, s)
    | _, some (.dict entries) =>
      .ok ({ r with attributes := s.size }, (s.alloc (.dict entries)).2)
    | _, _ => .error (.notDictionary (s.kind w))
  | "__weakref__" => .error (.fixedProperty r.kind name)
  | _ => .ok (r, s.putAttribute r name w)

/-- Checks whether an attribute of an operation of records can be set to a value. -/
def checkFunctionAttribute (s : Store) (v : Value) (name : String) (w : Value) :
    Except Fault Unit :=
  match Kind.functionContent? name with
  | some (k, optional) =>
    if s.kind w = k ∨ optional ∧ w = .null then .ok ()
    else if name = "__dict__" then .error (.notDictionary (s.kind w))
    else .error (.misuse (.wrongProperty name k))
  | none =>
    if name ∈ ["__class__", "__closure__", "__globals__", "__builtins__"] then
      .error (s.assignmentFault v name w)
    else .ok ()

/-- Sets an attribute of a value. What is set of a kind of records, or of an operation of them, is
not in the store: it is the program that keeps it. -/
def assign (s : Store) (v : Value) (name : String) (w : Value) : Except Fault Store :=
  match v with
  | .ref a =>
    match s.get? a with
    | some (.record r) => do
      let (r, s) ← s.assignRecord r name w
      return s.put a (.record r)
    | _ => .error (s.assignmentFault v name w)
  | .kind k => if k.isRecord then .ok s else .error (s.assignmentFault v name w)
  | .function _ _ =>
    match s.checkFunctionAttribute v name w with
    | .ok () => .ok s
    | .error f => .error f
  | _ => .error (s.assignmentFault v name w)

/-- Checks whether an attribute of an operation of records can be taken away. -/
def checkFunctionRemoval (s : Store) (v : Value) (name : String) : Except Fault Unit :=
  match Kind.functionContent? name with
  | some (k, optional) => if optional then .ok () else .error (.misuse (.wrongProperty name k))
  | none =>
    if name ∈ ["__doc__", "__module__"] then .ok ()
    else if name ∈ ["__closure__", "__globals__", "__builtins__"] then .error .fixedPart
    else .error (.noAttribute (s.kind v) name)

/-- Takes an attribute of a value away. A record keeps its kind; without its dictionary it gets a
new one. An operation of records keeps what it has in the store. -/
def remove (s : Store) (v : Value) (name : String) : Except Fault Store :=
  if name = "__class__" then .error (.misuse .classNotRemovable)
  else
    match v with
    | .ref a =>
      match s.get? a with
      | some (.record r) =>
        if name = "__dict__" then
          .ok ((s.alloc (.dict [])).2.put a (.record { r with attributes := s.size }))
        else if name = "__weakref__" then .error (.fixedProperty r.kind name)
        else if (s.attribute? r name).isSome then
          .ok (s.put r.attributes (.dict ((s.attributesAt r.attributes).erase (.text name))))
        else .error (.noAttribute r.kind name)
      | _ => .error (s.assignmentFault v name .null)
    | .function _ _ =>
      match s.checkFunctionRemoval v name with
      | .ok () => .ok s
      | .error f => .error f
    | _ => .error (s.assignmentFault v name .null)

end Store

end Walkthrough
