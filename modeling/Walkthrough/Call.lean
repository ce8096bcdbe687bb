import Walkthrough.Call.General

/-!
# Calls

An operation is carried out on its owner with arguments, after their number has been checked. An
operation of records takes its record as the first argument, and so does a member of a kind that is
asked for as a value. A kind makes one of its values.

## Main definitions

* `Action.perform` — an operation that a kind declares, on a value
* `Action.call` — carrying out any value that can be
* `Store.fullName` — the full name of a person
-/

namespace Walkthrough

namespace Action

/-- An operation, other than a comparison, that a kind declares, on a value of it. -/
def performPlain (declarer : Kind) (v : Value) (name : String) (args : List Value) :
    Action Value := do
  match declarer, v, ← read fun s => .ok (s.cell? v) with
  | .null, _, _ => return if name = "__bool__" then .bool false else .text "None"
  | .bool, .bool b, _ => ofTruth b name args
  | .int, .bool b, _ => ofInteger v b.toNat name args
  | .int, .int n, _ => ofInteger v n name args
  | .real, .real x _, _ => ofReal v x name args
  | .text, .text t, _ => ofText t name args
  | .range, .range r, _ => ofProgression r name args
  | .list, .ref a, some (.list items) => ofList a items name args
  | .tuple, _, some (.tuple items) => ofTuple v items name args
  | .dict, .ref a, some (.dict entries) => ofDictionary a entries name args
  | .dict, _, some (.dict entries) => ofDictionary (← dictionary entries) entries name args
  | .type, .kind k, _ => ofEveryKind k name args
  | .object, _, _ => general v name args
  | _, .ref a, some (.iterator it) => ofIterator a it name args
  | _, _, _ =>
    match name, args with
    | "__reduce__", _ => readingAgain v
    | "__get__", w :: _ => bound v w
    | "__delete__", w :: _ => unbound v w
    | _, _ => general v name args

/-- What would build a value again, as its kind tells it. -/
def rebuilt (v version : Value) : Action Value := do
  let _ ← word .int version
  match (← kindOf v).find? "__reduce__" with
  | some (declarer, _) => performPlain declarer v "__reduce__" []
  | none => pickled v

/-- An operation that a kind declares, on a value of it. -/
def perform (declarer : Kind) (v : Value) (name : String) (args : List Value) : Action Value :=
  match args with
  | [w] =>
    if name ∈ comparisonNames then read fun s => s.comparison declarer name v w
    else if name ∈ ["__getattribute__", "__delattr__"] then general v name args
    else if name = "__reduce_ex__" then rebuilt v w
    else performPlain declarer v name args
  | _ => performPlain declarer v name args

/-- Checks the number of arguments of an operation that a kind declares, told with the kind that it
is asked of. -/
def checkArity (declarer asked : Kind) (name : String) (given : Nat) : Action Unit :=
  let arity := declarer.arity name
  if arity.accepts given then pure () else misuse (.wrongArity asked name arity given)

/-- The kind that an operation of a value is told with. -/
def askedKind (owner : Value) : Action Kind :=
  match owner with
  | .kind k => pure k
  | _ => kindOf owner

/-- Carries out an operation of a value. -/
def operate (owner : Value) (name : String) (args : List Value) : Action Value := do
  let declarer ← read fun s => .ok (s.declarer owner name)
  checkArity declarer (← askedKind owner) name args.length
  match owner with
  | .kind k => ofKind k name args
  | _ => perform declarer owner name args

/-- Carries out a member of a kind on its first argument. -/
def operateMember (k : Kind) (name : String) : List Value → Action Value
  | [] => misuse (.noOwner k name)
  | v :: args => do
    let given ← kindOf v
    if k ∉ given.lineage then
      misuse (if k.nature? name = some .special then .foreignOperand k name given
        else .foreignOwner k name given)
    else
      checkArity k k name args.length
      perform k v name args

/-- Carries out a value that can be. The first number bounds how often an operation carries out
another, the second one is that of the levels that are left. -/
def callWithin : Nat → Nat → Value → List Value → Action Value
  | 0, _, _, _ => throw (.tooDeep .unfolding)
  | fuel + 1, levels, callee, args =>
    match callee with
    | .method a k name => ofRecord k name (.ref a :: args) levels
    | .function k name => ofRecord k name args levels
    | .kind k => construct k args
    | .operation owner "__call__" => callWithin fuel (levels - 1) owner args
    | .operation owner name => operate owner name args
    | .member k "__call__" => do
      match args with
      | [] => misuse (.noOwner k "__call__")
      | v :: args =>
        let given ← kindOf v
        if k ∈ given.lineage then callWithin fuel (levels - 1) v args
        else misuse (.foreignOperand k "__call__" given)
    | .member k name => do
      if k.nature? name ∈ [some .property, some .part] then
        throw (.notCallable (← kindOf callee))
      else operateMember k name args
    | _ => do throw (.notCallable (← kindOf callee))

/-- Carries out a value that can be, with the levels that are left where it is called. -/
def call (callee : Value) (args : List Value) (levels : Nat := callLevels) : Action Value :=
  callWithin 1000 levels callee args

end Action

namespace Store

/-- Carries out an operation with arguments, and gives the store that it has left. -/
def call (s : Store) (operation : Value) (args : List Value) (levels : Nat := callLevels) :
    Except Fault Value × Store :=
  (Action.call operation args levels).run s

/-- The full name of a person, and the store that finding it has left. -/
def fullName (s : Store) (v : Value) (levels : Nat := callLevels) : Except Fault Value × Store :=
  match s.lookup v fullNameAttribute with
  | .error f => (.error f, s)
  | .ok operation => s.call operation [] levels

end Store

end Walkthrough
