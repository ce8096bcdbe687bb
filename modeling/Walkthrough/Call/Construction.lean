import Walkthrough.Call.Dictionary
import Walkthrough.Call.Number
import Walkthrough.Call.Record

/-!
# Making values

A kind that is asked for as an operation makes one of its values, from nothing or from another
value. Some kinds have values that are only made by other operations.

## Main definitions

* `Action.construct` — making a value of a kind
* `Action.bare` — making a value of a kind from nothing, as another kind asks
-/

namespace Walkthrough.Action

/-- The integer that a value stands for. -/
def integerFrom (v : Value) : Action Value := do
  match v with
  | .text t =>
    match Integer.read? t with
    | some n => return .int n
    | none =>
      let cs := Text.trim t.toList
      let digits := match cs with
        | '-' :: rest | '+' :: rest => Integer.digitRun? rest
        | _ => Integer.digitRun? cs
      match digits with
      | some ds => throw (.numeralTooLong ds.length)
      | none => throw (.notNumber t)
  | _ =>
    match v.number? with
    | some (.int n) => return .int n
    | some (.real x) => return .int (← finite x .integer (Real.truncate? x))
    | none => wrongKind v (.notMadeFrom .int)

/-- The double that a value stands for. -/
def realFrom (v : Value) : Action Value := do
  match v with
  | .text t =>
    match Decimal.read? t with
    | some x => real x
    | none => throw (.notNumeral t)
  | .real _ _ => return v
  | _ =>
    match v.number? with
    | some n => real (← read fun _ => n.toFloat)
    | none => wrongKind v (.notMadeFrom .real)

/-- Makes a value of a kind from nothing. -/
def fromNothing (k : Kind) : Action Value :=
  match k with
  | .object => return .shown .object "<object object>"
  | .null => return .null
  | .bool => return .bool false
  | .int => return .int 0
  | .real => real 0
  | .text => return .text ""
  | .list => list []
  | .tuple => tuple []
  | .dict => make (.dict [])
  | .range => throw (.progressionArity 0)
  | .type => misuse .kindOfNothing
  | .person | .settings | .step => newRecord k []
  | .method => misuse (.wrongArity .method "method" (.named 2 2) 0)
  | .function => misuse (.wrongArity .function "function" (.required "code" 1) 0)
  | _ => misuse (.notMade k)

/-- Makes a value of a kind from another value. -/
def fromValue (k : Kind) (v : Value) : Action Value := do
  match k with
  | .object | .null => misuse (.madeFromNothing k)
  | .bool => return .bool (← read fun s => .ok (s.truthy v))
  | .int => integerFrom v
  | .real => realFrom v
  | .text => return .text (← read fun s => s.sentence v)
  | .list => list (← elements v)
  | .tuple =>
    if (← kindOf v) = .tuple then return v else tuple (← elements v)
  | .dict =>
    let a ← dictionary []
    mergeFrom a v
    return .ref a
  | .range => return .range (← read fun s => s.progression [v])
  | .type => return .kind (← kindOf v)
  | .person | .settings | .step => newRecord k [v]
  | .method => misuse (.wrongArity .method "method" (.named 2 2) 1)
  | .function => misuse (.wrongArity .function "function" (.required "globals" 2) 1)
  | _ => misuse (.notMade k)

/-- Makes a value of a kind. -/
def construct (k : Kind) (args : List Value) : Action Value :=
  match args with
  | [] => fromNothing k
  | v :: _ => fromValue k v

/-- Makes a value of a kind that is an argument, by the kind that declares how; the kind must be one
whose values it makes. -/
def bare (declarer : Kind) (args : List Value) : Action Value :=
  match args with
  | [] => misuse (.newWithoutKind declarer)
  | .kind k :: _ =>
    if declarer ∉ k.lineage then misuse (.newOfOther declarer k)
    else if declarer = .object then
      if k.isRecord then bareRecord k
      else if k = .object then fromNothing .object
      else misuse (.newElsewhere declarer k)
    else if k ≠ declarer then misuse (.newElsewhere declarer k)
    else fromNothing k
  | v :: _ => wrongKind v (.newOfValue declarer)

end Walkthrough.Action
