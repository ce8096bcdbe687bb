import Walkthrough.Call.Action

/-!
# Operations of iterators

An iterator is asked for its next element, for how many are left, and for what would build it again;
and it can be set to another position.

## Main definitions

* `Iterator.current` — the element that comes next
* `Iterator.left` — how many elements are left
* `Action.next`, `Action.restart`, `Action.rebuilding` — the operations
-/

namespace Walkthrough

namespace Iterator

/-- The element that comes next, if there is one. -/
def current (s : Store) : Iterator → Except Fault (Option Value)
  | .overRange r next _ => .ok (if next < r.length then some (.int (r.term next)) else none)
  | it => (it.ahead s).map List.head?

/-- How many elements are left, as far as it can be told. -/
def left (s : Store) : Iterator → Nat
  | .overRange r next _ => r.length - next
  | it =>
    match it.ahead s with
    | .ok items => items.length
    | .error _ => 0

/-- An iterator set to a position, which is kept within what it walks. -/
def setTo (s : Store) (position : Nat) : Iterator → Iterator
  | .overList source _ =>
    let length := match s.get? source with
      | some (.list items) => items.length
      | _ => 0
    .overList source (min position length)
  | .overRange r _ kind => .overRange r (min position r.length) kind
  | .overItems items _ kind => .overItems items (min position items.length) kind
  | it => it

end Iterator

namespace Action

/-- The next element of the iterator at an address. -/
def next (a : Addr) (it : Iterator) : Action Value :=
  ExceptT.mk fun s =>
    match it.current s with
    | .error f => (.error f, s.breakOff (.ref a))
    | .ok none => (.error (.misuse .exhausted), s.moveOn (.ref a) 0 true)
    | .ok (some v) => (.ok v, s.moveOn (.ref a) 1 false)

/-- The position that an iterator is to be set to. -/
def positionFor (it : Iterator) (v : Value) : Action Int :=
  match it.kind with
  | .rangeIterator => word .long v
  | .longRangeIterator => do
    if ← read fun s => s.relate .less v (.int 0) then return 0
    else
      match v.number? with
      | some (.int n) => return n
      | _ => return 0
  | _ => do
    match v.number? with
    | some (.int n) => if fits .index n then return n else misuse (.wordTooLarge .index)
    | _ => misuse .stateNotInteger

/-- Sets an iterator to a position. -/
def restart (a : Addr) (it : Iterator) (v : Value) : Action Value := do
  let position ← positionFor it v
  update fun s => s.put a (.iterator (it.setTo s position.toNat))
  return .null

/-- The operation that begins a walk. -/
def beginning : Value := .shown .object "<built-in function iter>"

/-- The text that characters make. -/
def textOf (items : List Value) : Value :=
  .text (String.join (items.map fun v => match v with
    | .text t => t
    | _ => ""))

/-- What an iterator walks, from the beginning. -/
def source : Iterator → Action Value
  | .overList a _ => return .ref a
  | .overRange r _ _ => do
    return .range { r with stop := r.term r.length }
  | .overItems items _ .tupleIterator => tuple items
  | .overItems items _ _ => return textOf items
  | .finished .tupleIterator => tuple []
  | .finished .textIterator | .finished .asciiIterator => return .text ""
  | _ => list []

/-- What would build an iterator again. Keys are told one by one. -/
def rebuilding (it : Iterator) : Action Value := do
  match it with
  | .overList _ next | .overRange _ next _ =>
    tuple [beginning, ← tuple [← source it], .int next]
  | .overItems items next kind =>
    if kind = .keyIterator then tuple [beginning, ← tuple [← list (items.drop next)]]
    else tuple [beginning, ← tuple [← source it], .int next]
  | .overKeys _ _ _ | .broken =>
    let keys ← read it.ahead
    tuple [beginning, ← tuple [← list keys]]
  | .finished _ => tuple [beginning, ← tuple [← source it]]

/-- An operation of the iterator at an address. -/
def ofIterator (a : Addr) (it : Iterator) (name : String) (args : List Value) : Action Value :=
  match name, args with
  | "__next__", _ => next a it
  | "__length_hint__", _ => read fun s => .ok (.int (it.left s))
  | "__setstate__", [v] => restart a it v
  | "__reduce__", _ => rebuilding it
  | _, _ => return .ref a

end Action

end Walkthrough
