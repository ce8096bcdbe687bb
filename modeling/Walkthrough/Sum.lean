import Walkthrough.Number
import Walkthrough.Store

/-!
# Sums

The elements of a value are added from left to right, starting from zero; the first element that
cannot be added ends the sum. Walking a list, a tuple, a text, a dictionary or a progression
leaves it as it was. An iterator moves on past every element that was read, the one that could not
be added included, and is finished once it has given its last element. An iterator over the keys of
a dictionary gives nothing once the dictionary has got more or fewer keys.

How many keys there are is all that is looked at. If as many keys have been added to a dictionary as
have been taken away, then a walk that has begun goes on by position, although it could as well be
broken off: dictionaries in general leave this open. The histories through which an iterator is
followed later only add elements, and to lists.

## Main definitions

* `Store.elements` — the elements that a value gives
* `Store.sumFrom` — a running total and the elements still to add
* `Store.readCount` — how many elements are read before the sum ends
* `Store.sum` — the sum of the elements of a value
-/

namespace Walkthrough

/-- The elements that an iterator still has to give. -/
def Iterator.ahead (s : Store) : Iterator → Except Fault (List Value)
  | .overList source next =>
    match s.get? source with
    | some (.list items) => .ok (items.drop next)
    | _ => .ok []
  | .overKeys source size next =>
    match s.get? source with
    | some (.dict entries) =>
      if entries.length = size then .ok ((entries.map (·.1)).drop next)
      else .error .changedWhileWalked
    | _ => .ok []
  | .overRange r next _ => .ok ((r.drop next).terms.map .int)
  | .overItems items next _ => .ok (items.drop next)
  | .broken => .error .changedWhileWalked
  | .finished _ => .ok []

/-- The iterator after giving `read` elements and, if `ranOff`, being asked for one more in vain. A
walk through a progression stays at its end. -/
def Iterator.advance (it : Iterator) (read : Nat) (ranOff : Bool) : Iterator :=
  match it with
  | .overRange r next kind => .overRange r (next + read) kind
  | _ =>
    if ranOff then .finished it.kind
    else
      match it with
      | .overList source next => .overList source (next + read)
      | .overKeys source size next => .overKeys source size (next + read)
      | .overItems items next kind => .overItems items (next + read) kind
      | _ => it

namespace Store

/-- The elements that a value gives: a text its characters, a dictionary its keys. -/
def elements (s : Store) (v : Value) : Except Fault (List Value) :=
  match v with
  | .text t => .ok (t.toList.map fun c => .text c.toString)
  | .range r => .ok (r.terms.map .int)
  | _ =>
    match s.cell? v with
    | some (.list items) => .ok items
    | some (.tuple items) => .ok items
    | some (.dict entries) => .ok (entries.map (·.1))
    | some (.iterator it) => it.ahead s
    | _ => .error (.notIterable (s.kind v))

/-- A total with one more element. -/
def addElement (s : Store) (total : Number) (v : Value) : Except Fault Number :=
  match v.number? with
  | some n => total.add n
  | none => .error (.notAddable total.kind (s.kind v))

/-- Adds elements to a running total from left to right. -/
def sumFrom (s : Store) (total : Number) : List Value → Except Fault Number
  | [] => .ok total
  | v :: rest =>
    match s.addElement total v with
    | .ok total => s.sumFrom total rest
    | .error f => .error f

/-- How many elements are read until the sum ends. -/
def readCount (s : Store) (total : Number) : List Value → Nat
  | [] => 0
  | v :: rest =>
    match s.addElement total v with
    | .ok total => s.readCount total rest + 1
    | .error _ => 1

/-- Moves an iterator on; any other value stays as it is. -/
def moveOn (s : Store) (v : Value) (read : Nat) (ranOff : Bool) : Store :=
  match v, s.cell? v with
  | .ref a, some (.iterator it) => s.put a (.iterator (it.advance read ranOff))
  | _, _ => s

/-- Leaves an iterator that has failed without anything to give; any other value stays as it is. -/
def breakOff (s : Store) (v : Value) : Store :=
  match v, s.cell? v with
  | .ref a, some (.iterator _) => s.put a (.iterator .broken)
  | _, _ => s

/-- The sum of the elements of a value. -/
def sum (s : Store) (v : Value) : Except Fault Number × Store :=
  match s.elements v with
  | .error f => (.error f, s.breakOff v)
  | .ok items =>
    let total := s.sumFrom (.int 0) items
    (total, s.moveOn v (s.readCount (.int 0) items) total.isOk)

end Store

end Walkthrough
