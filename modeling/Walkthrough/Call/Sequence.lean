import Walkthrough.Arithmetic.Real
import Walkthrough.Call.Walk
import Walkthrough.Sorting

/-!
# Operations of lists, tuples and progressions

Sequences are searched, put together and repeated. A list can be changed as well: elements are
added, taken away, turned round and sorted. A list that cannot be sorted stays as far as sorting had
come.

## Main definitions

* `Store.whereIn` — where a value is found among others
* `Store.hash` — a value as a hash
* `Action.ofList`, `Action.ofTuple`, `Action.ofProgression` — the operations
-/

namespace Walkthrough

namespace Store

/-- The index of the first element that is the same as a value; `i` is that of the first one. -/
def whereIn (s : Store) (v : Value) (i : Nat) : List Value → Except Fault (Option Nat)
  | [] => .ok none
  | w :: rest => do if ← s.same w v then return some i else s.whereIn v (i + 1) rest

/-- How many elements are the same as a value. -/
def countIn (s : Store) (v : Value) : List Value → Except Fault Nat
  | [] => .ok 0
  | w :: rest => do
    let found ← s.same w v
    return (← s.countIn v rest) + found.toNat

/-- The integer that a term of a progression would be; a truth value is one too. -/
def termOf? : Value → Option Int
  | .int n => some n
  | .bool b => some b.toNat
  | _ => none

end Store

namespace Progression

/-- The index of an integer among the terms. -/
def indexOf? (r : Progression) (n : Int) : Option Nat :=
  let distance := n - r.start
  if distance % r.step = 0 then
    let i := distance / r.step
    if 0 ≤ i && i < r.length then some i.toNat else none
  else none

end Progression

/-! ### Hashes -/

/-- The modulus of words. -/
def wordModulus : Nat := 0x10000000000000000

/-- A hash as a word without a sign. -/
def wordOf (h : Int) : Nat := (h % wordModulus).toNat

/-- A word as a hash with a sign. -/
def hashOf (w : Nat) : Int := if w < 0x8000000000000000 then w else (w : Int) - wordModulus

/-- A word with its bits turned to the left. -/
def rotated (w : Nat) : Nat := w * 0x80000000 % wordModulus + w / 0x200000000

/-- The hash of a sequence by the hashes of its parts. -/
def sequenceHash (hashes : List Int) : Int :=
  let step (acc : Nat) (h : Int) : Nat :=
    rotated ((acc + wordOf h * 14029467366897019727) % wordModulus) * 11400714785074694791 %
      wordModulus
  let acc := hashes.foldl step 2870177450012600261
  let acc := (acc + (hashes.length ^^^ (2870177450012600261 ^^^ 3527539))) % wordModulus
  if acc = wordModulus - 1 then 1546275796 else hashOf acc

namespace Store

/-- A value as a hash, if it can be one, with a bound on how deep to go. Hashes that change from run
to run are taken for zero. -/
def hashWithin (s : Store) : Nat → Value → Except Fault Int
  | 0, _ => .ok 0
  | depth + 1, v =>
    match v with
    | .int n => .ok (Integer.hash n)
    | .bool b => .ok b.toNat
    | .real x _ => .ok ((Real.hash? x).getD 0)
    | .range r =>
      if r.length = 0 then .ok 0
      else
        let step := if r.length = 1 then 0 else Integer.hash r.step
        .ok (sequenceHash [Integer.hash r.length, Integer.hash r.start, step])
    | _ =>
      match s.cell? v with
      | some (.tuple items) => do return sequenceHash (← items.mapM (s.hashWithin depth))
      | some (.iterator _) | none => .ok 0
      | some c => .error (.notKey c.kind)

/-- A value as a hash. -/
def hash (s : Store) (v : Value) : Except Fault Int := s.hashWithin (s.size + 1) v

end Store

namespace Action

/-- A sequence of a kind with another one behind it. -/
def concatenated (k : Kind) (items : List Value) (v : Value) : Action (List Value) := do
  match k, ← read fun s => .ok (s.cell? v) with
  | .list, some (.list others) => return items ++ others
  | .tuple, some (.tuple others) => return items ++ others
  | _, _ => wrongKind v (.notConcatenable k)

/-- A sequence so many times. -/
def repeatedItems (items : List Value) (v : Value) : Action (List Value) := do
  let n ← repetitions v
  checkLength (items.length * n)
  return (List.replicate n items).flatten

/-- Where a value is found among others. -/
def whereIn (items : List Value) (v : Value) : Action (Option Nat) :=
  read fun s => s.whereIn v 0 items

/-- How a value is told as the argument of a kind: a kind by its name, any other value as a
literal. -/
def argumentText (v : Value) : Action String :=
  match v with
  | .kind k => return k.fullName
  | .function k name | .method _ k name =>
    return k.module ++ "." ++ k.name ++ "." ++ name
  | _ => read fun s => s.display v

/-- A kind with an argument, or with those of a tuple. -/
def parameterized (k : Kind) (v : Value) : Action Value := do
  let args ← match ← read fun s => .ok (s.cell? v) with
    | some (.tuple []) => pure ["()"]
    | some (.tuple items) => items.mapM argumentText
    | _ => pure [← argumentText v]
  return .shown .object (k.fullName ++ "[" ++ commaSeparated args ++ "]")

/-! ### Lists -/

/-- Takes the element at an index away from a list. -/
def removeAt (a : Addr) (items : List Value) (use : Indexing) (i : Int) : Action Value := do
  match position? items.length i with
  | some j =>
    write a (.list (items.eraseIdx j))
    return items.getD j .null
  | none => misuse (.noIndex .list use)

/-- Takes an element away from a list: the last one, or that at an index. -/
def pop (a : Addr) (items : List Value) (args : List Value) : Action Value := do
  let i ← match args with
    | [v] => word .index v
    | _ => pure (-1)
  if items.isEmpty then misuse .takingFromEmpty else removeAt a items .taking i

/-- Sorts a list. -/
def sort (a : Addr) (items : List Value) : Action Value := do
  match ← read fun s => .ok (Sorting.sort s.less items) with
  | .ok sorted =>
    write a (.list sorted)
    return .null
  | .error f =>
    update fun s => s.put a (.list (Sorting.leftBehind s.less items))
    throw f

/-- Whether a value walks a list and has not come to its end. -/
def walksOn (s : Store) (a : Addr) (v : Value) : Bool :=
  match s.cell? v, s.get? a with
  | some (.iterator (.overList source next)), some (.list items) => source = a ∧ next < items.length
  | _, _ => false

/-- Puts the elements of a value behind those of a list. A walk through this list would never come
to an end. -/
def extend (a : Addr) (v : Value) : Action Unit := do
  if ← read fun s => .ok (walksOn s a v) then misuse .outOfMemory
  else
    let others ← elements v
    update fun s =>
      match s.get? a with
      | some (.list items) => s.put a (.list (items ++ others))
      | _ => s

/-- Takes the first element that is the same as a value away from a list. -/
def remove (a : Addr) (items : List Value) (v : Value) : Action Value := do
  match ← whereIn items v with
  | some i =>
    write a (.list (items.eraseIdx i))
    return .null
  | none => misuse .notRemovable

/-- An operation of a list with one argument. -/
def ofListWith (a : Addr) (items : List Value) (name : String) (v : Value) : Action Value := do
  match name with
  | "__getitem__" => read fun s => s.item (.ref a) v
  | "__delitem__" =>
    let i ← read fun s => s.index .list v
    if fits .index i then
      let _ ← removeAt a items .writing i
      return .null
    else misuse .indexTooLarge
  | "__add__" => list (← concatenated .list items v)
  | "__mul__" | "__rmul__" => list (← repeatedItems items v)
  | "__imul__" =>
    write a (.list (← repeatedItems items v))
    return .ref a
  | "__iadd__" =>
    extend a v
    return .ref a
  | "__contains__" => return .bool (← whereIn items v).isSome
  | "__init__" =>
    write a (.list [])
    extend a v
    return .null
  | "append" =>
    write a (.list (items ++ [v]))
    return .null
  | "extend" =>
    extend a v
    return .null
  | "remove" => remove a items v
  | "index" =>
    match ← whereIn items v with
    | some i => return .int i
    | none => misuse (.absentValue .list (← read fun s => s.display v))
  | "count" => return .int (← read fun s => s.countIn v items)
  | _ => return .notImplemented

/-- An operation of a list. -/
def ofList (a : Addr) (items : List Value) (name : String) (args : List Value) : Action Value := do
  match name, args with
  | "__repr__", _ => return .text (← read fun s => s.display (.ref a))
  | "__len__", _ => return .int items.length
  | "__iter__", _ => built fun s => s.walk (.ref a)
  | "__reversed__", _ => return .shown .object "<list_reverseiterator object>"
  | "__sizeof__", _ => return .int (40 + 8 * items.length)
  | "__init__", [] | "clear", _ =>
    write a (.list [])
    return .null
  | "copy", _ => list items
  | "pop", _ => pop a items args
  | "reverse", _ =>
    write a (.list items.reverse)
    return .null
  | "sort", _ => sort a items
  | _, [v] => ofListWith a items name v
  | _, _ => return .notImplemented

/-! ### Tuples -/

/-- An operation of a tuple; `self` is the value that it is. -/
def ofTuple (self : Value) (items : List Value) (name : String) (args : List Value) :
    Action Value := do
  match name, args with
  | "__repr__", _ => return .text (← read fun s => s.display self)
  | "__hash__", _ => return .int (← read fun s => s.hash self)
  | "__len__", _ => return .int items.length
  | "__iter__", _ => built fun s => s.walk self
  | "__getnewargs__", _ => tuple [← tuple items]
  | "__getitem__", [v] => read fun s => s.item self v
  | "__add__", [v] => tuple (← concatenated .tuple items v)
  | "__mul__", [v] | "__rmul__", [v] => tuple (← repeatedItems items v)
  | "__contains__", [v] => return .bool (← whereIn items v).isSome
  | "index", [v] =>
    match ← whereIn items v with
    | some i => return .int i
    | none => misuse .absentFromTuple
  | "count", [v] => return .int (← read fun s => s.countIn v items)
  | _, _ => return .notImplemented

/-! ### Progressions -/

/-- Where a value is found in a progression. -/
def whereInProgression (r : Progression) (v : Value) : Action (Option Nat) :=
  match Store.termOf? v with
  | some n => return r.indexOf? n
  | none => whereIn (r.terms.map .int) v

/-- An operation of a progression. -/
def ofProgression (r : Progression) (name : String) (args : List Value) : Action Value := do
  match name, args with
  | "__repr__", _ => return .text (← read fun _ => r.display)
  | "__hash__", _ => return .int (← read fun s => s.hash (.range r))
  | "__bool__", _ => return .bool (r.length ≠ 0)
  | "__len__", _ =>
    if fits .index r.length then return .int r.length else misuse (.wordTooLarge .index)
  | "__iter__", _ => built fun s => s.walk (.range r)
  | "__reversed__", _ => return .shown .object "<range_iterator object>"
  | "__reduce__", _ =>
    tuple [.kind .range, ← tuple [.int r.start, .int r.stop, .int r.step]]
  | "__getitem__", [v] => read fun s => s.item (.range r) v
  | "__contains__", [v] => return .bool (← whereInProgression r v).isSome
  | "count", [v] => return .int (if (← whereInProgression r v).isSome then 1 else 0)
  | "index", [v] =>
    match ← whereInProgression r v with
    | some i => return .int i
    | none =>
      if (Store.termOf? v).isSome then
        misuse (.absentValue .range (← read fun s => s.display v))
      else misuse .absentFromSequence
  | _, _ => return .notImplemented

end Action

end Walkthrough
