import Walkthrough.Item
import Walkthrough.Order
import Walkthrough.Sum

/-!
# Actions

Carrying out an operation reads and changes the store, and may fail. A failed operation leaves the
store as far as it had come.

## Main definitions

* `Action` — what may be done
* `Action.read`, `Action.make`, `Action.write` — reading the store, making an object, replacing one
* `Action.integer`, `Action.word` — the integer that an argument is
* `Action.elements`, `Action.forElements` — the elements of a value, which an iterator gives once
-/

namespace Walkthrough

/-- What may be done with the store. -/
abbrev Action := ExceptT Fault (StateM Store)

/-- What an operation answers that does not know its argument. -/
def Value.notImplemented : Value := .shown .object "NotImplemented"

namespace Action

variable {α : Type}

/-- Reads from the store. -/
def read (f : Store → Except Fault α) : Action α := ExceptT.mk fun s => (f s, s)

/-- Changes the store. -/
def update (f : Store → Store) : Action Unit := ExceptT.mk fun s => (.ok (), f s)

/-- Replaces an object. -/
def write (a : Addr) (c : Cell) : Action Unit := update (·.put a c)

/-- Makes an object. -/
def make (c : Cell) : Action Value := ExceptT.mk fun s => (.ok (s.alloc c).1, (s.alloc c).2)

/-- Makes a tuple. -/
def tuple (items : List Value) : Action Value := make (.tuple items)

/-- Makes a list. -/
def list (items : List Value) : Action Value := make (.list items)

/-- Gives a real number the next serial number. -/
def real (x : Float) : Action Value :=
  ExceptT.mk fun s => (.ok (.real x s.marks), { s with marks := s.marks + 1 })

/-- Builds something; if that fails the store stays. -/
def built (b : Building α) : Action α :=
  ExceptT.mk fun s =>
    match b s with
    | .ok (a, s) => (.ok a, s)
    | .error f => (.error f, s)

/-- Fails because an operation is misused. -/
def misuse (m : Misuse) : Action α := throw (.misuse m)

/-- The kind of a value. -/
def kindOf (v : Value) : Action Kind := read fun s => .ok (s.kind v)

/-- Fails because an argument is of a kind that is not right. -/
def wrongKind (v : Value) (m : Kind → Misuse) : Action α := do misuse (m (← kindOf v))

/-- The integer that an argument is. -/
def integer (v : Value) : Action Int := read fun s => s.integer v

/-- Whether an integer fits a word. -/
def fits (w : Word) (n : Int) : Bool :=
  if w = .int then -0x80000000 ≤ n && n ≤ 0x7FFFFFFF else Progression.isWord n

/-- The integer that an argument is, which must fit a word. -/
def word (w : Word) (v : Value) : Action Int := do
  let n ← integer v
  if fits w n then return n else misuse (.wordTooLarge w)

/-- The number of repetitions that an argument is. -/
def repetitions (v : Value) : Action Nat := do
  let n ← integer v
  if Progression.isWord n then return n.toNat else misuse .countTooLarge

/-- How long a text or a list may become. -/
def lengthLimit : Nat := 0x200000000

/-- Fails if something would become too long. -/
def checkLength (length : Nat) : Action Unit :=
  if length ≤ lengthLimit then pure () else misuse .outOfMemory

/-- How many elements a progression has, or an iterator over one still has to give. -/
def termCount (s : Store) (v : Value) : Nat :=
  match v, s.cell? v with
  | .range r, _ => r.length
  | _, some (.iterator (.overRange r next _)) => r.length - next
  | _, _ => 0

/-- The elements of a value, all at once. An iterator gives them up. -/
def elements (v : Value) : Action (List Value) := do
  let count ← read fun s => .ok (termCount s v)
  if fits .index count then checkLength count else misuse (.wordTooLarge .index)
  ExceptT.mk fun s =>
    match s.elements v with
    | .error f => (.error f, s.breakOff v)
    | .ok items => (.ok items, s.moveOn v items.length true)

/-- How many terms of a progression are taken one by one. -/
def termLimit : Nat := 0x100000

/-- The elements of a value that are taken one by one. -/
def firstElements (s : Store) (v : Value) : Except Fault (List Value) :=
  match v, s.cell? v with
  | .range r, _ => .ok ((List.range (min r.length termLimit)).map fun i => .int (r.term i))
  | _, some (.iterator (.overRange r next _)) =>
    .ok ((List.range (min (r.length - next) termLimit)).map fun i => .int (r.term (next + i)))
  | _, _ => s.elements v

/-- Does something with each of some elements; `index` is that of the first. A fault tells at which
of them it came. -/
def each (f : Nat → Value → Action Unit) (index : Nat) :
    List Value → Action (Option (Nat × Fault))
  | [] => pure none
  | v :: rest => ExceptT.mk fun s =>
    match f index v s with
    | (.ok _, s) => each f (index + 1) rest s
    | (.error e, s) => (.ok (some (index, e)), s)

/-- Does something with each element of a value, one after the other. An iterator gives up those
that were taken. -/
def forElements (v : Value) (f : Nat → Value → Action Unit) : Action Unit := do
  let items ← ExceptT.mk fun s =>
    match firstElements s v with
    | .error e => (.error e, s.breakOff v)
    | .ok items => (.ok items, s)
  match ← each f 0 items with
  | none => update (·.moveOn v items.length true)
  | some (index, e) =>
    update (·.moveOn v (index + 1) false)
    throw e

end Action

end Walkthrough
