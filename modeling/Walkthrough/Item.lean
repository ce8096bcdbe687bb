import Walkthrough.Literal

/-!
# Items

A text, a list, a tuple and a progression have items at indices, counted from the front or, with
negative indices, from the back. A dictionary has items by key.

## Main definitions

* `position?` — where an index points to
* `Store.entry?` — the value of a key of a dictionary
* `Store.item` — the item of a value
-/

namespace Walkthrough

/-- Where an index points to in a sequence of a length. -/
def position? (length : Nat) (i : Int) : Option Nat :=
  let j := if i < 0 then i + length else i
  if 0 ≤ j && j < length then some j.toNat else none

/-- The item of a sequence of a kind at an index. -/
def itemAt (k : Kind) (items : List Value) (i : Int) : Except Fault Value :=
  if !Progression.isWord i then .error (.misuse .indexTooLarge)
  else
    match (position? items.length i).bind (items[·]?) with
    | some v => .ok v
    | none => .error (.misuse (.noIndex k .reading))

namespace Store

/-- The integer that an index into a value of a kind is. -/
def index (s : Store) (k : Kind) : Value → Except Fault Int
  | .int n => .ok n
  | .bool b => .ok b.toNat
  | v => .error (.misuse (.badIndex k (s.kind v)))

/-- The value of a key among entries. -/
def entry? (s : Store) (entries : Table Value) (key : Value) : Except Fault (Option Value) := do
  s.checkKey key
  entryOf? s.same key entries

/-- The value of a key among entries, which must be there. -/
def entry (s : Store) (entries : Table Value) (key : Value) : Except Fault Value := do
  match ← s.entry? entries key with
  | some v => return v
  | none => throw (.unknownName key)

/-- The item of a value at an index, or of a key. -/
def item (s : Store) (v i : Value) : Except Fault Value :=
  match v with
  | .text t => do itemAt .text (t.toList.map fun c => .text c.toString) (← s.index .text i)
  | .range r => do
    match position? r.length (← s.index .range i) with
    | some j => return .int (r.term j)
    | none => throw (.misuse (.noIndex .range .reading))
  | _ =>
    match s.cell? v with
    | some (.list items) => do itemAt .list items (← s.index .list i)
    | some (.tuple items) => do itemAt .tuple items (← s.index .tuple i)
    | some (.dict entries) => s.entry entries i
    | _ => .error (.misuse (.notSubscriptable (s.kind v)))

end Store

example : position? 3 (-1) = some 2 ∧ position? 3 3 = none := by decide

end Walkthrough
