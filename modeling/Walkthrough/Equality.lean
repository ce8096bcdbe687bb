import Walkthrough.Display
import Walkthrough.Number

/-!
# Equality of values

Numbers are equal by value, texts by their characters, progressions by their terms. Two lists, two
tuples, two dictionaries or two records of one kind are equal when their parts are; values of
different kinds are not. Parts are the same when they are identical or equal, so something that is
not a number makes no list differ from itself.

Objects that hold each other too deep, or without end, cannot be compared. A collection goes one
level down to its parts and a record three, and there are only so many levels.

## Main definitions

* `Store.equal` — equality
* `Store.same` — equality of parts
* `Store.truthy` — whether a value counts as true
-/

namespace Walkthrough

/-- Whether two lists have the same parts, from left to right. -/
def partsEqual (same : Value → Value → Except Fault Bool) :
    List Value → List Value → Except Fault Bool
  | [], [] => .ok true
  | v :: vs, w :: ws => do if ← same v w then partsEqual same vs ws else return false
  | _, _ => .ok false

/-- The value of a key in a list of entries. -/
def entryOf? (same : Value → Value → Except Fault Bool) (key : Value) :
    List (Value × Value) → Except Fault (Option Value)
  | [] => .ok none
  | (k, v) :: rest => do if ← same k key then return some v else entryOf? same key rest

/-- Whether every entry of the first list is one of the second. -/
def entriesWithin (same : Value → Value → Except Fault Bool) (inside : List (Value × Value)) :
    List (Value × Value) → Except Fault Bool
  | [] => .ok true
  | (k, v) :: rest => do
    match ← entryOf? same k inside with
    | none => return false
    | some w => if ← same v w then entriesWithin same inside rest else return false

namespace Store

/-- The fields of a record, all of which it must have. -/
def fields (s : Store) (r : Record) : Except Fault (List Value) :=
  r.kind.fieldNames.mapM (s.field r)

/-- Whether two objects are equal, given when parts of collections, and parts of records, are the
same. The fields of both records are read before any of them are compared. -/
def equalObjects (s : Store) (same sameFields : Value → Value → Except Fault Bool) :
    Cell → Cell → Except Fault Bool
  | .list vs, .list ws => if vs.length = ws.length then partsEqual same vs ws else .ok false
  | .tuple vs, .tuple ws => partsEqual same vs ws
  | .dict es, .dict fs => if es.length = fs.length then entriesWithin same fs es else .ok false
  | .record q, .record r =>
    if q.kind = r.kind then do
      let vs ← s.fields q
      partsEqual sameFields vs (← s.fields r)
    else .ok false
  | _, _ => .ok false

/-- Equality, with the levels that are left. -/
def equalWithin (s : Store) : Nat → Value → Value → Except Fault Bool
  | 0, _, _ => .error (.tooDeep .comparing)
  | level + 1, v, w =>
    let same (v w : Value) : Except Fault Bool :=
      if v = w then .ok true else s.equalWithin level v w
    let sameFields (v w : Value) : Except Fault Bool :=
      match level with
      | 0 => .error (.tooDeep .unfolding)
      | 1 => .error (.tooDeep .comparing)
      | level + 2 => if v = w then .ok true else s.equalWithin level v w
    match v.number?, w.number? with
    | some m, some n => .ok (m.equals n)
    | _, _ =>
      match v, w with
      | .range r, .range t => .ok (r.sameTerms t)
      | _, _ =>
        match s.cell? v, s.cell? w with
        | some c, some d => if v = w && !c.kind.isRecord then .ok true
          else s.equalObjects same sameFields c d
        | _, _ => .ok (v = w)

/-- Whether two values are equal. Comparing is no call, and has all the levels that are left. -/
def equal (s : Store) (v w : Value) (levels : Nat := callLevels) : Except Fault Bool :=
  s.equalWithin levels v w

/-- Whether two parts are the same: identical, or equal. -/
def same (s : Store) (v w : Value) : Except Fault Bool :=
  if v = w then .ok true else s.equal v w

/-- Whether a value counts as true: nothing, zero and what is empty do not. -/
def truthy (s : Store) : Value → Bool
  | .null => false
  | .bool b => b
  | .int n => n ≠ 0
  | .real x _ => !(x == 0)
  | .text t => t ≠ ""
  | .range r => r.length ≠ 0
  | v =>
    match s.cell? v with
    | some (.list items) => !items.isEmpty
    | some (.tuple items) => !items.isEmpty
    | some (.dict entries) => !entries.isEmpty
    | _ => true

@[simp]
theorem equal_text (s : Store) (t u : String) :
    s.equal (.text t) (.text u) = .ok (decide (t = u)) := by
  by_cases h : t = u <;> simp [equal, callLevels, equalWithin, Value.number?, cell?, h]

@[simp]
theorem equal_int (s : Store) (m n : Int) :
    s.equal (.int m) (.int n) = .ok (decide (m = n)) := by
  simp [equal, callLevels, equalWithin, Value.number?]

end Store

end Walkthrough
