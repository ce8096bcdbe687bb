import Walkthrough.Call.Action

/-!
# Comparisons as operations

A comparison that is asked of a value is carried out by its kind, which knows with what it can be
compared, and answers that it does not know otherwise. Values that know nothing are equal to
themselves alone.

## Main definitions

* `Relation.ofName?` — the relation that an operation stands for
* `Store.comparison` — a comparison that a kind carries out
-/

namespace Walkthrough

/-- The relation that an operation stands for. -/
def Relation.ofName? : String → Option Relation
  | "__lt__" => some .less
  | "__le__" => some .lessOrEqual
  | "__gt__" => some .greater
  | "__ge__" => some .greaterOrEqual
  | _ => none

/-- The operations that compare. -/
def comparisonNames : List String := ["__lt__", "__le__", "__eq__", "__ne__", "__gt__", "__ge__"]

/-- Whether values of a kind can be compared with those of another by the former kind. -/
def Kind.comparesWith (k other : Kind) : Bool :=
  match k with
  | .int => other ∈ [.int, .bool]
  | .real => other ∈ [.int, .bool, .real]
  | _ => k = other

/-- Whether values of a kind are in an order. -/
def Kind.isOrdered (k : Kind) : Bool := k ∈ [.int, .real, .text, .list, .tuple]

namespace Store

/-- A comparison that a kind other than the most general one carries out. -/
def comparisonBy (s : Store) (k : Kind) (name : String) (v w : Value) : Except Fault Value :=
  if !k.comparesWith (s.kind w) then .ok .notImplemented
  else
    match Relation.ofName? name with
    | some r => if k.isOrdered then (s.relate r v w).map .bool else .ok .notImplemented
    | none => (s.equal v w).map fun b => .bool (if name = "__ne__" then !b else b)

/-- A comparison of values that know nothing but themselves. Records differ when they are known not
to be equal. -/
def comparisonByIdentity (s : Store) (name : String) (v w : Value) : Except Fault Value :=
  match name with
  | "__eq__" => .ok (if v = w then .bool true else .notImplemented)
  | "__ne__" =>
    if (s.kind v).isRecord then
      if s.kind v = s.kind w then (s.equal v w).map fun b => .bool !b else .ok .notImplemented
    else .ok (if v = w then .bool false else .notImplemented)
  | _ => .ok .notImplemented

/-- A comparison that a kind carries out. -/
def comparison (s : Store) (declarer : Kind) (name : String) (v w : Value) : Except Fault Value :=
  if declarer = .object then s.comparisonByIdentity name v w
  else s.comparisonBy declarer name v w

end Store

end Walkthrough
