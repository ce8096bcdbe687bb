import Walkthrough.Literal

/-!
# Identity

Two equal values need not be one object. Of some values there is only one, however often they are
made; any other literal makes a new object, and so does reading an operation of a value.

## Main definitions

* `Value.isSingular` — whether there is only one object for a value
* `Store.identical` — whether what two literals have built is one object
-/

namespace Walkthrough

/-- Whether there is only one object for a value, however often it is made: nothing, the truth
values, small integers, the shortest texts, and what belongs to a kind. -/
def Value.isSingular : Value → Bool
  | .null | .bool _ | .kind _ | .member _ _ | .function _ _ | .description _ => true
  | .int n => -5 ≤ n && n ≤ 256
  | .text t => t.length ≤ 1 && t.toList.all (·.toNat < 256)
  | _ => false

/-- Whether a literal makes a new object when it builds a value. A name stands for what is there,
unless an operation of it is asked for. -/
def Literal.makes (l : Literal) (v : Value) : Bool :=
  match l, v with
  | .named path, .operation _ _ | .named path, .method _ _ _ => '.' ∈ path.toList
  | .named _, _ => false
  | _, _ => true

namespace Store

/-- Whether a value is the empty tuple, of which there is only one. -/
def isEmptyTuple (s : Store) (v : Value) : Bool :=
  match s.cell? v with
  | some (.tuple []) => true
  | _ => false

/-- Whether the values that two literals have built are one object. -/
def identical (s : Store) (a b : Literal × Value) : Bool :=
  if s.isEmptyTuple a.2 then s.isEmptyTuple b.2
  else a.2 = b.2 && (a.2.isSingular || !a.1.makes a.2 && !b.1.makes b.2)

end Store

end Walkthrough
