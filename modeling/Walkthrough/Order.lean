import Walkthrough.Equality

/-!
# Order of values

Numbers are ordered by value and texts by code points. Lists, and tuples, are ordered by the first
part in which they differ, a list before its own extensions. Nothing else is ordered.

## Main definitions

* `Store.relate` — whether a relation holds between two values
* `Store.less` — whether one value comes before another
-/

namespace Walkthrough

/-- Whether a relation holds between two numbers. -/
def Number.relate (m : Number) (r : Relation) (n : Number) : Bool :=
  r.holds (m.less n) (m.equals n) (n.less m)

/-- Whether a relation holds between two lists: it is that of the first parts that differ, or that
of the lengths. -/
def partsRelate (r : Relation) (same relate : Value → Value → Except Fault Bool) :
    List Value → List Value → Except Fault Bool
  | [], [] => .ok (r.holds false true false)
  | _ :: _, [] => .ok (r.holds false false true)
  | [], _ :: _ => .ok (r.holds true false false)
  | v :: vs, w :: ws => do if ← same v w then partsRelate r same relate vs ws else relate v w

namespace Store

/-- Whether a relation holds, with the levels that are left. -/
def relateWithin (s : Store) (r : Relation) : Nat → Value → Value → Except Fault Bool
  | 0, _, _ => .error (.tooDeep .comparing)
  | level + 1, v, w =>
    let same (v w : Value) : Except Fault Bool :=
      if v = w then .ok true else s.equalWithin level v w
    match v.number?, w.number? with
    | some m, some n => .ok (m.relate r n)
    | _, _ =>
      match v, w with
      | .text t, .text u => .ok (r.holds (t < u) (t = u) (u < t))
      | _, _ =>
        match s.cell? v, s.cell? w with
        | some (.list vs), some (.list ws) => partsRelate r same (s.relateWithin r level) vs ws
        | some (.tuple vs), some (.tuple ws) => partsRelate r same (s.relateWithin r level) vs ws
        | _, _ => .error (.notComparable r (s.kind v) (s.kind w))

/-- Whether a relation holds between two values. Comparing is no call, and has all the levels that are
left. -/
def relate (s : Store) (r : Relation) (v w : Value) (levels : Nat := callLevels) :
    Except Fault Bool :=
  s.relateWithin r levels v w

/-- Whether one value comes before another. -/
def less (s : Store) (v w : Value) : Except Fault Bool := s.relate .less v w

theorem less_of_number {v w : Value} {m n : Number} (s : Store) (hv : v.number? = some m)
    (hw : w.number? = some n) : s.less v w = .ok (m.less n) := by
  simp [less, relate, callLevels, relateWithin, hv, hw, Number.relate, Relation.holds]

@[simp]
theorem less_text (s : Store) (t u : String) :
    s.less (.text t) (.text u) = .ok (decide (t < u)) := by
  simp [less, relate, callLevels, relateWithin, Value.number?, Relation.holds]

end Store

end Walkthrough
