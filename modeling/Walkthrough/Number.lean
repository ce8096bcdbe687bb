import Walkthrough.Decimal.Dyadic
import Walkthrough.Fault

/-!
# Numbers

Integers of any size and doubles, mixed freely. Truth values count as one and zero. Integers are
added exactly; as soon as a double takes part, both summands are doubles, which an integer beyond
the doubles cannot be. Comparison is exact whatever the operands are.

## Main definitions

* `Number`, `Value.number?` — a number, and the number that a value is
* `Number.add` — addition
* `Number.compare?` — comparison, undefined where something is not a number
-/

namespace Walkthrough

/-- An integer or a double. -/
inductive Number
  | int (n : Int)
  | real (x : Float)
deriving DecidableEq

/-- The number that a value is. -/
def Value.number? : Value → Option Number
  | .bool b => some (.int b.toNat)
  | .int n => some (.int n)
  | .real x _ => some (.real x)
  | _ => none

namespace Number

def kind : Number → Kind
  | int _ => .int
  | real _ => .real

/-- The double nearest to a number. -/
def toFloat : Number → Except Fault Float
  | int n =>
    match Decimal.ofInt? n with
    | some x => .ok x
    | none => .error .beyondDoubles
  | real x => .ok x

/-- The sum of two numbers. -/
def add : Number → Number → Except Fault Number
  | int m, int n => .ok (int (m + n))
  | a, b => do return real ((← a.toFloat) + (← b.toFloat))

/-- Compares an integer with a double by value. -/
def compareWithReal? (n : Int) (x : Float) : Option Ordering :=
  match Decimal.Dyadic.ofFloat x with
  | .nan => none
  | .infinite negative => some (if negative then .gt else .lt)
  | .finite negative m q =>
    let numerator : Int := (if negative then -(m : Int) else m) * Decimal.twoPow q.toNat
    some (compare (n * Decimal.twoPow (-q).toNat) numerator)

/-- Compares two numbers by value; what is not a number compares with nothing. -/
def compare? : Number → Number → Option Ordering
  | int m, int n => some (compare m n)
  | int m, real y => compareWithReal? m y
  | real x, int n => (compareWithReal? n x).map Ordering.swap
  | real x, real y =>
    if x < y then some .lt else if x == y then some .eq else if y < x then some .gt else none

/-- Whether two numbers are equal by value. -/
def equals (a b : Number) : Bool := a.compare? b == some .eq

/-- Whether the first number is smaller by value. -/
def less (a b : Number) : Bool := a.compare? b == some .lt

@[simp]
theorem add_int (m n : Int) : add (int m) (int n) = .ok (int (m + n)) := rfl

@[simp]
theorem equals_int (m n : Int) : equals (int m) (int n) = decide (m = n) := by
  simp only [equals, compare?]
  rw [Bool.eq_iff_iff]
  simp

@[simp]
theorem less_int (m n : Int) : less (int m) (int n) = decide (m < n) := by
  simp only [less, compare?]
  rw [Bool.eq_iff_iff]
  simp [Int.compare_eq_lt]

end Number

end Walkthrough
