import Walkthrough.Decimal.Dyadic

/-!
# The shortest decimal that reads back

Many decimals read back as the same double: those in the interval between the midpoints to its two
neighbours, ends included when the mantissa is even. Of these the shortest is taken, and of several
as short the nearest to the double.

For one digit, two digits and so on the two multiples of the digit unit next to the double are
tried. If any decimal with that many digits lies in the interval, one of the two does, so the first
length that succeeds is the least one.

## Main definitions

* `Decimal.Interval` — the decimals that read back, over a common denominator
* `Decimal.Interval.closest?` — the best decimal with a given number of digits
* `Decimal.shortest` — the shortest decimal that reads back
-/

namespace Walkthrough.Decimal

/-- The positive double `value / den` with the ends of the interval of reals that round to it. -/
structure Interval where
  low : Nat
  value : Nat
  high : Nat
  den : Nat
  closed : Bool

/-- The interval around `m * 2 ^ q`. Below a power of two the neighbour is only half as far. -/
def Interval.around (m : Nat) (q : Int) : Interval :=
  let scale := twoPow (q - 2).toNat
  let gap := if m = twoPow 52 ∧ q ≠ leastExponent then 1 else 2
  { low := (4 * m - gap) * scale
    value := 4 * m * scale
    high := (4 * m + 2) * scale
    den := twoPow (2 - q).toNat
    closed := decide (m % 2 = 0) }

namespace Interval

/-- Whether the decimal `c * 10 ^ e` lies in the interval. -/
def contains (i : Interval) (c : Nat) (e : Int) : Bool :=
  let point := c * tenPow e.toNat * i.den
  let grow := tenPow (-e).toNat
  if i.closed then decide (i.low * grow ≤ point ∧ point ≤ i.high * grow)
  else decide (i.low * grow < point ∧ point < i.high * grow)

/-- The place of the decimal point: the `k` with `10 ^ (k - 1) ≤ value < 10 ^ k`. -/
def pointPlace (i : Interval) : Int :=
  if i.den ≤ i.value then ((Nat.toDigits 10 (i.value / i.den)).length : Int)
  else 1 - ((Nat.toDigits 10 (i.den / i.value)).length : Int)

/-- The decimal with `digits` digits in the interval that is nearest to the value, as a mantissa
and an exponent of ten. -/
def closest? (i : Interval) (digits : Nat) : Option (Nat × Int) :=
  let e := i.pointPlace - digits
  let unit := tenPow e.toNat * i.den
  let value := i.value * tenPow (-e).toNat
  let c := value / unit
  let rest := value % unit
  let below := i.contains c e
  let above := i.contains (c + 1) e
  if below ∧ (¬above ∨ 2 * rest < unit ∨ (2 * rest = unit ∧ c % 2 = 0)) then some (c, e)
  else if above then some (c + 1, e)
  else none

end Interval

/-- The shortest decimal that reads back as `m * 2 ^ q`, as a mantissa and an exponent of ten.
Seventeen digits are always enough. -/
def shortest (m : Nat) (q : Int) : Nat × Int :=
  let i := Interval.around m q
  ((List.range' 1 17).findSome? i.closest?).getD (0, 0)

example : shortest 1 (-1074) = (5, -324) := by decide +kernel
example : shortest 7205759403792794 (-56) = (1, -1) := by decide +kernel

end Walkthrough.Decimal
