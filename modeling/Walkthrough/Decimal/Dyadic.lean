/-!
# Doubles as exact numbers

A finite double is `± m * 2 ^ q` with natural `m` and integral `q`. This file takes a double apart
into that form and goes back from a quotient of naturals to the nearest double, a half going to the
even neighbour.

## Main definitions

* `Decimal.Dyadic` — a double taken apart
* `Decimal.roundDiv` — a quotient rounded to the nearest natural
* `Decimal.nearestBits` — the bits of the double nearest to a quotient
* `Decimal.nearest` — that double, with a sign
-/

namespace Walkthrough.Decimal

/-- A double taken apart: a finite one is `m * 2 ^ q`, negated if `negative`. -/
inductive Dyadic
  | nan
  | infinite (negative : Bool)
  | finite (negative : Bool) (m : Nat) (q : Int)
deriving DecidableEq, Repr

/-- A power of two. -/
def twoPow (n : Nat) : Nat := Nat.pow 2 n

/-- A power of ten. -/
def tenPow (n : Nat) : Nat := Nat.pow 10 n

/-- The least exponent of a finite double. -/
def leastExponent : Int := -1074

/-- The bits of positive infinity, which are one more than those of the greatest finite double. -/
def infinityBits : Nat := 0x7FF * twoPow 52

/-- Takes a double apart. -/
def Dyadic.ofFloat (x : Float) : Dyadic :=
  let bits := x.toBits.toNat
  let negative := decide (twoPow 63 ≤ bits)
  let field : Nat := bits / twoPow 52 % twoPow 11
  let fraction : Nat := bits % twoPow 52
  if field = 0x7FF then
    if fraction = 0 then .infinite negative else .nan
  else if field = 0 then .finite negative fraction leastExponent
  else .finite negative (twoPow 52 + fraction) (leastExponent + ((field : Int) - 1))

/-- The natural number nearest to `num / den`; a half goes to the even neighbour. -/
def roundDiv (num den : Nat) : Nat :=
  let low := num / den
  let rest := num % den
  if 2 * rest < den ∨ (2 * rest = den ∧ low % 2 = 0) then low else low + 1

/-- The quotient `num / den` divided by `2 ^ q`, as a quotient. -/
def scaleDown (num den : Nat) (q : Int) : Nat × Nat :=
  if 0 ≤ q then (num, den * twoPow q.toNat) else (num * twoPow (-q).toNat, den)

/-- The exponent that a double near `num / den` has: the one that leaves a 53-bit integer part, but
never below the least. -/
def exponentFor (num den : Nat) : Int :=
  let q : Int := num.log2 - den.log2 - 52
  let scaled := scaleDown num den q
  max leastExponent (if twoPow 52 ≤ scaled.1 / scaled.2 then q else q - 1)

/-- The bits of the nonnegative double nearest to `num / den`. Consecutive doubles have consecutive
bits, so a mantissa rounded up to `2 ^ 53` carries into the exponent by itself. -/
def nearestBits (num den : Nat) : Nat :=
  if num = 0 then 0
  else
    let q := exponentFor num den
    let scaled := scaleDown num den q
    min infinityBits ((q - leastExponent).toNat * twoPow 52 + roundDiv scaled.1 scaled.2)

/-- The double nearest to `num / den`, negated if `negative`. -/
def nearest (negative : Bool) (num den : Nat) : Float :=
  Float.ofBits (UInt64.ofNat ((if negative then twoPow 63 else 0) + nearestBits num den))

/-- The double nearest to an integer, or nothing if that is beyond the finite ones. -/
def ofInt? (n : Int) : Option Float :=
  if nearestBits n.natAbs 1 < infinityBits then some (nearest (decide (n < 0)) n.natAbs 1) else none

example : roundDiv 5 2 = 2 ∧ roundDiv 7 2 = 4 ∧ roundDiv 8 3 = 3 := by decide
example : nearestBits 1 1 = 0x3FF0000000000000 := by decide
example : nearestBits (twoPow 53 + 1) 1 = nearestBits (twoPow 53) 1 := by decide

end Walkthrough.Decimal
