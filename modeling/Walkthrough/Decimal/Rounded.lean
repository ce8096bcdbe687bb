import Walkthrough.Decimal.Numeral

/-!
# Doubles with a given number of digits

A double is written exactly to a number of decimal places, or to a number of significant digits; a
half goes to the even digit. It stands positionally, with an exponent, or in whichever of the two
ways is the shorter one to read.

## Main definitions

* `Decimal.Layout` — the ways of writing
* `Decimal.renderRounded` — the text of a nonnegative double with a number of digits
-/

namespace Walkthrough.Decimal

/-- The ways of writing a double with a number of digits. -/
inductive Layout
  /-- So many digits after the point. -/
  | fixed
  /-- One digit before the point, so many after it, and an exponent. -/
  | scientific
  /-- So many digits altogether, positionally unless the exponent is large or small. -/
  | general
deriving DecidableEq, Repr

/-- The place of the decimal point of a positive quotient: the `k` with
`10 ^ (k - 1) ≤ num / den < 10 ^ k`. -/
def pointPlaceOf (num den : Nat) : Int :=
  if den ≤ num then ((Nat.toDigits 10 (num / den)).length : Int)
  else
    let digits := (Nat.toDigits 10 (den / num)).length
    if num * tenPow (digits - 1) = den then 2 - (digits : Int) else 1 - (digits : Int)

/-- The significant digits of a quotient, so many of them, and the place of the point. -/
def significantDigits (num den digits : Nat) : List Char × Int :=
  if num = 0 then (List.replicate digits '0', 1)
  else
    let place := pointPlaceOf num den
    let e := place - digits
    let c := roundDiv (num * tenPow (-e).toNat) (den * tenPow e.toNat)
    if c = tenPow digits then (Nat.toDigits 10 (tenPow (digits - 1)), place + 1)
    else (Nat.toDigits 10 c, place)

/-- Digits with a point after the first `place` of them, and `after` places behind it. The point
stays without places behind it only if it is `kept`. -/
def pointed (digits : List Char) (place : Int) (after : Nat) (kept : Bool) : List Char :=
  let padded := List.replicate (-place).toNat '0' ++ digits
  let whole := if place ≤ 0 then ['0'] else
    digits.take place.toNat ++ List.replicate (place.toNat - digits.length) '0'
  let rest := if place ≤ 0 then padded else digits.drop place.toNat
  whole ++ (if after = 0 && !kept then [] else
    '.' :: (rest.take after ++ List.replicate (after - rest.length) '0'))

/-- The mantissa of a number with an exponent. -/
def mantissa (digits : List Char) (kept : Bool) : List Char :=
  digits.take 1 ++ (if digits.length ≤ 1 && !kept then [] else '.' :: digits.drop 1)

/-- An exponent of at least two digits, after its mark. -/
def markedExponent (e : Int) : List Char := 'e' :: plainStyle.exponent e

/-- A quotient in a layout, with `precision` digits. With `kept`, the point and the zeros at the
end stay; with `dotted`, a general layout without an exponent has a digit behind the point. -/
def renderQuotient (l : Layout) (precision : Nat) (kept dotted : Bool) (num den : Nat) :
    List Char :=
  match l with
  | .fixed =>
    let c := Nat.toDigits 10 (roundDiv (num * tenPow precision) den)
    pointed c ((c.length : Int) - precision) precision kept
  | .scientific =>
    let (digits, place) := significantDigits num den (precision + 1)
    mantissa digits kept ++ markedExponent (place - 1)
  | .general =>
    let precision := max precision 1
    let (digits, place) := significantDigits num den precision
    let shown := if kept then digits else
      (digits.take 1) ++ Text.dropTrailing (· == '0') (digits.drop 1)
    if place ≤ -4 || (precision - (if dotted then 1 else 0) : Int) < place then
      mantissa shown kept ++ markedExponent (place - 1)
    else
      let after := if kept then (digits.length - place).toNat else (shown.length - place).toNat
      let written := pointed shown place after kept
      if dotted && '.' ∉ written then written ++ ['.', '0'] else written

/-- The text of the absolute value of a double in a layout. No number and infinity are words. -/
def renderRounded (l : Layout) (precision : Nat) (kept dotted : Bool) (x : Float) : List Char :=
  match Dyadic.ofFloat x with
  | .nan => "nan".toList
  | .infinite _ => "inf".toList
  | .finite _ m q =>
    renderQuotient l precision kept dotted (m * twoPow q.toNat) (twoPow (-q).toNat)

example : renderQuotient .fixed 2 false false 5 2 = "2.50".toList := by decide
example : renderQuotient .scientific 3 false false 1234567 1 = "1.235e+06".toList := by decide
example : renderQuotient .general 6 false false 25 10 = "2.5".toList := by decide +kernel
example : renderQuotient .fixed 0 false false 5 2 = "2".toList := by decide

end Walkthrough.Decimal
