import Walkthrough.Arithmetic.Integer
import Walkthrough.Decimal.Numeral
import Walkthrough.Number

/-!
# Arithmetic of doubles

Division with a remainder that has the sign of the divisor, powers, rounding to decimal places, and
the exact values of doubles as quotients and in hexadecimal.

## Main definitions

* `Real.remainder`, `Real.divide` — the remainder of a division, and its quotient
* `Real.power?` — a power that is a real number
* `Real.truncate?`, `Real.floor?`, `Real.ceiling?`, `Real.round?` — integers near a double
* `Real.roundTo?` — the nearest decimal with so many places
* `Real.ratio?` — a double as a quotient of integers in lowest terms
* `Real.hash?` — a double as a hash
-/

namespace Walkthrough.Real

open Decimal

/-- Something that is not a number. -/
def nan : Float := Float.ofBits 0x7FF8000000000000

/-- A zero with the sign of a double. -/
def zeroLike (x : Float) : Float := nearest (decide (twoPow 63 ≤ x.toBits.toNat)) 0 1

/-- The remainder of a division that is cut off, exactly; it has the sign of the dividend. -/
def cutRemainder (x y : Float) : Float :=
  match Dyadic.ofFloat x, Dyadic.ofFloat y with
  | .finite negative m q, .finite _ n r =>
    if n = 0 then nan
    else
      let e := min q r
      let rest := (m * twoPow (q - e).toNat) % (n * twoPow (r - e).toNat)
      nearest negative (rest * twoPow e.toNat) (twoPow (-e).toNat)
  | .finite _ _ _, .infinite _ => x
  | _, _ => nan

/-- The remainder of a division, with the sign of the divisor. -/
def remainder (x y : Float) : Float :=
  let rest := cutRemainder x y
  if rest == 0 then zeroLike y
  else if (y < 0) != (rest < 0) then rest + y
  else rest

/-- The quotient of a division without what is left, and what is left. -/
def divide (x y : Float) : Float × Float :=
  let rest := cutRemainder x y
  let adjusted := !(rest == 0) && (y < 0) != (rest < 0)
  let quotient := (x - rest) / y - (if adjusted then 1 else 0)
  let whole :=
    if quotient == 0 then zeroLike (x / y)
    else if 0.5 < quotient - quotient.floor then quotient.floor + 1
    else quotient.floor
  (whole, remainder x y)

/-- Whether a double is an odd integer. -/
def isOdd (x : Float) : Bool := (cutRemainder x 2).abs == 1

/-- Why a power is not a double. -/
inductive PowerFault
  /-- Zero was raised to a negative power. -/
  | zero
  | tooLarge
  /-- The power is not a real number. -/
  | imaginary
deriving DecidableEq, Repr

/-- A power with an infinite exponent. -/
def infinitePower (x y : Float) : Float :=
  if x.abs == 1 then 1 else if (0 < y) == (1 < x.abs) then y.abs else 0

/-- A power of infinity. -/
def powerOfInfinity (x y : Float) : Float :=
  if 0 < y then (if isOdd y then x else x.abs) else (if isOdd y then zeroLike x else 0)

/-- A power. -/
def power? (x y : Float) : Except PowerFault Float :=
  if y == 0 then .ok 1
  else if x.isNaN then .ok x
  else if y.isNaN then .ok (if x == 1 then 1 else y)
  else if y.isInf then .ok (infinitePower x y)
  else if x.isInf then .ok (powerOfInfinity x y)
  else if x == 0 then
    if y < 0 then .error .zero else .ok (if isOdd y then x else 0)
  else if x < 0 && y != y.floor then .error .imaginary
  else
    let magnitude := if x.abs == 1 then 1 else Float.pow x.abs y
    if magnitude.isInf then .error .tooLarge
    else .ok (if x < 0 && isOdd y then -magnitude else magnitude)

/-- The real and the imaginary part of a power of a negative number. -/
def imaginaryPower (x y : Float) : Float × Float :=
  let length := Float.pow x.abs y
  let phase := Float.atan2 0 x * y
  (length * phase.cos, length * phase.sin)

/-- The whole part of a finite double. -/
def truncate? (x : Float) : Option Int :=
  match Dyadic.ofFloat x with
  | .finite negative m q =>
    let magnitude : Int := (m * twoPow q.toNat / twoPow (-q).toNat : Nat)
    some (if negative then -magnitude else magnitude)
  | _ => none

/-- The greatest integer that is not greater than a finite double. -/
def floor? (x : Float) : Option Int := truncate? x.floor

/-- The least integer that is not less than a finite double. -/
def ceiling? (x : Float) : Option Int := truncate? x.ceil

/-- The integer nearest to a finite double; a half goes to the even one. -/
def round? (x : Float) : Option Int :=
  match Dyadic.ofFloat x with
  | .finite negative m q =>
    let magnitude : Int := roundDiv (m * twoPow q.toNat) (twoPow (-q).toNat)
    some (if negative then -magnitude else magnitude)
  | _ => none

/-- The double nearest to the decimal with so many places that is nearest to a double; a half goes
to the even one. A negative number of places stands for tens. There is none if it is too large. -/
def roundTo? (x : Float) (places : Int) : Option Float :=
  match Dyadic.ofFloat x with
  | .finite negative m q =>
    if m = 0 || 323 < places then some x
    else if places < -308 then some (zeroLike x)
    else
      let num := m * twoPow q.toNat * tenPow places.toNat
      let den := twoPow (-q).toNat * tenPow (-places).toNat
      let y := scaled negative (roundDiv num den) (-places)
      if y.isInf then none else some y
  | _ => some x

/-- Whether a double is an integer. -/
def isWhole (x : Float) : Bool := x.isFinite && x.floor == x

/-- A finite double as a quotient of integers in lowest terms. -/
def ratio? (x : Float) : Option (Int × Nat) :=
  match Dyadic.ofFloat x with
  | .finite negative m q =>
    let num := m * twoPow q.toNat
    let den := twoPow (-q).toNat
    let divisor := num.gcd den
    let magnitude : Int := (num / divisor : Nat)
    some (if negative then -magnitude else magnitude, den / divisor)
  | _ => none

/-- The hash of infinity. -/
def infinityHash : Int := 314159

/-- A double that is a number as a hash: its value modulo a prime, where halves are powers of the
inverse of two. -/
def hash? (x : Float) : Option Int :=
  match Dyadic.ofFloat x with
  | .nan => none
  | .infinite negative => some (if negative then -infinityHash else infinityHash)
  | .finite negative m q =>
    let e := (q % 61).toNat
    let magnitude : Int := (m * twoPow e % Integer.hashModulus : Nat)
    some (Integer.settled (if negative then -magnitude else magnitude))

/-- The double nearest to a quotient of integers, unless it is too large. -/
def quotient? (m n : Int) : Option Float :=
  let negative := (m < 0) != (n < 0)
  if nearestBits m.natAbs n.natAbs < infinityBits then
    some (nearest negative m.natAbs n.natAbs)
  else none

/-- A double without the point of a whole number. -/
def bare (x : Float) : String :=
  let text := render x
  if text.endsWith ".0" then (text.dropEnd 2).toString else text

/-- A complex number by its parts. -/
def renderComplex (re im : Float) : String :=
  let shown := bare im
  let signed := if shown.startsWith "-" then shown else "+" ++ shown
  if re.toBits = 0 then bare im ++ "j" else "(" ++ bare re ++ signed ++ "j)"

end Walkthrough.Real
