import Walkthrough.Decimal.Dyadic

/-!
# Arithmetic of integers

Integers of any size, their bits as those of two's complement with endless sign bits, and rounding
to a power of ten.

## Main definitions

* `Integer.and`, `Integer.or`, `Integer.xor` — bit by bit
* `Integer.bitLength`, `Integer.bitCount` — the bits of the absolute value
* `Integer.power` — a power with a natural exponent
* `Integer.roundToTen` — the nearest multiple of a power of ten
* `Integer.hash` — an integer as a hash
* `Integer.toBytes?`, `Integer.ofBytes` — integers as bytes, the most significant first
-/

namespace Walkthrough.Integer

/-- The bits that two integers both have. A negative integer has the bits that the natural number
before its absolute value lacks. -/
def and : Int → Int → Int
  | .ofNat m, .ofNat n => (m &&& n : Nat)
  | .ofNat m, .negSucc n => (m - (m &&& n) : Nat)
  | .negSucc m, .ofNat n => (n - (n &&& m) : Nat)
  | .negSucc m, .negSucc n => .negSucc (m ||| n)

/-- The bits that one of two integers has. -/
def or (m n : Int) : Int := -(and (-m - 1) (-n - 1)) - 1

/-- The bits that just one of two integers has. -/
def xor (m n : Int) : Int := or m n - and m n

/-- The number of bits of the absolute value. -/
def bitLength (n : Int) : Nat := if n = 0 then 0 else n.natAbs.log2 + 1

/-- How many of the first `width` bits of a natural number are set. -/
def bitsSet : Nat → Nat → Nat
  | 0, _ => 0
  | width + 1, n => n % 2 + bitsSet width (n / 2)

/-- The number of bits of the absolute value that are set. -/
def bitCount (n : Int) : Nat := bitsSet (bitLength n) n.natAbs

/-- A power with a natural exponent. -/
def power (n : Int) (exponent : Nat) : Int :=
  let magnitude : Int := Nat.pow n.natAbs exponent
  if n < 0 ∧ exponent % 2 = 1 then -magnitude else magnitude

/-- The multiple of a power of ten that is nearest to an integer; a half goes to the even one. -/
def roundToTen (n : Int) (places : Nat) : Int :=
  let unit := Decimal.tenPow places
  let magnitude : Int := Decimal.roundDiv n.natAbs unit * unit
  if n < 0 then -magnitude else magnitude

/-- The modulus of hashes, a prime. -/
def hashModulus : Nat := 0x1FFFFFFFFFFFFFFF

/-- A hash that is never the one that stands for none. -/
def settled (h : Int) : Int := if h = -1 then -2 else h

/-- An integer as a hash. -/
def hash (n : Int) : Int :=
  let magnitude : Int := (n.natAbs % hashModulus : Nat)
  settled (if n < 0 then -magnitude else magnitude)

/-- The last `length` bytes of a natural number, the most significant first. -/
def lastBytes : Nat → Nat → List Nat
  | 0, _ => []
  | length + 1, n => lastBytes length (n / 256) ++ [n % 256]

/-- A natural number as bytes, if there are enough of them. -/
def toBytes? (n length : Nat) : Option (List Nat) :=
  if bitLength n ≤ 8 * length then some (lastBytes length n) else none

/-- The natural number that bytes stand for. -/
def ofBytes (bytes : List Nat) : Nat := bytes.foldl (fun n byte => 256 * n + byte) 0

example : and (-6) 11 = 10 ∧ or (-6) 3 = -5 ∧ xor (-6) 3 = -7 := by decide
example : bitLength (-8) = 4 ∧ bitCount 255 = 8 := by decide
example : roundToTen 25 1 = 20 ∧ roundToTen (-15) 1 = -20 := by decide
example : toBytes? 258 2 = some [1, 2] ∧ ofBytes [1, 2] = 258 := by decide

end Walkthrough.Integer
