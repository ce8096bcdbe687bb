import Walkthrough.Decimal.Numeral
import Walkthrough.Text.Quoted

/-!
# Doubles in hexadecimal

In hexadecimal a double is written exactly, with a binary exponent. A numeral to be read has a sign,
a mark, digits with a point and an exponent, most of which may be missing; it may have more digits
than a double can hold, and is rounded then.

## Main definitions

* `Decimal.renderHex` — a double in hexadecimal
* `Decimal.readHex` — the double that a hexadecimal numeral stands for
-/

namespace Walkthrough.Decimal

/-- A double in hexadecimal. -/
def renderHex (x : Float) : String :=
  let signed (negative : Bool) (text : String) := if negative then "-" ++ text else text
  match Dyadic.ofFloat x with
  | .nan => "nan"
  | .infinite negative => signed negative "inf"
  | .finite negative m q =>
    if m = 0 then signed negative "0x0.0p+0"
    else
      let lead := m / twoPow 52
      let e := q + 52
      signed negative ("0x" ++ toString lead ++ "." ++
        String.ofList (Text.hex 13 (m % twoPow 52)) ++ "p" ++
        (if e < 0 then "-" else "+") ++ toString e.natAbs)

/-- Why a hexadecimal numeral is not read. -/
inductive HexFault
  | malformed
  | tooLarge
deriving DecidableEq, Repr

/-- The value of a hexadecimal digit. -/
def hexValue? (c : Char) : Option Nat :=
  if c.isDigit then some (c.toNat - 0x30)
  else if 'a' ≤ c && c ≤ 'f' then some (c.toNat - 0x57)
  else if 'A' ≤ c && c ≤ 'F' then some (c.toNat - 0x37)
  else none

/-- Whether a character is a hexadecimal digit. -/
def isHex (c : Char) : Bool := (hexValue? c).isSome

/-- Whether a character may stand around a hexadecimal numeral. -/
def isAsciiSpace (c : Char) : Bool := c = ' ' || (0x09 ≤ c.toNat && c.toNat ≤ 0x0D)

/-- The natural number that hexadecimal digits stand for. -/
def natOfHex (cs : List Char) : Nat := cs.foldl (fun n c => 16 * n + (hexValue? c).getD 0) 0

/-- The binary exponent after hexadecimal digits. -/
def binaryExponent? : List Char → Option Int
  | [] => some 0
  | mark :: cs =>
    if mark = 'p' || mark = 'P' then
      let negative := cs.head? == some '-'
      let digits := if negative || cs.head? == some '+' then cs.drop 1 else cs
      if digits.isEmpty || digits.any (!·.isDigit) then none
      else some (if negative then -natOf digits else natOf digits)
    else none

/-- The double nearest to `c * 2 ^ e`, unless it is too large. Exponents far beyond the range of
doubles are settled without the power. -/
def scaledByTwo (negative : Bool) (c : Nat) (e : Int) : Except HexFault Float :=
  let place : Int := c.log2 + e
  if c = 0 || place < -1200 then .ok (nearest negative 0 1)
  else if 1100 < place then .error .tooLarge
  else
    let x := nearest negative (c * twoPow e.toNat) (twoPow (-e).toNat)
    if x.isInf then .error .tooLarge else .ok x

/-- The double that a hexadecimal numeral without a sign stands for. -/
def readHexUnsigned (negative : Bool) (cs : List Char) : Except HexFault Float :=
  let word := String.ofList (cs.map Char.toLower)
  if word = "inf" || word = "infinity" then .ok (nearest negative (twoPow 1024) 1)
  else if word = "nan" then .ok (Float.ofBits 0x7FF8000000000000)
  else
    let cs := match cs with
      | '0' :: 'x' :: rest | '0' :: 'X' :: rest => rest
      | _ => cs
    let whole := cs.takeWhile isHex
    let afterWhole := cs.dropWhile isHex
    let pointed := afterWhole.head? == some '.'
    let fraction := if pointed then (afterWhole.drop 1).takeWhile isHex else []
    let tail := if pointed then (afterWhole.drop 1).dropWhile isHex else afterWhole
    match binaryExponent? tail with
    | some e =>
      if whole.isEmpty && fraction.isEmpty then .error .malformed
      else scaledByTwo negative (natOfHex (whole ++ fraction)) (e - 4 * fraction.length)
    | none => .error .malformed

/-- The double that a hexadecimal numeral stands for. -/
def readHex (s : String) : Except HexFault Float :=
  match Text.dropTrailing isAsciiSpace (s.toList.dropWhile isAsciiSpace) with
  | '-' :: rest => readHexUnsigned true rest
  | '+' :: rest => readHexUnsigned false rest
  | cs => readHexUnsigned false cs

end Walkthrough.Decimal
