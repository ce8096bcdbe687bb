import Walkthrough.Decimal.Shortest
import Walkthrough.Text.Blank
import Walkthrough.Text.DecimalDigit

/-!
# Doubles as text

A double is written with the fewest digits that read back, positionally while its leading digit
stands between the fourth decimal place and the sixteenth place before the point, and with an
exponent otherwise.

A numeral to be read may have white space around it, a sign, digits of any script with single
underscores between them, a point and an exponent, or be a word for infinity or for no number.

## Main definitions

* `Decimal.Style`, `Decimal.plainStyle` — the choices made in writing a double
* `Decimal.render` — the text of a double
* `Decimal.read?` — the double a numeral stands for
-/

namespace Walkthrough.Decimal

open Text

/-- The choices made in writing a double. -/
structure Style where
  /-- The least decimal exponent that is written positionally. -/
  leastPlain : Int
  /-- The first decimal exponent that is too large to be written positionally. -/
  firstScaled : Int
  /-- The least number of digits of an exponent. -/
  exponentDigits : Nat

/-- Positional from `0.0001` to below `1e+16`, exponents of at least two digits. -/
def plainStyle : Style := ⟨-4, 16, 2⟩

/-- The digits of a positive decimal without the zeros at its end. -/
def significant (c : Nat) : List Char :=
  dropTrailing (· == '0') (Nat.toDigits 10 c)

/-- An exponent with its sign. -/
def Style.exponent (style : Style) (e : Int) : List Char :=
  let digits := Nat.toDigits 10 e.natAbs
  (if e < 0 then '-' else '+') ::
    (List.replicate (style.exponentDigits - digits.length) '0' ++ digits)

/-- Digits with the point after the first `place` of them; zeros fill the gaps, and a digit stands
on each side of the point. -/
def positional (digits : List Char) (place : Int) : List Char :=
  if place ≤ 0 then '0' :: '.' :: (List.replicate (-place).toNat '0' ++ digits)
  else
    let whole := digits.take place.toNat
    let rest := digits.drop place.toNat
    whole ++ List.replicate (place.toNat - digits.length) '0' ++
      '.' :: (if rest.isEmpty then ['0'] else rest)

/-- A positive decimal `c * 10 ^ e` in a style. -/
def Style.magnitude (style : Style) (c : Nat) (e : Int) : List Char :=
  let digits := significant c
  let place := (Nat.toDigits 10 c).length + e
  let leading := place - 1
  if style.leastPlain ≤ leading ∧ leading < style.firstScaled then positional digits place
  else
    digits.take 1 ++ (if digits.length = 1 then [] else '.' :: digits.drop 1) ++
      'e' :: style.exponent leading

/-- The text of a double. Zero keeps its sign; no number and infinity are written as words. -/
def render (x : Float) : String :=
  let signed (negative : Bool) (cs : List Char) :=
    String.ofList (if negative then '-' :: cs else cs)
  match Dyadic.ofFloat x with
  | .nan => "nan"
  | .infinite negative => signed negative "inf".toList
  | .finite negative m q =>
    if m = 0 then signed negative "0.0".toList
    else
      let (c, e) := shortest m q
      signed negative (plainStyle.magnitude c e)

/-! ### Reading -/

/-- A character with white space and decimal digits of every script brought to ASCII. -/
def toAscii (c : Char) : Char :=
  if isSpace c then ' '
  else match digitValue? c with
    | some d => Char.ofNat (0x30 + d)
    | none => c

/-- Removes the underscores, each of which must stand between two digits. -/
def dropUnderscores (digitBefore : Bool) : List Char → Option (List Char)
  | [] => some []
  | '_' :: c :: rest =>
    if digitBefore && c.isDigit then (dropUnderscores true rest).map (c :: ·) else none
  | c :: rest => if c = '_' then none else (dropUnderscores c.isDigit rest).map (c :: ·)

/-- The natural number that ASCII digits stand for. -/
def natOf (cs : List Char) : Nat :=
  cs.foldl (fun n c => 10 * n + (c.toNat - 0x30)) 0

/-- The exponent after a mantissa: none at all, or a mark, an optional sign and digits. -/
def exponent? : List Char → Option Int
  | [] => some 0
  | mark :: cs =>
    if mark = 'e' ∨ mark = 'E' then
      let negative := cs.head? == some '-'
      let digits := if negative || cs.head? == some '+' then cs.drop 1 else cs
      if digits.isEmpty || digits.any (!·.isDigit) then none
      else some (if negative then -natOf digits else natOf digits)
    else none

/-- The double nearest to `c * 10 ^ e`. Exponents far beyond the range of doubles are settled
without the power. -/
def scaled (negative : Bool) (c : Nat) (e : Int) : Float :=
  let place := (Nat.toDigits 10 c).length + e
  if c = 0 ∨ place < -400 then nearest negative 0 1
  else if 400 < place then nearest negative (twoPow 1024) 1
  else nearest negative (c * tenPow e.toNat) (tenPow (-e).toNat)

/-- The double that a numeral without a sign stands for. -/
def unsigned? (negative : Bool) (cs : List Char) : Option Float :=
  let word := String.ofList (cs.map Char.toLower)
  if word = "inf" ∨ word = "infinity" then some (nearest negative (twoPow 1024) 1)
  else if word = "nan" then some (Float.ofBits 0x7FF8000000000000)
  else
    let whole := cs.takeWhile Char.isDigit
    let afterWhole := cs.dropWhile Char.isDigit
    let pointed := afterWhole.head? == some '.'
    let fraction := if pointed then (afterWhole.drop 1).takeWhile Char.isDigit else []
    let tail := if pointed then (afterWhole.drop 1).dropWhile Char.isDigit else afterWhole
    if whole.isEmpty && fraction.isEmpty then none
    else (exponent? tail).map fun e =>
      scaled negative (natOf (whole ++ fraction)) (e - fraction.length)

/-- The double that a numeral stands for. -/
def read? (s : String) : Option Float := do
  let cs ← dropUnderscores false (trim (s.toList.map toAscii))
  match cs with
  | '-' :: rest => unsigned? true rest
  | '+' :: rest => unsigned? false rest
  | _ => unsigned? false cs

end Walkthrough.Decimal
