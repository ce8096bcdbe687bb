import Walkthrough.Expression.Problem

/-!
# Numerals in expressions

A numeral is decimal, with or without a fraction and an exponent, or has a letter behind a leading
zero that tells its base. Single underscores may stand between digits. A numeral must end where a
name could not go on, or where one of a few short words begins.

## Main definitions

* `Expression.afterDigits` — what follows digits with underscores between them
* `Expression.afterNumeral` — what follows a numeral
-/

namespace Walkthrough.Expression

/-- Whether a character may stand in a name, as far as ASCII tells. -/
def mayContinueName (c : Char) : Bool := c.isAlphanum || c == '_' || 128 ≤ c.toNat

/-- Whether a name may begin with a character, as far as ASCII tells. -/
def mayStartName (c : Char) : Bool := c.isAlpha || c == '_' || 128 ≤ c.toNat

/-- Whether characters have a word in front that ends there. -/
def startsWithWord (word cs : List Char) : Bool :=
  word.isPrefixOf cs && !(cs.drop word.length).head?.any mayContinueName

/-- Whether a numeral may end in front of the characters: none follows that may stand in a name, or
a word that joins expressions begins. -/
def mayEndNumeral (cs : List Char) : Bool :=
  !cs.head?.any mayContinueName ||
    ["and", "else", "for", "or", "not"].any (fun word => startsWithWord word.toList cs) ||
    ["if", "in", "is"].any fun word => word.toList.isPrefixOf cs

/-- The end of a numeral. -/
def endNumeral (style : NumeralStyle) (cs : List Char) : Except Problem (List Char) :=
  if mayEndNumeral cs then .ok cs else .error (.brokenNumeral style)

/-- What follows digits with single underscores between them; the flag tells whether a digit must
come next. Where it does not, the character in its place is given. -/
def afterDigits (isDigit : Char → Bool) : Bool → List Char → Except (Option Char) (List Char)
  | false, '_' :: cs => afterDigits isDigit true cs
  | needed, c :: cs =>
    if isDigit c then afterDigits isDigit false cs
    else if needed then .error (some c)
    else .ok (c :: cs)
  | needed, [] => if needed then .error none else .ok []

/-- What follows more decimal digits. -/
def afterDecimals (cs : List Char) : Except Problem (List Char) :=
  (afterDigits Char.isDigit false cs).mapError fun _ => .brokenNumeral .decimal

/-- What follows an imaginary unit, if one is there; else the end of the numeral. -/
def afterUnit (cs : List Char) : Except Problem (List Char) :=
  match cs with
  | 'j' :: rest | 'J' :: rest => endNumeral .imaginary rest
  | _ => endNumeral .decimal cs

/-- What follows an exponent, if one is there. -/
def afterExponent (cs : List Char) : Except Problem (List Char) :=
  match cs with
  | e :: rest =>
    if e = 'e' ∨ e = 'E' then
      match rest with
      | sign :: more =>
        if sign = '+' ∨ sign = '-' then
          if more.head?.any Char.isDigit then afterDecimals more >>= afterUnit
          else .error (.brokenNumeral .decimal)
        else if sign.isDigit then afterDecimals more >>= afterUnit
        else endNumeral .decimal cs
      | [] => endNumeral .decimal cs
    else afterUnit cs
  | [] => .ok []

/-- What follows a fraction, behind its point. -/
def afterFraction (cs : List Char) : Except Problem (List Char) :=
  if cs.head?.any Char.isDigit then afterDecimals cs >>= afterExponent else afterExponent cs

/-- What follows a numeral in another base, behind the letter that tells it. -/
def afterRadix (style : NumeralStyle) (isDigit : Char → Bool) (cs : List Char) :
    Except Problem (List Char) :=
  let digits := match cs with
    | '_' :: rest => afterDigits isDigit true rest
    | _ => afterDigits isDigit true cs
  match digits with
  | .error found =>
    match found with
    | some c =>
      if c.isDigit then .error (.strayDigit c style) else .error (.brokenNumeral style)
    | none => .error (.brokenNumeral style)
  | .ok rest =>
    match rest with
    | c :: _ =>
      if c.isDigit then .error (.strayDigit c style) else endNumeral style rest
    | [] => .ok []

/-- Whether a character is a hexadecimal digit. -/
def isHexDigit (c : Char) : Bool :=
  c.isDigit || ('a' ≤ c && c ≤ 'f') || ('A' ≤ c && c ≤ 'F')

/-- What follows the digits before a point. Leading zeros are for zero itself, or for a number that
has a point, an exponent or an imaginary unit. -/
def afterInteger (leadingZeros : Bool) (cs : List Char) : Except Problem (List Char) :=
  match cs with
  | '.' :: rest => afterFraction rest
  | c :: _ =>
    if c = 'e' ∨ c = 'E' ∨ c = 'j' ∨ c = 'J' then afterExponent cs
    else if leadingZeros then .error .leadingZeros
    else endNumeral .decimal cs
  | [] => if leadingZeros then .error .leadingZeros else .ok []

/-- What follows a numeral that begins with a digit. -/
def afterNumeral (first : Char) (cs : List Char) : Except Problem (List Char) :=
  if first = '0' then
    match cs with
    | 'x' :: rest | 'X' :: rest => afterRadix .hexadecimal isHexDigit rest
    | 'o' :: rest | 'O' :: rest => afterRadix .octal (fun c => '0' ≤ c && c < '8') rest
    | 'b' :: rest | 'B' :: rest => afterRadix .binary (fun c => c == '0' || c == '1') rest
    | _ => do
      let rest ← afterDecimals cs
      let digits := cs.take (cs.length - rest.length)
      afterInteger (digits.any fun c => c ≠ '0' ∧ c ≠ '_') rest
  else afterDecimals cs >>= afterInteger false

end Walkthrough.Expression
