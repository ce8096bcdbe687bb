import Walkthrough.Format.Spec

/-!
# Laying out what is written

A value that has been written is brought to its width: a text as a whole, a number with its sign, a
mark for its base, its digits in groups, and what follows them.

## Main definitions

* `Format.Spec.pad` — a text in its width
* `Format.grouped` — digits in groups
* `Format.Written`, `Format.Spec.layOut` — a written number, and the number in its width
-/

namespace Walkthrough.Format

/-- So many characters for filling before and after something of a length. -/
def Spec.margins (spec : Spec) (length : Nat) : List Char × List Char :=
  let missing := spec.width - length
  let before := match spec.align with
    | .left => 0
    | .right | .afterSign => missing
    | .centre => missing / 2
  (List.replicate before spec.fill, List.replicate (missing - before) spec.fill)

/-- A text in its width. -/
def Spec.pad (spec : Spec) (cs : List Char) : List Char :=
  let (before, after) := spec.margins cs.length
  before ++ cs ++ after

/-- Digits from the last to the first with a separator after every `size` of them, filled with
zeros to `least` characters. The first number bounds the groups. -/
def groupFrom (separator : Char) (size : Nat) : Nat → Int → List Char → List Char
  | 0, _, digits => digits
  | fuel + 1, least, digits =>
    let length := min size (max (max digits.length least.toNat) 1)
    let group := digits.take length
    let piece := group ++ List.replicate (length - group.length) '0'
    let rest := digits.drop length
    let least := least - length
    if rest.isEmpty && least ≤ 0 then piece
    else piece ++ separator :: groupFrom separator size fuel (least - 1) rest

/-- Digits in groups, filled with zeros to `least` characters. -/
def grouped (separator : Option Char) (size least : Nat) (digits : List Char) : List Char :=
  match separator with
  | some c => (groupFrom c size (digits.length + least + 1) least digits.reverse).reverse
  | none => List.replicate (least - digits.length) '0' ++ digits

/-- A number that has been written. -/
structure Written where
  isNegative : Bool
  /-- The mark of a base. -/
  mark : List Char := []
  /-- The digits before the point. -/
  digits : List Char
  /-- What follows these digits. -/
  rest : List Char := []
  /-- The number of digits in a group. -/
  groupSize : Nat := 3

/-- The sign of a number. -/
def Spec.signOf (spec : Spec) (isNegative : Bool) : List Char :=
  if isNegative then ['-']
  else match spec.sign with
    | some '+' => ['+']
    | some ' ' => [' ']
    | _ => []

/-- A number in its width. -/
def Spec.layOut (spec : Spec) (w : Written) : List Char :=
  let front := spec.signOf w.isNegative ++ w.mark
  let least :=
    if spec.fill = '0' && spec.align = .afterSign && !w.digits.isEmpty then
      spec.width - front.length - w.rest.length
    else 0
  let body :=
    (if w.digits.isEmpty then [] else grouped spec.separator w.groupSize least w.digits) ++ w.rest
  let (before, after) := spec.margins (front.length + body.length)
  if spec.align = .afterSign then front ++ before ++ body ++ after
  else before ++ front ++ body ++ after

example : grouped (some ',') 3 8 "5".toList = "0,000,005".toList := by decide
example : grouped (some ',') 3 0 "1234567".toList = "1,234,567".toList := by decide

end Walkthrough.Format
