import Walkthrough.Fault.Misformat
import Walkthrough.Text.DecimalDigit

/-!
# Formats

A format says how a value is written: how it is aligned and filled, how its sign is shown, how wide
it is, how its digits are grouped, how many digits it has, and a code for the way of writing. All
parts may be missing, and they stand in this order.

## Main definitions

* `Format.Spec` — a format
* `Format.read` — the format that a text stands for
-/

namespace Walkthrough.Format

/-- Where a value stands in its width. -/
inductive Align
  | left
  | right
  | centre
  /-- To the right, with the sign to the left. -/
  | afterSign
deriving DecidableEq, Repr

/-- A format. -/
structure Spec where
  fill : Char := ' '
  align : Align
  sign : Option Char := none
  /-- Whether a zero has no sign. -/
  dropsZeroSign : Bool := false
  /-- Whether marks and points are shown that could be left out. -/
  alternate : Bool := false
  width : Nat := 0
  /-- What stands between groups of digits. -/
  separator : Option Char := none
  precision : Option Nat := none
  code : Option Char := none
deriving DecidableEq, Repr

/-- The alignment that a character stands for. -/
def Align.ofChar? : Char → Option Align
  | '<' => some .left
  | '>' => some .right
  | '^' => some .centre
  | '=' => some .afterSign
  | _ => none

/-- The greatest number that a format may have. -/
def numberLimit : Nat := 0x7FFFFFFFFFFFFFFF

/-- The number at the front of a format, if there is one, and what follows it. -/
def number (cs : List Char) : Except Misformat (Option Nat × List Char) :=
  match cs.takeWhile fun c => (Text.digitValue? c).isSome with
  | [] => .ok (none, cs)
  | digits =>
    let n := digits.foldl (fun n c => 10 * n + (Text.digitValue? c).getD 0) 0
    if n ≤ numberLimit then .ok (some n, cs.drop digits.length) else .error .tooManyDigits

/-- Reads fill and alignment. -/
def readAlign (spec : Spec) : List Char → Spec × Bool × Bool × List Char
  | fill :: mark :: rest =>
    match Align.ofChar? mark with
    | some align => ({ spec with fill, align }, true, true, rest)
    | none =>
      match Align.ofChar? fill with
      | some align => ({ spec with align }, false, true, mark :: rest)
      | none => (spec, false, false, fill :: mark :: rest)
  | [mark] =>
    match Align.ofChar? mark with
    | some align => ({ spec with align }, false, true, [])
    | none => (spec, false, false, [mark])
  | [] => (spec, false, false, [])

/-- Reads one character if it is there. -/
def readMark (mark : Char) : List Char → Bool × List Char
  | c :: rest => if c = mark then (true, rest) else (false, c :: rest)
  | [] => (false, [])

/-- Reads a sign. -/
def readSign : List Char → Option Char × List Char
  | c :: rest => if c ∈ ['+', '-', ' '] then (some c, rest) else (none, c :: rest)
  | [] => (none, [])

/-- Reads what stands between groups of digits. -/
def readSeparator : List Char → Except Misformat (Option Char × List Char)
  | ',' :: '_' :: _ | '_' :: ',' :: _ => .error .twoSeparators
  | c :: rest => if c ∈ [',', '_'] then .ok (some c, rest) else .ok (none, c :: rest)
  | [] => .ok (none, [])

/-- Reads a precision after a point. -/
def readPrecision : List Char → Except Misformat (Option Nat × List Char)
  | '.' :: rest => do
    match ← number rest with
    | (some n, rest) => return (some n, rest)
    | (none, _) => throw .missingPrecision
  | cs => .ok (none, cs)

/-- The codes that go with groups of digits. -/
def groupedCodes : List Char := ['d', 'e', 'f', 'g', 'E', 'G', '%', 'F']

/-- Checks that a separator goes with a code. -/
def checkSeparator (spec : Spec) : Except Misformat Unit :=
  match spec.separator, spec.code with
  | some separator, some code =>
    if code ∈ groupedCodes || (separator = '_' && code ∈ ['b', 'o', 'x', 'X']) then .ok ()
    else .error (.badSeparator separator code)
  | _, _ => .ok ()

/-- The format that a text stands for, for a value of a kind. The alignment and the code are those
of values of the kind unless others are given. A zero before the width fills numbers after their
sign. -/
def read (k : Kind) (align : Align) (code : Option Char) (text : String) :
    Except Misformat Spec := do
  let (spec, filled, aligned, rest) := readAlign { align } text.toList
  let (sign, rest) := readSign rest
  let (dropsZeroSign, rest) := readMark 'z' rest
  let (alternate, rest) := readMark '#' rest
  let (zero, rest) := if filled then (false, rest) else readMark '0' rest
  let spec := { spec with
    sign, dropsZeroSign, alternate
    fill := if zero then '0' else spec.fill
    align := if zero && !aligned && align = Align.right then .afterSign else spec.align }
  let (width, rest) ← number rest
  let (separator, rest) ← readSeparator rest
  let (precision, rest) ← readPrecision rest
  let code ← match rest with
    | [] => pure code
    | [c] => pure (some c)
    | _ => throw (.invalid text k)
  let spec := { spec with width := width.getD 0, separator, precision, code }
  checkSeparator spec
  return spec

example : (read .int .right (some 'd') "*^+7,d").toOption =
    some { fill := '*', align := .centre, sign := some '+', width := 7, separator := some ','
           code := some 'd' } := by
  decide +kernel

end Walkthrough.Format
