import Walkthrough.Text.Blank
import Walkthrough.Text.DecimalDigit

/-!
# Integers as text

An integer is written in decimal. Integers of more than `digitLimit` digits have no text, and no
numeral with more digits than that is read, leading zeros counted.

A numeral to be read may have white space around it, one sign, digits of any script, and single
underscores between two digits.

## Main definitions

* `Integer.digitCount` — how many decimal digits an integer has
* `Integer.render?` — the text of an integer that is not too long
* `Integer.read?` — the integer a numeral stands for
-/

namespace Walkthrough.Integer

open Text

/-- The most digits an integer may have to be written or read. -/
def digitLimit : Nat := 4300

/-- The number of decimal digits, sign not counted; zero has one. -/
def digitCount (n : Int) : Nat :=
  (Nat.toDigits 10 n.natAbs).length

/-- The decimal text of an integer of at most `digitLimit` digits. -/
def render? (n : Int) : Option String :=
  if digitCount n ≤ digitLimit then some (toString n) else none

/-- The values of a run of digits in which a single underscore may stand between two digits. -/
def digitRun? : List Char → Option (List Nat)
  | [] => none
  | [c] => (digitValue? c).map ([·])
  | c :: '_' :: rest => do return (← digitValue? c) :: (← digitRun? rest)
  | c :: rest => do return (← digitValue? c) :: (← digitRun? rest)

/-- The number that a list of decimal digits stands for, the most significant one first. -/
def ofDigits (ds : List Nat) : Nat :=
  ds.foldl (fun n d => 10 * n + d) 0

/-- The natural number that a run of digits stands for, unless the run is too long. -/
def magnitude? (cs : List Char) : Option Nat := do
  let ds ← digitRun? cs
  if ds.length ≤ digitLimit then some (ofDigits ds) else none

/-- The integer that an optional sign and a run of digits stand for. -/
def signed? : List Char → Option Int
  | '-' :: cs => (magnitude? cs).map fun n => -(n : Int)
  | '+' :: cs => (magnitude? cs).map fun n => (n : Int)
  | cs => (magnitude? cs).map fun n => (n : Int)

/-- The integer that a numeral stands for. -/
def read? (s : String) : Option Int :=
  signed? (trim s.toList)

theorem render?_eq_none_iff {n : Int} : render? n = none ↔ digitLimit < digitCount n := by
  simp [render?]

theorem render?_eq_some_iff {n : Int} {s : String} :
    render? n = some s ↔ digitCount n ≤ digitLimit ∧ toString n = s := by
  simp [render?]

example : read? " +1_000\n" = some 1000 := by decide
example : read? "1__0" = none := by decide
example : read? "-\u0665" = some (-5) := by decide

end Walkthrough.Integer
