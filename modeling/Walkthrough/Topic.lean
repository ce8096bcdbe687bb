import Walkthrough.Call
import Walkthrough.Catalogue
import Walkthrough.Literal
import Walkthrough.Sum

/-!
# The lines of a step

Five topics are demonstrated: composing a greeting, summing numbers, comparing with a threshold,
counting through a loop and deriving a name. Each reads what it needs from the settings and gives
lines of text. Summing changes the store when the numbers are an iterator, and deriving a name when
a person has been given another operation for it.

## Main definitions

* `Topic` — the five topics
* `Store.greetingLine`, `Store.sumLine`, `Store.thresholdLine`, `Store.iterationLines`,
  `Store.personLine` — their lines
* `Store.topicLines` — the lines of a topic, read from settings
* `Store.stepLines`, `Store.linesOfStep` — the lines of a step, by its name
-/

namespace Walkthrough

/-- What a step demonstrates. -/
inductive Topic
  | greeting
  | sum
  | threshold
  | loop
  | person
deriving DecidableEq, Repr

/-- The topic of a step name. -/
def Topic.ofName? : String → Option Topic
  | "greeting" => some .greeting
  | "sum" => some .sum
  | "threshold" => some .threshold
  | "loop" => some .loop
  | "person" => some .person
  | _ => none

/-- The topic that a value names. -/
def Value.topic? : Value → Option Topic
  | .text name => Topic.ofName? name
  | _ => none

/-- The count that must be exceeded. -/
def threshold : Int := 5

/-- A number in a sentence. -/
def Number.sentence : Number → Except Fault String
  | .int n => displayInt n
  | .real x => .ok (Decimal.render x)

namespace Store

/-- Introduces a name after a greeting. Inside the call there is one level less than `levels`. -/
def greetingLine (s : Store) (name greeting : Value) (levels : Nat := callLevels) :
    Except Fault String := do
  let opening ← s.sentence greeting (levels - 1)
  return opening ++ " My name is " ++ (← s.sentence name (levels - 1)) ++ "."

/-- Tells whether a count exceeds the threshold. -/
def thresholdLine (s : Store) (count : Value) : Except Fault String :=
  match count.number? with
  | some n =>
    .ok (if (Number.int threshold).less n then "Count is greater than 5"
      else "Count is not greater than 5")
  | none => .error (.notComparable .greater (s.kind count) .int)

/-- One line for each iteration, counted from zero. -/
def iterationLines (s : Store) (iterations : Value) : Except Fault (List String) := do
  let n ← s.integer iterations
  return (List.range n.toNat).map fun i => "Iteration " ++ toString i

/-- The full name and the age of a person, and the store that finding the name has left. The age is
read when the name has been put into words. Inside the call there is one level less than `levels`;
the full name is called for there, and is one call further down. -/
def personLine (s : Store) (person : Value) (levels : Nat := callLevels) :
    Except Fault String × Store :=
  match s.fullName person (levels - 1) with
  | (.error f, s) => (.error f, s)
  | (.ok name, s) =>
    (do
      let name ← s.sentence name (levels - 1)
      let age ← s.lookup person "age"
      return name ++ " is " ++ (← s.sentence age (levels - 1)) ++ " years old.", s)

/-- The sum of numbers, and the store in which an iterator over them has moved on. -/
def sumLine (s : Store) (numbers : Value) : Except Fault String × Store :=
  let (total, s) := s.sum numbers
  (total.bind fun n => n.sentence.map ("Sum: " ++ ·), s)

/-- The lines of a topic, read from settings. -/
def topicLines (s : Store) (settings : Value) : Topic → Except Fault (List String) × Store
  | .greeting =>
    (do
      let name ← s.lookup settings "name"
      let greeting ← s.lookup settings "greeting"
      return [← s.greetingLine name greeting], s)
  | .sum =>
    match s.lookup settings "numbers" with
    | .error f => (.error f, s)
    | .ok numbers =>
      let (line, s) := s.sumLine numbers
      (line.map ([·]), s)
  | .threshold => (do return [← s.thresholdLine (← s.lookup settings "count")], s)
  | .loop => (do s.iterationLines (← s.lookup settings "iterations"), s)
  | .person =>
    match s.lookup settings "person" with
    | .error f => (.error f, s)
    | .ok person =>
      let (line, s) := s.personLine person
      (line.map ([·]), s)

/-- The lines of the step of a name. The name must be that of a step in the catalogue and that of a
topic; nothing is read from the settings before both are known. -/
def stepLines (s : Store) (steps : List Record) (name settings : Value) :
    Except Fault (List String) × Store :=
  match s.findStep name steps with
  | .error f => (.error f, s)
  | .ok none => (.error (.unknownName name), s)
  | .ok (some _) =>
    match name.topic? with
    | none => (.error (.unknownName name), s)
    | some topic => s.topicLines settings topic

/-- The lines of a step of a catalogue, which goes by the name that it has now. -/
def linesOfStep (s : Store) (steps : List Record) (settings : Value) (e : Record) :
    Except Fault (List String) × Store :=
  match s.field e "name" with
  | .error f => (.error f, s)
  | .ok name => s.stepLines steps name settings

end Store

end Walkthrough
