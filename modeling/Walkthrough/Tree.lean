import Walkthrough.Topic

/-!
# Values as trees

The answer to a question shows a value as a tree, with the objects it refers to unfolded. Objects
that hold each other too deep have no tree, and neither has an integer with too many digits to be
written. Going down to the parts of an object takes two levels, of which there are only so many.

## Main definitions

* `Tree` — a value with everything it refers to
* `Store.unfold` — the tree of a value
-/

namespace Walkthrough

/-- A value with everything it refers to. -/
inductive Tree
  | null
  | bool (b : Bool)
  | int (n : Int)
  /-- A real number by its numeral. -/
  | real (numeral : String)
  | text (s : String)
  | list (items : List Tree)
  | tuple (items : List Tree)
  | dict (entries : List (Tree × Tree))
  | range (start stop step : Int)
  | record (kind : Kind) (fields : List (String × Tree))

/-- The tree of an integer that is not too long. -/
def Tree.ofInt (n : Int) : Except Fault Tree := (displayInt n).map fun _ => .int n

/-- The tree of a number. -/
def Number.tree : Number → Except Fault Tree
  | .int n => Tree.ofInt n
  | .real x => .ok (.real (Decimal.render x))

/-- The tree of lines of text. -/
def Tree.ofLines (lines : List String) : Tree := .list (lines.map .text)

/-- How many levels there are for unfolding a value. -/
def unfoldingLevels : Nat := 996

namespace Store

/-- The tree of a record, given how its fields are unfolded. -/
def unfoldRecord (s : Store) (inner : Value → Except Fault Tree) (r : Record) :
    Except Fault Tree := do
  return .record r.kind (← r.kind.fieldNames.mapM fun name => do
    return (name, ← inner (← s.field r name)))

/-- The tree of a value, with the levels that are left. -/
def unfoldWithin (s : Store) : Nat → Value → Except Fault Tree
  | 0, _ => .error (.tooDeep .unfolding)
  | 1, _ => .error (.tooDeep .sorting)
  | level + 2, v =>
    match v with
    | .null => .ok .null
    | .bool b => .ok (.bool b)
    | .int n => Tree.ofInt n
    | .real x _ => .ok (.real (Decimal.render x))
    | .text t => .ok (.text t)
    | .range r => do
      let _ ← r.display
      return .range r.start r.stop r.step
    | .ref _ | .description _ =>
      match s.cell? v with
      | none => .ok .null
      | some (.list items) => (items.mapM (s.unfoldWithin level)).map .list
      | some (.tuple items) => (items.mapM (s.unfoldWithin level)).map .tuple
      | some (.dict entries) => do
        return .dict (← entries.mapM fun entry => do
          return (← s.unfoldWithin level entry.1, ← s.unfoldWithin level entry.2))
      | some (.record r) => s.unfoldRecord (s.unfoldWithin level) r
      | some (.iterator _) => (s.display v).map .text
    | _ => (s.display v).map .text

/-- The tree of a value. -/
def unfold (s : Store) (v : Value) : Except Fault Tree := s.unfoldWithin unfoldingLevels v

/-- The tree of a step, which takes one level. -/
def unfoldStep (s : Store) (e : Record) : Except Fault Tree :=
  s.unfoldRecord (s.unfoldWithin (unfoldingLevels - 1)) e

end Store

end Walkthrough
