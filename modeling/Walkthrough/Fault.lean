import Walkthrough.Expression.Problem
import Walkthrough.Fault.Misuse

/-!
# Faults

Everything that can go wrong when values are built, read, compared, summed or shown. A fault names
its cause; the wording is in `Walkthrough.Message`, and that of the faults of operations in
`Walkthrough.Fault.Misuse`.

## Main definitions

* `Fault` — the causes
* `Fault.category` — what sort of mistake a cause is
-/

namespace Walkthrough

/-- The comparisons that not every pair of kinds allows. -/
inductive Relation
  | less
  | lessOrEqual
  | greater
  | greaterOrEqual
deriving DecidableEq, Repr

/-- Whether a relation holds, given whether the left side is smaller, equal or greater. -/
def Relation.holds (smaller equal greater : Bool) : Relation → Bool
  | .less => smaller
  | .lessOrEqual => smaller || equal
  | .greater => greater
  | .greaterOrEqual => greater || equal

/-- What can go too deep into values that hold others. -/
inductive Descent
  | unfolding
  /-- Telling what a value is before it is unfolded. -/
  | sorting
  | comparing
  | displaying
  /-- Asking a record to display itself. -/
  | asking
deriving DecidableEq, Repr

/-- Why an operation came to nothing. -/
inductive Fault
  /-- A running total of the first kind takes no element of the second. -/
  | notAddable (total element : Kind)
  | notIterable (k : Kind)
  | notComparable (relation : Relation) (left right : Kind)
  /-- A value stands where an integer is needed. -/
  | notIntegral (k : Kind)
  | notCallable (k : Kind)
  /-- A value that can change, or holds one that can, stands where a key is needed. -/
  | notKey (k : Kind)
  | unexpectedField (record : Kind) (field : String)
  /-- A record was given itself as a field. -/
  | repeatedSelf (record : Kind)
  | missingFields (record : Kind) (fields : List String)
  /-- A greeting was asked for without a name. -/
  | missingName
  /-- A progression was given no numbers, or more than three. -/
  | progressionArity (given : Nat)
  | zeroStep
  | notNumeral (text : String)
  /-- A text stands where an integer is needed. -/
  | notNumber (text : String)
  /-- A numeral has too many digits to be read. -/
  | numeralTooLong (digits : Nat)
  | noAttribute (k : Kind) (name : String)
  /-- A kind, as a value, lacks an attribute. -/
  | noKindAttribute (k : Kind) (name : String)
  | readOnlyAttribute (k : Kind) (name : String)
  /-- A property is declared for a kind and cannot be set. -/
  | fixedProperty (k : Kind) (name : String)
  /-- A part of a value cannot be set. -/
  | fixedPart
  /-- The kind of a value cannot be set. -/
  | fixedClass
  /-- A kind itself cannot be changed. -/
  | fixedKind (k : Kind) (name : String)
  /-- A value stands where a kind is needed. -/
  | notKind (k : Kind)
  /-- A value stands where the attributes of a record are needed. -/
  | notDictionary (k : Kind)
  /-- An operation was used in a way that it does not allow. -/
  | misuse (m : Misuse)
  /-- Nothing goes by this name. -/
  | unknownName (name : Value)
  /-- An integer is beyond the finite doubles. -/
  | beyondDoubles
  /-- An integer has too many digits to be written. -/
  | tooManyDigits
  | emitFailed
  /-- A dictionary has other keys than when a walk through it began. -/
  | changedWhileWalked
  /-- Values hold each other too deep, or without end. -/
  | tooDeep (descent : Descent)
  /-- The item at an index is no text and cannot be joined to the others. -/
  | notText (index : Nat) (k : Kind)
  /-- A cell of a table is no text. -/
  | notRenderable (k : Kind)
  | unmatchedTag (tag : String) (position : Nat)
  | nothingToClose (position : Nat)
  /-- The argument among the parameters of a handler is refused. -/
  | badHandler (parameters argument : String) (refusal : Expression.Refusal)
deriving DecidableEq

namespace Fault

/-- The sort of mistake that a cause is. -/
def category : Fault → Category
  | notAddable _ _ | notIterable _ | notComparable _ _ _ | notIntegral _ | notCallable _ | notKey _
  | unexpectedField _ _ | repeatedSelf _ | missingFields _ _ | missingName | progressionArity _
  | notText _ _ | fixedClass | fixedKind _ _ | notKind _ | notDictionary _ => .kind
  | noAttribute _ _ | noKindAttribute _ _ | readOnlyAttribute _ _ | fixedProperty _ _
  | fixedPart => .member
  | unknownName _ => .name
  | zeroStep | notNumeral _ | notNumber _ | numeralTooLong _ | tooManyDigits => .value
  | beyondDoubles => .overflow
  | emitFailed | changedWhileWalked => .failure
  | tooDeep _ => .depth
  | unmatchedTag _ _ | nothingToClose _ | badHandler _ _ _ => .markup
  | notRenderable _ => .rendering
  | misuse m => m.category

end Fault

end Walkthrough
