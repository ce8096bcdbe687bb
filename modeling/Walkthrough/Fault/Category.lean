/-!
# Sorts of mistakes

## Main definitions

* `Fault.Category` — what sort of mistake a fault is
-/

namespace Walkthrough.Fault

/-- The sorts of mistakes. -/
inductive Category
  /-- A value of a wrong kind. -/
  | kind
  /-- A member that is not there, or cannot be set. -/
  | member
  /-- A name or key that is not there. -/
  | name
  /-- An index that is not there. -/
  | index
  /-- A codec that is not there. -/
  | codec
  /-- A value that is not right. -/
  | value
  /-- A text that a codec cannot write. -/
  | encoding
  | overflow
  | division
  | memory
  /-- Nothing is left to walk through. -/
  | exhaustion
  | failure
  | depth
  | markup
  | rendering
deriving DecidableEq, Repr

end Walkthrough.Fault
