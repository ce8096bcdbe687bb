/-!
# Runs of a list

Sorting begins with what is in order already. The longest run at the front of a list is taken as it
is if it does not descend, and turned round if it descends strictly. A run that is too short is
filled up from the elements that follow, each put into its place by binary search, behind the
elements it is not smaller than.

Comparisons may fail. They are made in a fixed sequence, so it is known which one fails first.

## Main definitions

* `Sorting.splitRun` — the run at the front of a list
* `Sorting.place`, `Sorting.insert` — putting an element into a sorted list
* `Sorting.nextRun` — a sorted list of the first elements, and the others
* `Sorting.leftBehind` — what is left when a comparison fails
-/

namespace Walkthrough.Sorting

variable {α ε : Type}

/-- The longest run from `x` on in which each element is smaller than the one before it, or none is,
as `descending` says; and what follows the run. -/
def splitRun (less : α → α → Except ε Bool) (descending : Bool) (x : α) :
    List α → Except ε (List α × List α)
  | [] => .ok ([x], [])
  | y :: rest => do
    if (← less y x) = descending then
      let (run, others) ← splitRun less descending y rest
      return (x :: run, others)
    else return ([x], y :: rest)

/-- Splits a sorted list into the elements that stay before a new one and those that go after it,
by halving; `after` tells whether an element goes after. -/
def place (after : α → Except ε Bool) : Nat → List α → Except ε (List α × List α)
  | 0, xs => .ok ([], xs)
  | fuel + 1, xs =>
    let half := xs.length / 2
    match xs.drop half with
    | [] => .ok ([], [])
    | x :: behind => do
      if ← after x then
        let (front, back) ← place after fuel (xs.take half)
        return (front, back ++ x :: behind)
      else
        let (front, back) ← place after fuel behind
        return (xs.take half ++ x :: front, back)

/-- Puts an element into a sorted list, behind those it is not smaller than. -/
def insert (less : α → α → Except ε Bool) (sorted : List α) (x : α) : Except ε (List α) := do
  let (front, back) ← place (less x) sorted.length sorted
  return front ++ x :: back

/-- The run at the front of a list in ascending order, and what follows it. -/
def frontRun (less : α → α → Except ε Bool) : List α → Except ε (List α × List α)
  | [] => .ok ([], [])
  | [x] => .ok ([x], [])
  | x :: y :: rest => do
    let descending ← less y x
    let (run, others) ← splitRun less descending y rest
    return (if descending then (x :: run).reverse else x :: run, others)

/-- The run at the front of a list, filled up to `least` elements if there are so many. -/
def nextRun (less : α → α → Except ε Bool) (least : Nat) (xs : List α) :
    Except ε (List α × List α) := do
  let (run, others) ← frontRun less xs
  let missing := least - run.length
  return (← (others.take missing).foldlM (insert less) run, others.drop missing)

/-- Puts elements into a sorted list one after the other. From the first one that cannot be put into
its place on, they stay behind it. -/
def insertAll (less : α → α → Except ε Bool) (sorted : List α) : List α → List α
  | [] => sorted
  | x :: rest =>
    match insert less sorted x with
    | .ok sorted => insertAll less sorted rest
    | .error _ => sorted ++ x :: rest

/-- What a short list has become when sorting it fails. -/
def leftBehind (less : α → α → Except ε Bool) (xs : List α) : List α :=
  match frontRun less xs with
  | .ok (run, others) => insertAll less run others
  | .error _ => xs

end Walkthrough.Sorting
