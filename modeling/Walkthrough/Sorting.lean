import Walkthrough.Sorting.Merge
import Walkthrough.Sorting.Run

/-!
# Sorting with a comparison that may fail

A stable sort whose comparisons are made in a fixed sequence, so that if some of them fail it is
known which one fails first, and if they are inconsistent it is known what comes out. The list is
cut into runs, and neighbouring runs are merged.

Runs wait on a stack. Between two neighbours stands the depth at which they would be merged if the
list were halved again and again; before a new run is put on the stack, neighbours that belong
deeper than it are merged.

## Main definitions

* `Sorting.leastRun` — how long runs are made
* `Sorting.mergeDepth` — how deep two neighbouring runs belong
* `Sorting.sort` — the sorted list
-/

namespace Walkthrough.Sorting

variable {α ε : Type}

/-- The number of elements that runs of a list of `n` elements are filled up to: the number halved
until it is below 64, and one more if a half was lost on the way, or before as `lost` says. -/
def leastRun (n : Nat) (lost : Bool := false) : Nat :=
  if n < 64 then n + lost.toNat else leastRun (n / 2) (lost || n % 2 = 1)
termination_by n
decreasing_by omega

/-- How often a list of `n` elements must be halved until two neighbouring runs fall into different
parts; `left` and `right` are twice the middles of the runs. The first number bounds the result. -/
def mergeDepth (n : Nat) : Nat → Nat → Nat → Nat
  | 0, _, _ => 0
  | fuel + 1, left, right =>
    if n ≤ left then mergeDepth n fuel (2 * (left - n)) (2 * (right - n)) + 1
    else if n ≤ right then 1
    else mergeDepth n fuel (2 * left) (2 * right) + 1

/-- A run on the stack: where it begins, its elements, and how deep it belongs with the run before
it. -/
structure Waiting (α : Type) where
  start : Nat
  items : List α
  depth : Nat

/-- The runs that wait, the last first, and the patience of merging. -/
structure Stack (α : Type) where
  runs : List (Waiting α) := []
  patience : Nat := initialPatience

namespace Stack

/-- Merges the two runs on top. -/
def mergeTop (less : α → α → Except ε Bool) (stack : Stack α) : Except ε (Stack α) :=
  match stack.runs with
  | top :: below :: rest => do
    let (items, patience) ← mergeRuns less stack.patience below.items top.items
    return ⟨{ below with items } :: rest, patience⟩
  | _ => .ok stack

/-- Merges the two runs below the top. -/
def mergeBelow (less : α → α → Except ε Bool) (stack : Stack α) : Except ε (Stack α) :=
  match stack.runs with
  | top :: rest => do
    let merged ← mergeTop less { stack with runs := rest }
    return { merged with runs := top :: merged.runs }
  | _ => .ok stack

/-- Merges on top while the two runs there belong deeper than `depth`. The first number bounds the
merges. -/
def settle (less : α → α → Except ε Bool) (depth : Nat) : Nat → Stack α → Except ε (Stack α)
  | 0, stack => .ok stack
  | fuel + 1, stack =>
    match stack.runs with
    | top :: _ :: _ =>
      if depth < top.depth then do settle less depth fuel (← stack.mergeTop less) else .ok stack
    | _ => .ok stack

/-- Puts a run of a list of `n` elements on the stack. -/
def push (less : α → α → Except ε Bool) (n : Nat) (items : List α) (stack : Stack α) :
    Except ε (Stack α) :=
  match stack.runs with
  | [] => .ok { stack with runs := [⟨0, items, 0⟩] }
  | top :: _ => do
    let left := 2 * top.start + top.items.length
    let depth := mergeDepth n n left (left + top.items.length + items.length)
    let stack ← settle less depth stack.runs.length stack
    return { stack with runs := ⟨top.start + top.items.length, items, depth⟩ :: stack.runs }

/-- Merges all runs, the shorter neighbour of the middle one of three first. The first number bounds
the merges. -/
def collapse (less : α → α → Except ε Bool) : Nat → Stack α → Except ε (List α)
  | 0, stack => .ok (stack.runs.reverse.flatMap (·.items))
  | fuel + 1, stack =>
    match stack.runs with
    | top :: _ :: third :: _ =>
      if third.items.length < top.items.length then do
        collapse less fuel (← stack.mergeBelow less)
      else do collapse less fuel (← stack.mergeTop less)
    | _ :: _ :: _ => do collapse less fuel (← stack.mergeTop less)
    | runs => .ok (runs.flatMap (·.items))

end Stack

/-- Cuts what is left of a list of `n` elements into runs of at least `least` elements and puts
them on the stack. The first number bounds the runs. -/
def stackRuns (less : α → α → Except ε Bool) (n least : Nat) :
    Nat → Stack α → List α → Except ε (Stack α)
  | 0, stack, _ => .ok stack
  | _ + 1, stack, [] => .ok stack
  | fuel + 1, stack, x :: xs => do
    let (run, others) ← nextRun less least (x :: xs)
    stackRuns less n least fuel (← stack.push less n run) others

/-- The sorted list. -/
def sort (less : α → α → Except ε Bool) (xs : List α) : Except ε (List α) := do
  let stack ← stackRuns less xs.length (leastRun xs.length) xs.length {} xs
  stack.collapse less stack.runs.length

example :
    sort (fun m n => (.ok (decide (m < n)) : Except Unit Bool)) [3, 1, 2, 0] = .ok [0, 1, 2, 3] :=
  by cbv

end Walkthrough.Sorting
