/-!
# Searching from a hint

The place of a key among sorted elements is searched from a hint: in steps of growing width away
from it, until the place is passed, and then by halving what lies between the last two steps.

Comparisons may fail, and are made in a fixed sequence.

## Main definitions

* `Sorting.bisect` — searching by halving
* `Sorting.gallop` — searching from a hint
-/

namespace Walkthrough.Sorting

variable {α ε : Type}

/-- Whether the element at an index stays before the key; there is none beyond the end. -/
def staysBefore (before : α → Except ε Bool) (xs : Array α) (i : Nat) : Except ε Bool :=
  match xs[i]? with
  | some x => before x
  | none => .ok false

/-- The first index from `low` on, and before `high`, at which an element does not stay before the
key; or else `high`. The first number bounds the comparisons. -/
def bisect (before : α → Except ε Bool) (xs : Array α) : Nat → Nat → Nat → Except ε Nat
  | 0, low, _ => .ok low
  | fuel + 1, low, high =>
    if low < high then do
      let middle := low + (high - low) / 2
      if ← staysBefore before xs middle then bisect before xs fuel (middle + 1) high
      else bisect before xs fuel low middle
    else .ok low

/-- Steps of growing width while `further` holds, below a limit: the last width at which it held
and the width at which it did not, or the limit. The first number bounds the steps. -/
def stride (further : Nat → Except ε Bool) (limit : Nat) : Nat → Nat → Nat → Except ε (Nat × Nat)
  | 0, last, _ => .ok (last, limit)
  | fuel + 1, last, width =>
    if width < limit then do
      if ← further width then stride further limit fuel width (2 * width + 1)
      else return (last, width)
    else .ok (last, limit)

/-- The number of elements that stay before a key, searched from index `hint`. -/
def gallop (before : α → Except ε Bool) (xs : Array α) (hint : Nat) : Except ε Nat := do
  if ← staysBefore before xs hint then
    let (last, width) ←
      stride (fun width => staysBefore before xs (hint + width)) (xs.size - hint) xs.size 0 1
    bisect before xs xs.size (hint + last + 1) (hint + width)
  else
    let (last, width) ←
      stride (fun width => return !(← staysBefore before xs (hint - width))) (hint + 1) xs.size 0 1
    bisect before xs xs.size (hint + 1 - width) (hint - last)

example :
    gallop (fun x => (.ok (decide (x < 7)) : Except Unit Bool)) #[1, 3, 5, 7, 9] 0 = .ok 3 := rfl

example :
    gallop (fun x => (.ok (decide (x < 2)) : Except Unit Bool)) #[1, 3, 5, 7, 9] 4 = .ok 1 := rfl

end Walkthrough.Sorting
