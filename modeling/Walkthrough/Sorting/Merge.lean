import Walkthrough.Sorting.Search

/-!
# Merging sorted runs

Two runs that stand side by side are merged into one, elements of the left run before equal ones of
the right run. What is in its place already, at the front of the left run and at the end of the
right run, is found by searching and left there. The rest is merged from the front if the left
run is the shorter, and else from the end.

Elements are compared one by one until one run has given so many of them in succession that it
pays to search for the place of the other run's next element instead. How many that must be is the
patience; it sinks as long as searching pays, and rises when it does not, from one merge to the
next.

Comparisons may fail, and are made in a fixed sequence. They need not be consistent either: the
result holds the elements of both runs in any case.

## Main definitions

* `Sorting.mergeFromFront`, `Sorting.mergeFromEnd` — the two directions
* `Sorting.mergeRuns` — two runs merged
-/

namespace Walkthrough.Sorting

variable {α ε : Type}

/-- The patience with which sorting begins; also how many elements a search must gain to pay. -/
def initialPatience : Nat := 7

/-- How elements are being taken. -/
inductive Pace
  /-- One by one, with the number taken from the left and from the right in succession. -/
  | single (left right : Nat)
  /-- As many at once as searching finds. -/
  | galloping

/-- The pace after an element was taken, and the patience that goes with it. -/
def Pace.next (left right patience : Nat) : Pace × Nat :=
  if patience ≤ max left right then (.galloping, patience + 1) else (.single left right, patience)

/-- The pace after a round of searching, and the patience that goes with it. -/
def Pace.afterSearch (gained patience : Nat) : Pace × Nat :=
  if initialPatience ≤ gained then (.galloping, patience) else (.single 0 0, patience + 1)

/-- The patience while searching pays. -/
def lessPatience (patience : Nat) : Nat := if 1 < patience then patience - 1 else patience

/-- Merges from the front what is left of two runs. The elements merged so far are `done`, the last
of them first; the left run has at least two elements and the right run has one. The result comes
with the patience that is left. The first number bounds the rounds. -/
def mergeFromFront (less : α → α → Except ε Bool) :
    Nat → Pace → Nat → List α → List α → List α → Except ε (List α × Nat)
  | fuel + 1, .single left right, patience, done, a :: as, b :: bs => do
    if ← less b a then
      if bs.isEmpty then return ((b :: done).reverse ++ a :: as, patience)
      let (pace, patience) := Pace.next 0 (right + 1) patience
      mergeFromFront less fuel pace patience (b :: done) (a :: as) bs
    else if as.length = 1 then return ((a :: done).reverse ++ b :: bs ++ as, patience)
    else
      let (pace, patience) := Pace.next (left + 1) 0 patience
      mergeFromFront less fuel pace patience (a :: done) as (b :: bs)
  | fuel + 1, .galloping, patience, done, as, b :: bs => do
    let patience := lessPatience patience
    let fromLeft ← gallop (fun a => return !(← less b a)) as.toArray 0
    let done := (as.take fromLeft).reverse ++ done
    let as := as.drop fromLeft
    if as.length = 0 then return (done.reverse ++ b :: bs, patience)
    else if fromLeft ≠ 0 ∧ as.length = 1 then return (done.reverse ++ b :: bs ++ as, patience)
    else if bs.isEmpty then return ((b :: done).reverse ++ as, patience)
    else
      match as with
      | [] => return ((b :: done).reverse ++ bs, patience)
      | a :: as =>
        let fromRight ← gallop (fun b => less b a) bs.toArray 0
        let done := (bs.take fromRight).reverse ++ b :: done
        let bs := bs.drop fromRight
        if bs.isEmpty then return (done.reverse ++ a :: as, patience)
        else if as.length = 1 then return ((a :: done).reverse ++ bs ++ as, patience)
        else
          let (pace, patience) := Pace.afterSearch (max fromLeft fromRight) patience
          mergeFromFront less fuel pace patience (a :: done) as bs
  | _, _, patience, done, as, bs => .ok (done.reverse ++ as ++ bs, patience)

/-- Merges from the end what is left of two runs, both with the last element first. The elements
merged so far are `done`; the right run has at least two elements and the left run has one. The
result comes with the patience that is left. The first number bounds the rounds. -/
def mergeFromEnd (less : α → α → Except ε Bool) :
    Nat → Pace → Nat → List α → List α → List α → Except ε (List α × Nat)
  | fuel + 1, .single left right, patience, done, a :: as, b :: bs => do
    if ← less b a then
      if as.isEmpty then return ((b :: bs).reverse ++ a :: done, patience)
      let (pace, patience) := Pace.next (left + 1) 0 patience
      mergeFromEnd less fuel pace patience (a :: done) as (b :: bs)
    else if bs.length = 1 then return (bs ++ (a :: as).reverse ++ b :: done, patience)
    else
      let (pace, patience) := Pace.next 0 (right + 1) patience
      mergeFromEnd less fuel pace patience (b :: done) (a :: as) bs
  | fuel + 1, .galloping, patience, done, as, b :: bs => do
    let patience := lessPatience patience
    let stay ← gallop (fun a => return !(← less b a)) as.reverse.toArray (as.length - 1)
    let fromLeft := as.length - stay
    let done := (as.take fromLeft).reverse ++ done
    let as := as.drop fromLeft
    if as.isEmpty then return ((b :: bs).reverse ++ done, patience)
    else if bs.length = 1 then return (bs ++ as.reverse ++ b :: done, patience)
    else
      match as with
      | [] => return (bs.reverse ++ b :: done, patience)
      | a :: as =>
        let stay ← gallop (fun b => less b a) bs.reverse.toArray (bs.length - 1)
        let fromRight := bs.length - stay
        let done := (bs.take fromRight).reverse ++ b :: done
        let bs := bs.drop fromRight
        if bs.length = 0 then return ((a :: as).reverse ++ done, patience)
        else if fromRight ≠ 0 ∧ bs.length = 1 then
          return (bs ++ (a :: as).reverse ++ done, patience)
        else if as.isEmpty then return (bs.reverse ++ a :: done, patience)
        else
          let (pace, patience) := Pace.afterSearch (max fromLeft fromRight) patience
          mergeFromEnd less fuel pace patience (a :: done) as bs
  | _, _, patience, done, as, bs => .ok (as.reverse ++ bs.reverse ++ done, patience)

/-- Merges two runs of which neither is empty, the first of the right run smaller than all of the
left run and the last of the left run greater than all of the right run. -/
def mergeOverlap (less : α → α → Except ε Bool) (patience : Nat) (as bs : List α) :
    Except ε (List α × Nat) :=
  let rounds := as.length + bs.length
  if as.length ≤ bs.length then
    match bs with
    | [] => .ok (as, patience)
    | b :: bs =>
      if bs.isEmpty ∨ as.length = 1 then .ok (b :: bs ++ as, patience)
      else mergeFromFront less rounds (.single 0 0) patience [b] as bs
  else
    match as.reverse with
    | [] => .ok (bs, patience)
    | a :: rest =>
      if rest.isEmpty ∨ bs.length = 1 then .ok (bs ++ as, patience)
      else mergeFromEnd less rounds (.single 0 0) patience [a] rest bs.reverse

/-- Merges two runs. The result comes with the patience that is left. -/
def mergeRuns (less : α → α → Except ε Bool) (patience : Nat) (as bs : List α) :
    Except ε (List α × Nat) :=
  match bs.head?, as.getLast? with
  | some b, some a => do
    let placed ← gallop (fun x => return !(← less b x)) as.toArray 0
    if placed = as.length then return (as ++ bs, patience)
    let overlap ← gallop (fun y => less y a) bs.toArray (bs.length - 1)
    if overlap = 0 then return (as.take placed ++ as.drop placed ++ bs, patience)
    let (merged, patience) ← mergeOverlap less patience (as.drop placed) (bs.take overlap)
    return (as.take placed ++ merged ++ bs.drop overlap, patience)
  | _, _ => .ok (as ++ bs, patience)

end Walkthrough.Sorting
