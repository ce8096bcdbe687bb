import Mathlib.Algebra.Order.Group.Multiset
import Mathlib.Tactic.Abel
import Walkthrough.Sorting

/-!
# Sorting keeps the elements

Sorting moves elements about and loses none of them, whatever the comparison says. It need not be
consistent, and it may fail; only a list that comes out in the end is spoken of here.

Merging takes elements over from two runs to those that are done, in stretches that searching has
found. What is in the runs and what is done is counted together, as multisets, so that no place of
an element has to be followed.

## Why multisets

A state of merging has three parts: what is done, in reverse, and what is left of either run. An
element moves from a run to what is done, alone or in a stretch, and one round of searching moves
two stretches and two elements. Written with lists, each step of this would be a permutation of a
concatenation of three lists, with a different rearrangement each time. As multisets the three parts
are added up, each step is an equation in a commutative monoid, and `abel` closes it.

Outside of merging nothing is rearranged in so many ways, and the statements are about permutations
of lists again.

## What this says about the comparison

Nothing. The comparison may be inconsistent, and then the list that comes out is not sorted in any
sense; but it still has the elements of the list that went in. The only hypothesis is that sorting
did not fail.

## Main results

* `Sorting.coe_mergeFromFront`, `Sorting.coe_mergeFromEnd` — merging, in the two directions
* `Sorting.nextRun_perm` — cutting off a run
* `Sorting.sort_perm` — sorting
-/

namespace Walkthrough.Sorting

variable {α ε : Type} {less : α → α → Except ε Bool}

/-- What comes out of one step after another came out of both. -/
theorem bind_eq_ok {β γ : Type} {x : Except ε β} {f : β → Except ε γ} {c : γ} :
    (x >>= f) = .ok c ↔ ∃ b, x = .ok b ∧ f b = .ok c := by
  cases x with
  | error e =>
    constructor
    · intro h
      cases h
    · rintro ⟨b, hb, -⟩
      cases hb
  | ok b =>
    constructor
    · intro h
      exact ⟨b, rfl, h⟩
    · rintro ⟨b, ⟨⟩, hf⟩
      exact hf

/-! ### Merging

The invariant of both directions is the same: what is done and what is left of the runs, counted
together, is what there was in the beginning.
-/

/-- Concatenation adds up. -/
theorem coe_append (xs ys : List α) : ((xs ++ ys : List α) : Multiset α) = xs + ys :=
  (Multiset.coe_add xs ys).symm

/-- An element in front is one more of it. -/
theorem coe_cons (x : α) (xs : List α) : ((x :: xs : List α) : Multiset α) = {x} + xs :=
  (Multiset.singleton_add x xs).symm

/-- Taking the first elements of a run over to those that are done moves them, and no more. -/
theorem coe_take_over (n : Nat) (xs done : List α) :
    (((xs.take n).reverse ++ done : List α) : Multiset α) + xs.drop n = done + xs := by
  rw [coe_append, Multiset.coe_reverse, add_right_comm, Multiset.coe_add, List.take_append_drop,
    add_comm]

/-- The same for the right run, behind an element of it that is done already. -/
theorem coe_runs_eq_take_over (n : Nat) (a b : α) (as bs done : List α) :
    (done + (a :: as : List α) + (b :: bs : List α) : Multiset α) =
      {a} + as + (((bs.take n).reverse ++ b :: done : List α) + bs.drop n) := by
  rw [coe_take_over, coe_cons, coe_cons, coe_cons]
  abel

/-- Merging from the front keeps the elements of both runs. By induction on the fuel, and cases on
the pace and on what is left of the runs. -/
theorem coe_mergeFromFront {fuel : Nat} {pace : Pace} {patience left : Nat}
    {done as bs merged : List α}
    (h : mergeFromFront less fuel pace patience done as bs = .ok (merged, left)) :
    (merged : Multiset α) = done + as + bs := by
  induction fuel generalizing pace patience done as bs with
  | zero =>
    cases h
    simp only [coe_append, Multiset.coe_reverse]
  | succ fuel ih =>
    cases bs with
    | nil =>
      cases pace <;> cases as
      all_goals
        cases h
        simp only [coe_append, Multiset.coe_reverse]
    | cons b bs =>
      cases pace with
      | single fromLeft fromRight =>
        cases as with
        | nil =>
          cases h
          simp only [coe_append, Multiset.coe_reverse]
        | cons a as =>
          rw [mergeFromFront] at h
          obtain ⟨smaller, -, h⟩ := bind_eq_ok.1 h
          split at h
          · split at h
            · rename_i hbs
              cases h
              rw [List.isEmpty_iff.1 hbs]
              simp only [coe_append, coe_cons, Multiset.coe_reverse, Multiset.coe_nil]
              abel
            · rw [ih h, coe_cons, coe_cons b bs]
              abel
          · split at h
            · cases h
              simp only [coe_append, coe_cons, Multiset.coe_reverse]
              abel
            · rw [ih h, coe_cons, coe_cons a as]
              abel
      | galloping =>
        rw [mergeFromFront] at h
        obtain ⟨fromLeft, -, h⟩ := bind_eq_ok.1 h
        dsimp only at h
        -- only what is done and what is left of the left run matters from here on
        rw [← coe_take_over fromLeft as done]
        generalize (as.take fromLeft).reverse ++ done = done at h ⊢
        generalize as.drop fromLeft = as at h ⊢
        split at h
        · rename_i has
          cases h
          rw [List.length_eq_zero_iff.1 has]
          simp only [coe_append, Multiset.coe_reverse, Multiset.coe_nil]
          abel
        split at h
        · cases h
          simp only [coe_append, Multiset.coe_reverse]
          abel
        split at h
        · rename_i hbs
          cases h
          rw [List.isEmpty_iff.1 hbs]
          simp only [coe_append, coe_cons, Multiset.coe_reverse, Multiset.coe_nil]
          abel
        cases as with
        | nil => contradiction
        | cons a as =>
          obtain ⟨fromRight, -, h⟩ := bind_eq_ok.1 h
          rw [coe_runs_eq_take_over fromRight]
          generalize (bs.take fromRight).reverse ++ b :: done = done at h ⊢
          generalize bs.drop fromRight = bs at h ⊢
          split at h
          · rename_i hbs
            cases h
            rw [List.isEmpty_iff.1 hbs]
            simp only [coe_append, coe_cons, Multiset.coe_reverse, Multiset.coe_nil]
            abel
          split at h
          · cases h
            simp only [coe_append, coe_cons, Multiset.coe_reverse]
            abel
          · rw [ih h, coe_cons]
            abel

/-- Merging from the end keeps the elements of both runs. The runs are read from the other end, and
`done` is what stands behind them. Counted as multisets this makes no difference. -/
theorem coe_mergeFromEnd {fuel : Nat} {pace : Pace} {patience left : Nat}
    {done as bs merged : List α}
    (h : mergeFromEnd less fuel pace patience done as bs = .ok (merged, left)) :
    (merged : Multiset α) = done + as + bs := by
  induction fuel generalizing pace patience done as bs with
  | zero =>
    cases h
    simp only [coe_append, Multiset.coe_reverse]
    abel
  | succ fuel ih =>
    cases bs with
    | nil =>
      cases pace <;> cases as
      all_goals
        cases h
        simp only [coe_append, Multiset.coe_reverse]
        abel
    | cons b bs =>
      cases pace with
      | single fromLeft fromRight =>
        cases as with
        | nil =>
          cases h
          simp only [coe_append, Multiset.coe_reverse]
          abel
        | cons a as =>
          rw [mergeFromEnd] at h
          obtain ⟨smaller, -, h⟩ := bind_eq_ok.1 h
          split at h
          · split at h
            · rename_i has
              cases h
              rw [List.isEmpty_iff.1 has]
              simp only [coe_append, coe_cons, Multiset.coe_reverse, Multiset.coe_nil]
              abel
            · rw [ih h, coe_cons, coe_cons a as]
              abel
          · split at h
            · cases h
              simp only [coe_append, coe_cons, Multiset.coe_reverse]
              abel
            · rw [ih h, coe_cons, coe_cons b bs]
              abel
      | galloping =>
        rw [mergeFromEnd] at h
        obtain ⟨stay, -, h⟩ := bind_eq_ok.1 h
        dsimp only at h
        -- the same, with the stretch counted from the other end
        rw [← coe_take_over (as.length - stay) as done]
        generalize as.length - stay = fromLeft at h ⊢
        generalize (as.take fromLeft).reverse ++ done = done at h ⊢
        generalize as.drop fromLeft = as at h ⊢
        split at h
        · rename_i has
          cases h
          rw [List.isEmpty_iff.1 has]
          simp only [coe_append, Multiset.coe_reverse, Multiset.coe_nil]
          abel
        split at h
        · cases h
          simp only [coe_append, coe_cons, Multiset.coe_reverse]
          abel
        cases as with
        | nil => contradiction
        | cons a as =>
          obtain ⟨stay, -, h⟩ := bind_eq_ok.1 h
          rw [coe_runs_eq_take_over (bs.length - stay)]
          generalize bs.length - stay = fromRight at h ⊢
          generalize (bs.take fromRight).reverse ++ b :: done = done at h ⊢
          generalize bs.drop fromRight = bs at h ⊢
          split at h
          · rename_i hbs
            cases h
            rw [List.length_eq_zero_iff.1 hbs]
            simp only [coe_append, coe_cons, Multiset.coe_reverse, Multiset.coe_nil]
            abel
          split at h
          · cases h
            simp only [coe_append, coe_cons, Multiset.coe_reverse]
            abel
          split at h
          · rename_i has
            cases h
            rw [List.isEmpty_iff.1 has]
            simp only [coe_append, coe_cons, Multiset.coe_reverse, Multiset.coe_nil]
            abel
          · rw [ih h, coe_cons]
            abel

/-- The direction of merging makes no difference to what is counted. -/
theorem mergeOverlap_perm {patience left : Nat} {as bs merged : List α}
    (h : mergeOverlap less patience as bs = .ok (merged, left)) : merged.Perm (as ++ bs) := by
  unfold mergeOverlap at h
  dsimp only at h
  split at h
  · split at h
    · cases h
      rw [List.append_nil]
    · rename_i b bs _
      split at h
      · cases h
        exact List.perm_append_comm
      · have hmerged := coe_mergeFromFront h
        rw [← Multiset.coe_eq_coe, hmerged, coe_append, coe_cons b bs, coe_cons, Multiset.coe_nil]
        abel
  · split at h
    · rename_i has
      cases h
      rw [List.reverse_eq_nil_iff.1 has, List.nil_append]
    · rename_i a rest has
      split at h
      · cases h
        exact List.perm_append_comm
      · have hmerged := coe_mergeFromEnd h
        have hleft : (as : Multiset α) = {a} + rest := by
          rw [← Multiset.coe_reverse, has, coe_cons]
        rw [← Multiset.coe_eq_coe, hmerged, coe_append, hleft, coe_cons, Multiset.coe_reverse,
          Multiset.coe_nil]
        abel

/-- Two runs are merged into one with the elements of both. -/
theorem mergeRuns_perm {patience left : Nat} {as bs merged : List α}
    (h : mergeRuns less patience as bs = .ok (merged, left)) : merged.Perm (as ++ bs) := by
  rw [mergeRuns] at h
  split at h
  · obtain ⟨placed, -, h⟩ := bind_eq_ok.1 h
    split at h
    · cases h
      exact .refl _
    obtain ⟨overlap, -, h⟩ := bind_eq_ok.1 h
    split at h
    · cases h
      rw [List.take_append_drop]
    obtain ⟨⟨middle, _⟩, hmiddle, h⟩ := bind_eq_ok.1 h
    cases h
    calc (as.take placed ++ middle ++ bs.drop overlap).Perm
          (as.take placed ++ (as.drop placed ++ bs.take overlap) ++ bs.drop overlap) :=
          ((mergeOverlap_perm hmiddle).append_left _).append_right _
      _ = as ++ bs := by
          rw [List.append_assoc, List.append_assoc, List.take_append_drop, ← List.append_assoc,
            List.take_append_drop]
  · cases h
    exact .refl _

/-! ### Runs of a list

A list is cut in two, a run and what follows it. A run that descends is turned round, and a short
one takes up elements from behind. Nothing gets lost between the two.
-/

/-- A run that is split off begins with the first element, and what follows the run is the rest. -/
theorem exists_of_splitRun {descending : Bool} {x : α} {xs run others : List α}
    (h : splitRun less descending x xs = .ok (run, others)) :
    ∃ tail, run = x :: tail ∧ tail ++ others = xs := by
  induction xs generalizing x run with
  | nil =>
    cases h
    exact ⟨[], rfl, rfl⟩
  | cons y rest ih =>
    rw [splitRun] at h
    obtain ⟨smaller, -, h⟩ := bind_eq_ok.1 h
    split at h
    · obtain ⟨⟨run, _⟩, hrun, h⟩ := bind_eq_ok.1 h
      cases h
      obtain ⟨tail, rfl, rfl⟩ := ih hrun
      exact ⟨y :: tail, rfl, rfl⟩
    · cases h
      exact ⟨[], rfl, rfl⟩

/-- The run at the front of a list and what follows it are the list, and the run is not empty
unless the list is. -/
theorem frontRun_perm {xs run others : List α} (h : frontRun less xs = .ok (run, others)) :
    (run ++ others).Perm xs ∧ (xs ≠ [] → run ≠ []) := by
  unfold frontRun at h
  split at h
  · cases h
    exact ⟨.refl _, id⟩
  · cases h
    exact ⟨.refl _, id⟩
  · rename_i x y rest
    obtain ⟨descending, -, h⟩ := bind_eq_ok.1 h
    obtain ⟨⟨run, _⟩, hrun, h⟩ := bind_eq_ok.1 h
    cases h
    obtain ⟨tail, rfl, rfl⟩ := exists_of_splitRun hrun
    split
    · exact ⟨(List.reverse_perm _).append_right _, fun _ => by simp⟩
    · exact ⟨.refl _, fun _ => List.cons_ne_nil _ _⟩

/-- The two parts that a list is split into are the list. -/
theorem append_of_place {after : α → Except ε Bool} {fuel : Nat} {xs front back : List α}
    (h : place after fuel xs = .ok (front, back)) : front ++ back = xs := by
  induction fuel generalizing xs front back with
  | zero =>
    cases h
    rfl
  | succ fuel ih =>
    unfold place at h
    dsimp only at h
    split at h
    · rename_i hdrop
      cases h
      have hlength := List.drop_eq_nil_iff.1 hdrop
      exact (List.eq_nil_of_length_eq_zero (by omega)).symm
    · rename_i x behind hdrop
      have hsplit : xs.take (xs.length / 2) ++ x :: behind = xs := by
        rw [← hdrop, List.take_append_drop]
      obtain ⟨after, -, h⟩ := bind_eq_ok.1 h
      split at h
      · obtain ⟨⟨front, back⟩, hplace, h⟩ := bind_eq_ok.1 h
        cases h
        rw [← List.append_assoc, ih hplace, hsplit]
      · obtain ⟨⟨front, back⟩, hplace, h⟩ := bind_eq_ok.1 h
        cases h
        rw [List.append_assoc, List.cons_append, ih hplace, hsplit]

/-- An element is put between two parts of a run. -/
theorem insert_perm {sorted inserted : List α} {x : α}
    (h : insert less sorted x = .ok inserted) : inserted.Perm (sorted ++ [x]) := by
  obtain ⟨⟨front, back⟩, hplace, h⟩ := bind_eq_ok.1 h
  cases h
  rw [← append_of_place hplace]
  exact List.perm_middle.trans (List.perm_append_singleton x _).symm

/-- By induction on the elements that are put in, with the run generalized. -/
theorem foldlM_insert_perm {sorted inserted xs : List α}
    (h : xs.foldlM (insert less) sorted = .ok inserted) : inserted.Perm (sorted ++ xs) := by
  induction xs generalizing sorted with
  | nil =>
    cases h
    rw [List.append_nil]
  | cons x xs ih =>
    rw [List.foldlM_cons] at h
    obtain ⟨next, hnext, h⟩ := bind_eq_ok.1 h
    rw [List.append_cons]
    exact (ih h).trans ((insert_perm hnext).append_right _)

/-- A run that is filled up and what follows it are the list, and something is left of it only if
the run is not empty. -/
theorem nextRun_perm {least : Nat} {xs run others : List α}
    (h : nextRun less least xs = .ok (run, others)) :
    (run ++ others).Perm xs ∧ (xs ≠ [] → others.length < xs.length) := by
  obtain ⟨⟨front, rest⟩, hfront, h⟩ := bind_eq_ok.1 h
  obtain ⟨filled, hfilled, h⟩ := bind_eq_ok.1 h
  cases h
  obtain ⟨hperm, hne⟩ := frontRun_perm hfront
  have hall : (run ++ rest.drop (least - front.length)).Perm xs := by
    have hrun := (foldlM_insert_perm hfilled).append_right (rest.drop (least - front.length))
    rw [List.append_assoc, List.take_append_drop] at hrun
    exact hrun.trans hperm
  refine ⟨hall, fun hxs => ?_⟩
  have hlength := hperm.length_eq
  have hpos := List.length_pos_iff.2 (hne hxs)
  rw [List.length_append] at hlength
  rw [List.length_drop]
  omega

/-! ### Runs that wait

Only neighbours are merged, and the runs wait in the order in which they were cut off. Their
elements, taken together, are counted as one list.
-/

namespace Stack

/-- The elements of the runs that wait. -/
def elements (stack : Stack α) : List α := stack.runs.flatMap (·.items)

/-- The two runs on top become one. -/
theorem mergeTop_perm {stack merged : Stack α} (h : stack.mergeTop less = .ok merged) :
    merged.elements.Perm stack.elements := by
  unfold mergeTop at h
  split at h
  · rename_i top below rest hruns
    obtain ⟨⟨items, patience⟩, hitems, h⟩ := bind_eq_ok.1 h
    cases h
    simp only [elements, hruns, List.flatMap_cons, ← List.append_assoc]
    exact ((mergeRuns_perm hitems).trans List.perm_append_comm).append_right _
  · cases h
    exact .refl _

/-- The two runs below the top become one, and the top stays where it is. -/
theorem mergeBelow_perm {stack merged : Stack α} (h : stack.mergeBelow less = .ok merged) :
    merged.elements.Perm stack.elements := by
  unfold mergeBelow at h
  split at h
  · rename_i top rest hruns
    obtain ⟨below, hbelow, h⟩ := bind_eq_ok.1 h
    cases h
    simp only [elements, hruns, List.flatMap_cons]
    exact (mergeTop_perm hbelow).append_left _
  · cases h
    exact .refl _

/-- By induction on the fuel: each round merges two runs, or stops. -/
theorem settle_perm {depth fuel : Nat} {stack settled : Stack α}
    (h : settle less depth fuel stack = .ok settled) : settled.elements.Perm stack.elements := by
  induction fuel generalizing stack with
  | zero =>
    cases h
    exact .refl _
  | succ fuel ih =>
    unfold settle at h
    split at h
    · split at h
      · obtain ⟨merged, hmerged, h⟩ := bind_eq_ok.1 h
        exact (ih h).trans (mergeTop_perm hmerged)
      · cases h
        exact .refl _
    · cases h
      exact .refl _

/-- A run comes to those that wait, after some of them have been merged. -/
theorem push_perm {n : Nat} {items : List α} {stack pushed : Stack α}
    (h : stack.push less n items = .ok pushed) :
    pushed.elements.Perm (stack.elements ++ items) := by
  unfold push at h
  split at h
  · rename_i hruns
    cases h
    simp [elements, hruns]
  · obtain ⟨settled, hsettled, h⟩ := bind_eq_ok.1 h
    cases h
    simp only [elements, List.flatMap_cons]
    exact List.perm_append_comm.trans ((settle_perm hsettled).append_right _)

/-- All runs are merged into one in the end. -/
theorem collapse_perm {fuel : Nat} {stack : Stack α} {xs : List α}
    (h : stack.collapse less fuel = .ok xs) : xs.Perm stack.elements := by
  induction fuel generalizing stack with
  | zero =>
    cases h
    exact (List.reverse_perm _).flatMap_right _
  | succ fuel ih =>
    unfold collapse at h
    split at h
    · split at h
      · obtain ⟨merged, hmerged, h⟩ := bind_eq_ok.1 h
        exact (ih h).trans (mergeBelow_perm hmerged)
      · obtain ⟨merged, hmerged, h⟩ := bind_eq_ok.1 h
        exact (ih h).trans (mergeTop_perm hmerged)
    · obtain ⟨merged, hmerged, h⟩ := bind_eq_ok.1 h
      exact (ih h).trans (mergeTop_perm hmerged)
    · cases h
      exact .refl _

end Stack

/-- By induction on the fuel, which lasts because each run takes something from the list. -/
theorem stackRuns_perm {n least fuel : Nat} {stack stacked : Stack α} {xs : List α}
    (hfuel : xs.length ≤ fuel) (h : stackRuns less n least fuel stack xs = .ok stacked) :
    stacked.elements.Perm (stack.elements ++ xs) := by
  induction fuel generalizing stack xs with
  | zero =>
    cases h
    rw [List.eq_nil_of_length_eq_zero (Nat.le_zero.1 hfuel), List.append_nil]
  | succ fuel ih =>
    cases xs with
    | nil =>
      cases h
      rw [List.append_nil]
    | cons x xs =>
      rw [stackRuns] at h
      obtain ⟨⟨run, others⟩, hrun, h⟩ := bind_eq_ok.1 h
      obtain ⟨pushed, hpushed, h⟩ := bind_eq_ok.1 h
      obtain ⟨hperm, hlt⟩ := nextRun_perm hrun
      have hothers := hlt (List.cons_ne_nil x xs)
      refine (ih (by omega) h).trans (((Stack.push_perm hpushed).append_right _).trans ?_)
      rw [List.append_assoc]
      exact hperm.append_left _

/-- **Sorting keeps the elements**, each as often as it was there. The runs that are cut off and
merged are followed from the empty stack to the one list in the end. -/
theorem sort_perm {xs sorted : List α} (h : sort less xs = .ok sorted) : sorted.Perm xs := by
  obtain ⟨stack, hstack, h⟩ := bind_eq_ok.1 h
  exact (Stack.collapse_perm h).trans (stackRuns_perm (Nat.le_refl _) hstack)

end Walkthrough.Sorting
