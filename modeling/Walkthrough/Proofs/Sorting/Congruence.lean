import Walkthrough.Proofs.Sorting.Permutation

/-!
# Sorting asks about the elements only

What comes out of sorting depends on the comparisons of the elements that are sorted, and on no
others. Two comparisons that agree on the elements of a list sort it alike, or fail alike; and a
fault of sorting is a fault of one of these comparisons.

Both are said at once: outcomes agree if they are the same, and their fault, if they have one, is
subject to `F`.

## Why it is not a matter of course

Sorting is given a comparison, and may ask it about anything. That it asks about the elements of the
list alone is a property of the algorithm, and has to be shown for each part of it: for searching in
a run, for merging two runs, for cutting off a run, for filling it up. In each part the elements at
hand are among those of the list, since the parts before have only moved them about. This is where
the lemmas on permutations come in: what is subject to `P` stays so under them.

A comparison may fail, and sorting stops with its fault then. The condition `F` on faults is carried
along because the comparisons of two stores may fail with faults that are equal but are worded by
looking things up in the store. Knowing that a fault is of the harmless sort, a caller may go on to
conclude that it is reported alike.

## How to use it

A caller shows that its two comparisons agree on what is subject to some `P`, and that all elements
are. `Sorting.sort_agree` does the rest. Other recursions over outcomes than sorting use `Agree` as
well, by `Agree.bind` and `Agree.mapM`.

## Main definitions

* `Agree` — outcomes that are the same, with a fault that is subject to a condition

## Main results

* `Sorting.sort_agree` — sorting by comparisons that agree
-/

namespace Walkthrough

variable {α β ε : Type} {F : ε → Prop}

/-- Two outcomes are the same, and their fault is subject to `F`.

Equality alone would do for what comes out. The condition on faults is kept beside it since it is
wanted wherever the equality is, and is shown by the same induction. -/
structure Agree (F : ε → Prop) (x y : Except ε α) : Prop where
  eq : x = y
  fault : ∀ e, x = .error e → F e

namespace Agree

/-- Outcomes that are a success need no condition. -/
theorem ok (a : α) : Agree F (.ok a) (.ok a) := ⟨rfl, fun _ h => by cases h⟩

theorem error {e : ε} (h : F e) : Agree F (.error e : Except ε α) (.error e) :=
  ⟨rfl, fun _ h' => by cases h'; exact h⟩

/-- **One thing after the other.** -/
theorem bind {x y : Except ε α} {f g : α → Except ε β} (h : Agree F x y)
    (hfg : ∀ a, x = .ok a → Agree F (f a) (g a)) : Agree F (x >>= f) (y >>= g) := by
  obtain ⟨rfl, hfault⟩ := h
  cases x with
  | error e => exact error (hfault e rfl)
  | ok a => exact hfg a rfl

/-- **One thing for each element**, by induction on the list. It stops at the first fault. -/
theorem mapM {f g : α → Except ε β} {xs : List α} (h : ∀ x ∈ xs, Agree F (f x) (g x)) :
    Agree F (xs.mapM f) (xs.mapM g) := by
  induction xs with
  | nil => exact ok []
  | cons x rest ih =>
    rw [List.forall_mem_cons] at h
    rw [List.mapM_cons, List.mapM_cons]
    exact h.1.bind fun y _ => (ih h.2).bind fun ys _ => ok (y :: ys)

end Agree

namespace Sorting

/-! ### Searching

A search is given a question about one element, whether it goes before the place that is looked for.
It asks about elements of the run that is searched. The array may be read beyond its end, where
nothing is asked; so a hint that is too large does no harm here.
-/

section Searching

variable {before before' : α → Except ε Bool} {xs : Array α}

theorem staysBefore_agree (h : ∀ x ∈ xs, Agree F (before x) (before' x)) (i : Nat) :
    Agree F (staysBefore before xs i) (staysBefore before' xs i) := by
  unfold staysBefore
  split
  · rename_i x hx
    exact h x (Array.mem_of_getElem? hx)
  · exact .ok false

/-- By induction on the fuel: each round asks about one element in the middle. -/
theorem bisect_agree (h : ∀ x ∈ xs, Agree F (before x) (before' x)) (fuel low high : Nat) :
    Agree F (bisect before xs fuel low high) (bisect before' xs fuel low high) := by
  induction fuel generalizing low high with
  | zero => exact .ok low
  | succ fuel ih =>
    rw [bisect, bisect]
    split
    · refine (staysBefore_agree h _).bind fun stays _ => ?_
      split <;> exact ih _ _
    · exact .ok low

/-- The question about a distance fails only as the question about the element there does. -/
theorem stride_agree {further further' : Nat → Except ε Bool}
    (h : ∀ i, Agree F (further i) (further' i)) (limit fuel last width : Nat) :
    Agree F (stride further limit fuel last width) (stride further' limit fuel last width) := by
  induction fuel generalizing last width with
  | zero => exact .ok (last, limit)
  | succ fuel ih =>
    rw [stride, stride]
    split
    · refine (h width).bind fun holds _ => ?_
      split
      · exact ih _ _
      · exact .ok (last, width)
    · exact .ok (last, limit)

/-- **A search** from a hint: strides in one direction, and then between the last two. -/
theorem gallop_agree (h : ∀ x ∈ xs, Agree F (before x) (before' x)) (hint : Nat) :
    Agree F (gallop before xs hint) (gallop before' xs hint) := by
  unfold gallop
  refine (staysBefore_agree h hint).bind fun stays _ => ?_
  split
  · refine (stride_agree (fun width => staysBefore_agree h _) _ _ _ _).bind fun found _ => ?_
    exact bisect_agree h _ _ _
  · refine (stride_agree (fun width => ?_) _ _ _ _).bind fun found _ => bisect_agree h _ _ _
    exact (staysBefore_agree h _).bind fun stays _ => .ok (!stays)

end Searching

/-! ### Merging

Merging takes stretches over from either run in turn. What is left in the runs are elements of the
runs, so that the hypotheses about them hold again in the next round.
-/

variable {P : α → Prop} {less less' : α → α → Except ε Bool}

/-- Two comparisons agree on what is subject to `P`. -/
def AgreeOn (F : ε → Prop) (P : α → Prop) (less less' : α → α → Except ε Bool) : Prop :=
  ∀ x y, P x → P y → Agree F (less x y) (less' x y)

section Merging

variable (h : AgreeOn F P less less')

include h

/-- The place of an element of the right run in the left run. -/
theorem gallop_left_agree {as : List α} {b : α} (has : ∀ a ∈ as, P a) (hb : P b) (hint : Nat) :
    Agree F (gallop (fun a => return !(← less b a)) as.toArray hint)
      (gallop (fun a => return !(← less' b a)) as.toArray hint) :=
  gallop_agree (fun a ha =>
    (h b a hb (has a (List.mem_toArray.1 ha))).bind fun smaller _ => .ok (!smaller)) hint

/-- The place of an element of the left run in the right run. -/
theorem gallop_right_agree {bs : List α} {a : α} (hbs : ∀ b ∈ bs, P b) (ha : P a) (hint : Nat) :
    Agree F (gallop (fun b => less b a) bs.toArray hint)
      (gallop (fun b => less' b a) bs.toArray hint) :=
  gallop_agree (fun b hb => h b a (hbs b (List.mem_toArray.1 hb)) ha) hint

/-- By induction on the fuel, along the two paces: element by element, and in stretches. -/
theorem mergeFromFront_agree (fuel : Nat) (pace : Pace) (patience : Nat) {done as bs : List α}
    (has : ∀ a ∈ as, P a) (hbs : ∀ b ∈ bs, P b) :
    Agree F (mergeFromFront less fuel pace patience done as bs)
      (mergeFromFront less' fuel pace patience done as bs) := by
  induction fuel generalizing pace patience done as bs with
  | zero => exact .ok _
  | succ fuel ih =>
    cases bs with
    | nil => cases pace <;> cases as <;> exact .ok _
    | cons b bs =>
      have hb := hbs b List.mem_cons_self
      have hrest : ∀ b ∈ bs, P b := fun b hb => hbs b (List.mem_cons_of_mem _ hb)
      cases pace with
      | single fromLeft fromRight =>
        cases as with
        | nil => exact .ok _
        | cons a as =>
          rw [mergeFromFront, mergeFromFront]
          refine (h b a hb (has a List.mem_cons_self)).bind fun smaller _ => ?_
          split
          · split
            · exact .ok _
            · exact ih _ _ has hrest
          · split
            · exact .ok _
            · exact ih _ _ (fun a ha => has a (List.mem_cons_of_mem _ ha)) hbs
      | galloping =>
        rw [mergeFromFront, mergeFromFront]
        refine (gallop_left_agree h has hb 0).bind fun fromLeft _ => ?_
        dsimp only
        have hleft : ∀ a ∈ as.drop fromLeft, P a := fun a ha => has a (List.mem_of_mem_drop ha)
        generalize (as.take fromLeft).reverse ++ done = done
        generalize as.drop fromLeft = as at hleft ⊢
        split
        · exact .ok _
        split
        · exact .ok _
        split
        · exact .ok _
        cases as with
        | nil => exact .ok _
        | cons a as =>
          refine (gallop_right_agree h hrest (hleft a List.mem_cons_self) 0).bind fun fromRight _ => ?_
          split
          · exact .ok _
          split
          · exact .ok _
          · exact ih _ _ (fun a ha => hleft a (List.mem_cons_of_mem _ ha))
              fun b hb => hrest b (List.mem_of_mem_drop hb)

/-- The same from the other end. A run is turned round for searching, which keeps its elements. -/
theorem mergeFromEnd_agree (fuel : Nat) (pace : Pace) (patience : Nat) {done as bs : List α}
    (has : ∀ a ∈ as, P a) (hbs : ∀ b ∈ bs, P b) :
    Agree F (mergeFromEnd less fuel pace patience done as bs)
      (mergeFromEnd less' fuel pace patience done as bs) := by
  induction fuel generalizing pace patience done as bs with
  | zero => exact .ok _
  | succ fuel ih =>
    cases bs with
    | nil => cases pace <;> cases as <;> exact .ok _
    | cons b bs =>
      have hb := hbs b List.mem_cons_self
      have hrest : ∀ b ∈ bs, P b := fun b hb => hbs b (List.mem_cons_of_mem _ hb)
      cases pace with
      | single fromLeft fromRight =>
        cases as with
        | nil => exact .ok _
        | cons a as =>
          rw [mergeFromEnd, mergeFromEnd]
          refine (h b a hb (has a List.mem_cons_self)).bind fun smaller _ => ?_
          split
          · split
            · exact .ok _
            · exact ih _ _ (fun a ha => has a (List.mem_cons_of_mem _ ha)) hbs
          · split
            · exact .ok _
            · exact ih _ _ has hrest
      | galloping =>
        rw [mergeFromEnd, mergeFromEnd]
        have hreversed : ∀ a ∈ as.reverse, P a := fun a ha => has a (List.mem_reverse.1 ha)
        refine (gallop_left_agree h hreversed hb _).bind fun stay _ => ?_
        dsimp only
        have hleft : ∀ a ∈ as.drop (as.length - stay), P a :=
          fun a ha => has a (List.mem_of_mem_drop ha)
        generalize as.length - stay = fromLeft at hleft ⊢
        generalize (as.take fromLeft).reverse ++ done = done
        generalize as.drop fromLeft = as at hleft ⊢
        split
        · exact .ok _
        split
        · exact .ok _
        cases as with
        | nil => exact .ok _
        | cons a as =>
          have hreversed : ∀ b ∈ bs.reverse, P b := fun b hb => hrest b (List.mem_reverse.1 hb)
          refine (gallop_right_agree h hreversed (hleft a List.mem_cons_self) _).bind
            fun stay _ => ?_
          split
          · exact .ok _
          split
          · exact .ok _
          split
          · exact .ok _
          · exact ih _ _ (fun a ha => hleft a (List.mem_cons_of_mem _ ha))
              fun b hb => hrest b (List.mem_of_mem_drop hb)

/-- The shorter run decides on the direction, and both give the same. -/
theorem mergeOverlap_agree (patience : Nat) {as bs : List α} (has : ∀ a ∈ as, P a)
    (hbs : ∀ b ∈ bs, P b) :
    Agree F (mergeOverlap less patience as bs) (mergeOverlap less' patience as bs) := by
  unfold mergeOverlap
  dsimp only
  split
  · split
    · exact .ok _
    · rename_i b bs
      split
      · exact .ok _
      · exact mergeFromFront_agree h _ _ _ has fun b hb => hbs b (List.mem_cons_of_mem _ hb)
  · split
    · exact .ok _
    · rename_i a rest hreversed
      split
      · exact .ok _
      · refine mergeFromEnd_agree h _ _ _ (fun a ha => has a ?_)
          fun b hb => hbs b (List.mem_reverse.1 hb)
        rw [← List.mem_reverse, hreversed]
        exact List.mem_cons_of_mem _ ha

/-- **Two runs** are merged alike: first the parts that are in place already are found, then the
rest is merged. -/
theorem mergeRuns_agree (patience : Nat) {as bs : List α} (has : ∀ a ∈ as, P a)
    (hbs : ∀ b ∈ bs, P b) :
    Agree F (mergeRuns less patience as bs) (mergeRuns less' patience as bs) := by
  unfold mergeRuns
  split
  · rename_i b a hb ha
    refine (gallop_left_agree h has (hbs b (List.mem_of_head? hb)) 0).bind fun placed _ => ?_
    split
    · exact .ok _
    refine (gallop_right_agree h hbs (has a (List.mem_of_getLast? ha)) _).bind fun overlap _ => ?_
    split
    · exact .ok _
    refine (mergeOverlap_agree h patience (fun a ha => has a (List.mem_of_mem_drop ha))
      fun b hb => hbs b (List.mem_of_mem_take hb)).bind fun merged _ => ?_
    exact .ok _
  · exact .ok _

/-! ### Runs of a list

A run is cut off where the order breaks, and filled up with the elements that follow it until it is
long enough.
-/

/-- By induction on the list: each element is compared with the one before it. -/
theorem splitRun_agree (descending : Bool) {x : α} {xs : List α} (hx : P x) (hxs : ∀ y ∈ xs, P y) :
    Agree F (splitRun less descending x xs) (splitRun less' descending x xs) := by
  induction xs generalizing x with
  | nil => exact .ok _
  | cons y rest ih =>
    rw [List.forall_mem_cons] at hxs
    rw [splitRun, splitRun]
    refine (h y x hxs.1 hx).bind fun smaller _ => ?_
    split
    · exact (ih hxs.1 hxs.2).bind fun run _ => .ok _
    · exact .ok _

/-- The first two elements decide on the direction of a run. -/
theorem frontRun_agree {xs : List α} (hxs : ∀ x ∈ xs, P x) :
    Agree F (frontRun less xs) (frontRun less' xs) := by
  unfold frontRun
  split
  · exact .ok _
  · exact .ok _
  · rename_i x y rest
    simp only [List.forall_mem_cons] at hxs
    refine (h y x hxs.2.1 hxs.1).bind fun descending _ => ?_
    exact (splitRun_agree h descending hxs.2.1 hxs.2.2).bind fun run _ => .ok _

omit h in
/-- By induction on the fuel: the list is halved by one comparison. -/
theorem place_agree {after after' : α → Except ε Bool} (fuel : Nat) {xs : List α}
    (hxs : ∀ x ∈ xs, Agree F (after x) (after' x)) :
    Agree F (place after fuel xs) (place after' fuel xs) := by
  induction fuel generalizing xs with
  | zero => exact .ok _
  | succ fuel ih =>
    unfold place
    dsimp only
    split
    · exact .ok _
    · rename_i x behind hdrop
      have hbehind : ∀ y ∈ x :: behind, Agree F (after y) (after' y) :=
        fun y hy => hxs y (List.mem_of_mem_drop (hdrop ▸ hy))
      rw [List.forall_mem_cons] at hbehind
      refine hbehind.1.bind fun goesAfter _ => ?_
      split
      · exact (ih fun y hy => hxs y (List.mem_of_mem_take hy)).bind fun parts _ => .ok _
      · exact (ih hbehind.2).bind fun parts _ => .ok _

/-- The place of an element in a sorted run is found by comparing it with elements of the run. -/
theorem insert_agree {sorted : List α} {x : α} (hsorted : ∀ y ∈ sorted, P y) (hx : P x) :
    Agree F (insert less sorted x) (insert less' sorted x) :=
  (place_agree _ fun y hy => h x y hx (hsorted y hy)).bind fun _ _ => .ok _

/-- By induction on the elements that are inserted. -/
theorem foldlM_insert_agree {sorted xs : List α} (hsorted : ∀ y ∈ sorted, P y)
    (hxs : ∀ x ∈ xs, P x) :
    Agree F (xs.foldlM (insert less) sorted) (xs.foldlM (insert less') sorted) := by
  induction xs generalizing sorted with
  | nil => exact .ok _
  | cons x rest ih =>
    rw [List.forall_mem_cons] at hxs
    rw [List.foldlM_cons, List.foldlM_cons]
    refine (insert_agree h hsorted hxs.1).bind fun inserted hinserted => ih (fun y hy => ?_) hxs.2
    have hmem := (insert_perm hinserted).mem_iff.1 hy
    rw [List.mem_append, List.mem_singleton] at hmem
    exact hmem.elim (hsorted y) fun heq => heq ▸ hxs.1

/-- **The next run**, filled up, is the same. -/
theorem nextRun_agree (least : Nat) {xs : List α} (hxs : ∀ x ∈ xs, P x) :
    Agree F (nextRun less least xs) (nextRun less' least xs) := by
  refine (frontRun_agree h hxs).bind fun parts hfront => ?_
  obtain ⟨run, others⟩ := parts
  have hall : ∀ x ∈ run ++ others, P x := fun x hx => hxs x ((frontRun_perm hfront).1.mem_iff.1 hx)
  rw [List.forall_mem_append] at hall
  refine (foldlM_insert_agree h hall.1 fun x hx => ?_).bind fun _ _ => .ok _
  exact hall.2 x (List.mem_of_mem_take hx)

/-! ### Runs that wait

The elements of all runs that wait are subject to `P`. Merging some of them gives a permutation of
these elements, so that the condition is kept by `Stack.Holds.of_perm`.
-/

namespace Stack

/-- What is subject to `P` waits. -/
def Holds (P : α → Prop) (stack : Stack α) : Prop := ∀ x ∈ stack.elements, P x

omit h in
theorem Holds.of_perm {stack : Stack α} {xs : List α} (hstack : stack.Holds P)
    (hperm : xs.Perm stack.elements) : ∀ x ∈ xs, P x :=
  fun x hx => hstack x (hperm.mem_iff.1 hx)

omit h in
theorem holds_cons {run : Waiting α} {rest : List (Waiting α)} {patience : Nat} :
    Holds P ⟨run :: rest, patience⟩ ↔ (∀ x ∈ run.items, P x) ∧ Holds P ⟨rest, patience⟩ := by
  simp only [Holds, elements, List.flatMap_cons, List.forall_mem_append]

/-- The two runs on top are merged, and both are among what waits. -/
theorem mergeTop_agree {stack : Stack α} (hstack : stack.Holds P) :
    Agree F (stack.mergeTop less) (stack.mergeTop less') := by
  obtain ⟨runs, patience⟩ := stack
  unfold mergeTop
  split
  · rename_i top below rest hruns
    cases hruns
    rw [holds_cons, holds_cons] at hstack
    exact (mergeRuns_agree h _ hstack.2.1 hstack.1).bind fun _ _ => .ok _
  · exact .ok _

theorem mergeBelow_agree {stack : Stack α} (hstack : stack.Holds P) :
    Agree F (stack.mergeBelow less) (stack.mergeBelow less') := by
  obtain ⟨runs, patience⟩ := stack
  unfold mergeBelow
  split
  · rename_i top rest hruns
    cases hruns
    rw [holds_cons] at hstack
    exact (mergeTop_agree h hstack.2).bind fun _ _ => .ok _
  · exact .ok _

/-- By induction on the fuel. Which runs are merged depends on their lengths, and these are the
same. -/
theorem settle_agree (depth fuel : Nat) {stack : Stack α} (hstack : stack.Holds P) :
    Agree F (settle less depth fuel stack) (settle less' depth fuel stack) := by
  induction fuel generalizing stack with
  | zero => exact .ok _
  | succ fuel ih =>
    unfold settle
    split
    · split
      · exact (mergeTop_agree h hstack).bind fun merged hmerged =>
          ih (hstack.of_perm (mergeTop_perm hmerged))
      · exact .ok _
    · exact .ok _

/-- A new run is put on the stack when enough of the old ones have been merged. -/
theorem push_agree (n : Nat) {items : List α} {stack : Stack α} (hstack : stack.Holds P) :
    Agree F (stack.push less n items) (stack.push less' n items) := by
  unfold push
  split
  · exact .ok _
  · exact (settle_agree h _ _ hstack).bind fun _ _ => .ok _

/-- By induction on the fuel, along the merges that are left. -/
theorem collapse_agree (fuel : Nat) {stack : Stack α} (hstack : stack.Holds P) :
    Agree F (stack.collapse less fuel) (stack.collapse less' fuel) := by
  induction fuel generalizing stack with
  | zero => exact .ok _
  | succ fuel ih =>
    unfold collapse
    split
    · split
      · exact (mergeBelow_agree h hstack).bind fun merged hmerged =>
          ih (hstack.of_perm (mergeBelow_perm hmerged))
      · exact (mergeTop_agree h hstack).bind fun merged hmerged =>
          ih (hstack.of_perm (mergeTop_perm hmerged))
    · exact (mergeTop_agree h hstack).bind fun merged hmerged =>
        ih (hstack.of_perm (mergeTop_perm hmerged))
    · exact .ok _

end Stack

/-- By induction on the fuel, along the runs that are cut off one after the other. -/
theorem stackRuns_agree (n least fuel : Nat) {stack : Stack α} {xs : List α}
    (hstack : stack.Holds P) (hxs : ∀ x ∈ xs, P x) :
    Agree F (stackRuns less n least fuel stack xs) (stackRuns less' n least fuel stack xs) := by
  induction fuel generalizing stack xs with
  | zero => exact .ok _
  | succ fuel ih =>
    cases xs with
    | nil => exact .ok _
    | cons x xs =>
      rw [stackRuns, stackRuns]
      refine (nextRun_agree h least hxs).bind fun parts hrun => ?_
      obtain ⟨run, others⟩ := parts
      have hall : ∀ y ∈ run ++ others, P y := fun y hy => hxs y ((nextRun_perm hrun).1.mem_iff.1 hy)
      rw [List.forall_mem_append] at hall
      refine (Stack.push_agree h n hstack).bind fun pushed hpushed => ih (fun y hy => ?_) hall.2
      have hmem := (Stack.push_perm hpushed).mem_iff.1 hy
      exact (List.mem_append.1 hmem).elim (hstack y) (hall.1 y)

/-- **Sorting by comparisons that agree** on the elements comes out alike, and fails only as they
do. All the parts are put together here: what waits in the end is a permutation of the list, and is
merged. -/
theorem sort_agree {xs : List α} (hxs : ∀ x ∈ xs, P x) : Agree F (sort less xs) (sort less' xs) := by
  have hempty : Stack.Holds P {} := fun x hx => by cases hx
  refine (stackRuns_agree h _ _ _ hempty hxs).bind fun stack hstack => ?_
  refine Stack.collapse_agree h _ fun x hx => ?_
  have hperm := stackRuns_perm (Nat.le_refl _) hstack
  exact hxs x (hperm.mem_iff.1 hx)

end Merging

end Sorting

end Walkthrough
