import Walkthrough.Proofs.Sorting.Permutation

/-!
# Sorting connects the elements

A list does not come out sorted before its elements have been compared, and the comparisons leave no
part of the list apart from the others: any two elements are connected by a chain of comparisons
that were made. Which ones these are depends on the list and is left open here. It is enough to give
each element a class such that only elements of the same class can be compared. Then a list that
comes out sorted has elements of one class, wherever an odd one stands.

Three places make the connection. Neighbours in a run have been compared; an element that is put
into a run has been compared with the middle one; and when two runs are merged, the first element of
the right one is compared with the first of the left one before anything else.

## Main definitions

* `Sorting.Uniform` — elements that are of one class
* `Sorting.Stack.Uniform` — runs that are not empty, each with elements of one class

## Main results

* `Sorting.sort_uniform` — lists that come out sorted have elements of one class
* `Sorting.exists_less_of_sort` — and of these the first two have been compared
-/

namespace Walkthrough.Sorting

variable {α κ ε : Type} {less : α → α → Except ε Bool} {classOf : α → κ}

/-- Elements that are of one class. -/
def Uniform (classOf : α → κ) (xs : List α) : Prop :=
  ∀ x ∈ xs, ∀ y ∈ xs, classOf x = classOf y

/-- Only elements of the same class can be compared. Nothing is said about whether elements of the
same class can, nor about the answers. -/
def Separates (less : α → α → Except ε Bool) (classOf : α → κ) : Prop :=
  ∀ x y smaller, less x y = .ok smaller → classOf x = classOf y

theorem Uniform.of_perm {xs ys : List α} (hys : Uniform classOf ys) (h : xs.Perm ys) :
    Uniform classOf xs :=
  fun x hx y hy => hys x (h.mem_iff.1 hx) y (h.mem_iff.1 hy)

/-- Elements of the class of one of them are of one class. -/
theorem uniform_of_forall {xs : List α} {x : α} (h : ∀ y ∈ xs, classOf y = classOf x) :
    Uniform classOf xs :=
  fun y hy z hz => (h y hy).trans (h z hz).symm

/-- Two lists are of one class together if an element of the one is in the class of an element of
the other. -/
theorem Uniform.append {xs ys : List α} {x y : α} (hxs : Uniform classOf xs)
    (hys : Uniform classOf ys) (hx : x ∈ xs) (hy : y ∈ ys) (h : classOf x = classOf y) :
    Uniform classOf (xs ++ ys) := by
  refine @uniform_of_forall _ _ _ _ x fun z hz => ?_
  rw [List.mem_append] at hz
  cases hz with
  | inl hz => exact hxs z hz x hx
  | inr hz => exact (hys z hz y hy).trans h.symm

variable (hless : Separates less classOf)

include hless

/-! ### Runs of a list

A run that is cut off consists of neighbours that have been compared. Filling it up puts an element
into a run that is not empty, and each is compared with one of them at least.
-/

/-- A run that is split off is of the class of its first element. -/
theorem classOf_of_splitRun {descending : Bool} {x : α} {xs run others : List α}
    (h : splitRun less descending x xs = .ok (run, others)) :
    ∀ y ∈ run, classOf y = classOf x := by
  induction xs generalizing x run with
  | nil =>
    cases h
    intro y hy
    rw [List.mem_singleton.1 hy]
  | cons y rest ih =>
    rw [splitRun] at h
    obtain ⟨smaller, hsmaller, h⟩ := bind_eq_ok.1 h
    split at h
    · obtain ⟨⟨run, _⟩, hrun, h⟩ := bind_eq_ok.1 h
      cases h
      rw [List.forall_mem_cons]
      exact ⟨rfl, fun z hz => (ih hrun z hz).trans (hless _ _ _ hsmaller)⟩
    · cases h
      intro z hz
      rw [List.mem_singleton.1 hz]

/-- A run that descends is turned round, which keeps its elements. -/
theorem frontRun_uniform {xs run others : List α} (h : frontRun less xs = .ok (run, others)) :
    Uniform classOf run := by
  unfold frontRun at h
  split at h
  · cases h
    exact nofun
  · cases h
    intro x hx y hy
    rw [List.mem_singleton.1 hx, List.mem_singleton.1 hy]
  · rename_i x y rest
    obtain ⟨descending, hdescending, h⟩ := bind_eq_ok.1 h
    obtain ⟨⟨run, _⟩, hrun, h⟩ := bind_eq_ok.1 h
    cases h
    have hclass : ∀ z ∈ x :: run, classOf z = classOf x := by
      rw [List.forall_mem_cons]
      exact ⟨rfl, fun z hz => (classOf_of_splitRun hless hrun z hz).trans (hless _ _ _ hdescending)⟩
    split
    · exact (uniform_of_forall hclass).of_perm (List.reverse_perm _)
    · exact uniform_of_forall hclass

omit hless in
/-- An element is not put anywhere before it has been compared. -/
theorem exists_of_place {after : α → Except ε Bool} {fuel : Nat} {xs front back : List α}
    (hfuel : fuel ≠ 0) (hxs : xs ≠ []) (h : place after fuel xs = .ok (front, back)) :
    ∃ x ∈ xs, ∃ goesAfter, after x = .ok goesAfter := by
  obtain ⟨fuel, rfl⟩ := Nat.exists_eq_succ_of_ne_zero hfuel
  rw [place] at h
  dsimp only at h
  split at h
  · rename_i hdrop
    have hlength := List.drop_eq_nil_iff.1 hdrop
    have hpos := List.length_pos_iff.2 hxs
    omega
  · rename_i x behind hdrop
    obtain ⟨goesAfter, hafter, -⟩ := bind_eq_ok.1 h
    have hmem : x ∈ xs.drop (xs.length / 2) := by
      rw [hdrop]
      exact List.mem_cons_self
    exact ⟨x, List.mem_of_mem_drop hmem, goesAfter, hafter⟩

/-- An element that is put into a run is of the class of some element there, and so of all of them.
-/
theorem insert_uniform {sorted inserted : List α} {x : α} (hne : sorted ≠ [])
    (hsorted : Uniform classOf sorted) (h : insert less sorted x = .ok inserted) :
    Uniform classOf inserted := by
  obtain ⟨parts, hplace, -⟩ := bind_eq_ok.1 h
  obtain ⟨y, hy, goesAfter, hafter⟩ :=
    exists_of_place (mt List.length_eq_zero_iff.1 hne) hne hplace
  have hx : Uniform classOf [x] := uniform_of_forall (List.forall_mem_singleton.2 rfl)
  exact (hsorted.append hx hy (List.mem_singleton_self x) (hless _ _ _ hafter).symm).of_perm
    (insert_perm h)

/-- By induction on the elements that are put in; the run stays of one class and does not get empty.
-/
theorem foldlM_insert_uniform {sorted inserted xs : List α} (hne : sorted ≠ [])
    (hsorted : Uniform classOf sorted) (h : xs.foldlM (insert less) sorted = .ok inserted) :
    Uniform classOf inserted := by
  induction xs generalizing sorted with
  | nil =>
    cases h
    exact hsorted
  | cons x xs ih =>
    rw [List.foldlM_cons] at h
    obtain ⟨next, hnext, h⟩ := bind_eq_ok.1 h
    have hlength := (insert_perm hnext).length_eq
    rw [List.length_append, List.length_singleton] at hlength
    refine ih (List.length_pos_iff.1 ?_) (insert_uniform hless hne hsorted hnext) h
    omega

/-- A run that is filled up is of one class, and not empty. -/
theorem nextRun_uniform {least : Nat} {xs run others : List α} (hxs : xs ≠ [])
    (h : nextRun less least xs = .ok (run, others)) : run ≠ [] ∧ Uniform classOf run := by
  obtain ⟨⟨front, rest⟩, hfront, h⟩ := bind_eq_ok.1 h
  obtain ⟨filled, hfilled, h⟩ := bind_eq_ok.1 h
  cases h
  have hne := (frontRun_perm hfront).2 hxs
  refine ⟨?_, foldlM_insert_uniform hless hne (frontRun_uniform hless hfront) hfilled⟩
  have hlength := (foldlM_insert_perm hfilled).length_eq
  rw [List.length_append] at hlength
  have hpos := List.length_pos_iff.2 hne
  exact List.length_pos_iff.1 (by omega)

/-! ### Merging

It is enough that one comparison between the two runs has been made. The search for the parts that
are in place already begins with one, before anything can be left out.
-/

/-- The first element of the right run has been compared with the first of the left run. -/
theorem classOf_of_mergeRuns {patience left : Nat} {a b : α} {as bs merged : List α}
    (h : mergeRuns less patience (a :: as) (b :: bs) = .ok (merged, left)) :
    classOf b = classOf a := by
  rw [mergeRuns] at h
  split at h
  · rename_i last hfirst hlast
    cases hfirst
    obtain ⟨placed, hplaced, -⟩ := bind_eq_ok.1 h
    obtain ⟨stays, hstays, -⟩ := bind_eq_ok.1 hplaced
    obtain ⟨smaller, hsmaller, -⟩ := bind_eq_ok.1 hstays
    exact hless _ _ _ hsmaller
  · rename_i hnone
    exact (hnone b _ rfl (List.getLast?_eq_some_getLast (List.cons_ne_nil a as)).symm).elim

/-- Two runs of one class each are of the same class when they have been merged. -/
theorem mergeRuns_uniform {patience left : Nat} {as bs merged : List α} (has : as ≠ [])
    (hbs : bs ≠ []) (hleft : Uniform classOf as) (hright : Uniform classOf bs)
    (h : mergeRuns less patience as bs = .ok (merged, left)) :
    merged ≠ [] ∧ Uniform classOf merged := by
  obtain ⟨a, as, rfl⟩ := List.exists_cons_of_ne_nil has
  obtain ⟨b, bs, rfl⟩ := List.exists_cons_of_ne_nil hbs
  have hperm := mergeRuns_perm h
  refine ⟨fun hnil => ?_, ?_⟩
  · rw [hnil] at hperm
    exact absurd hperm.length_eq (by simp)
  · exact (hleft.append hright List.mem_cons_self List.mem_cons_self
      (classOf_of_mergeRuns hless h).symm).of_perm hperm

/-! ### Runs that wait

Runs that wait are of one class each, and not yet of the same one: nothing has been compared across
two of them. This is settled in the end, when all are merged into one, and therefore the number of
runs has to be followed as well.
-/

namespace Stack

omit hless in
/-- The runs that wait are not empty, and each is of one class. -/
protected def Uniform (classOf : α → κ) (runs : List (Waiting α)) : Prop :=
  ∀ run ∈ runs, run.items ≠ [] ∧ Sorting.Uniform classOf run.items

omit hless in
theorem uniform_cons {run : Waiting α} {rest : List (Waiting α)} :
    Stack.Uniform classOf (run :: rest) ↔
      (run.items ≠ [] ∧ Sorting.Uniform classOf run.items) ∧ Stack.Uniform classOf rest :=
  List.forall_mem_cons

/-- Merging on top leaves runs of one class each, and one run less if there were two. -/
theorem mergeTop_uniform {stack merged : Stack α} (hstack : Stack.Uniform classOf stack.runs)
    (h : stack.mergeTop less = .ok merged) :
    Stack.Uniform classOf merged.runs ∧
      (2 ≤ stack.runs.length → merged.runs.length = stack.runs.length - 1) := by
  obtain ⟨runs, patience⟩ := stack
  unfold mergeTop at h
  split at h
  · rename_i top below rest hruns
    cases hruns
    obtain ⟨⟨items, _⟩, hitems, h⟩ := bind_eq_ok.1 h
    cases h
    rw [uniform_cons, uniform_cons] at hstack
    obtain ⟨⟨htop, htop'⟩, ⟨hbelow, hbelow'⟩, hrest⟩ := hstack
    refine ⟨?_, fun _ => rfl⟩
    rw [uniform_cons]
    exact ⟨mergeRuns_uniform hless hbelow htop hbelow' htop' hitems, hrest⟩
  · rename_i hruns
    cases h
    refine ⟨hstack, fun hlength => ?_⟩
    match runs, hlength with
    | top :: below :: rest, _ => exact (hruns top below rest rfl).elim

/-- So does merging below the top, if there were three. -/
theorem mergeBelow_uniform {stack merged : Stack α} (hstack : Stack.Uniform classOf stack.runs)
    (h : stack.mergeBelow less = .ok merged) :
    Stack.Uniform classOf merged.runs ∧
      (3 ≤ stack.runs.length → merged.runs.length = stack.runs.length - 1) := by
  obtain ⟨runs, patience⟩ := stack
  unfold mergeBelow at h
  split at h
  · rename_i top rest hruns
    cases hruns
    obtain ⟨below, hbelow, h⟩ := bind_eq_ok.1 h
    cases h
    rw [uniform_cons] at hstack
    obtain ⟨huniform, hlength⟩ := mergeTop_uniform hless hstack.2 hbelow
    refine ⟨uniform_cons.2 ⟨hstack.1, huniform⟩, fun hthree => ?_⟩
    simp only [List.length_cons] at hlength hthree ⊢
    omega
  · rename_i hruns
    cases h
    refine ⟨hstack, fun hlength => ?_⟩
    match runs, hlength with
    | top :: rest, _ => exact (hruns top rest rfl).elim

/-- By induction on the fuel. -/
theorem settle_uniform {depth fuel : Nat} {stack settled : Stack α}
    (hstack : Stack.Uniform classOf stack.runs) (h : settle less depth fuel stack = .ok settled) :
    Stack.Uniform classOf settled.runs := by
  induction fuel generalizing stack with
  | zero =>
    cases h
    exact hstack
  | succ fuel ih =>
    unfold settle at h
    split at h
    · split at h
      · obtain ⟨merged, hmerged, h⟩ := bind_eq_ok.1 h
        exact ih (mergeTop_uniform hless hstack hmerged).1 h
      · cases h
        exact hstack
    · cases h
      exact hstack

/-- A run that comes to those that wait is of one class, and so are those that have been merged
before. -/
theorem push_uniform {n : Nat} {items : List α} {stack pushed : Stack α}
    (hstack : Stack.Uniform classOf stack.runs)
    (hitems : items ≠ [] ∧ Sorting.Uniform classOf items)
    (h : stack.push less n items = .ok pushed) : Stack.Uniform classOf pushed.runs := by
  unfold push at h
  split at h
  · cases h
    exact uniform_cons.2 ⟨hitems, nofun⟩
  · obtain ⟨settled, hsettled, h⟩ := bind_eq_ok.1 h
    cases h
    exact uniform_cons.2 ⟨hitems, settle_uniform hless hstack hsettled⟩

/-- **Merging all runs** leaves elements of one class. There are enough rounds for it if there is one
for each run. -/
theorem collapse_uniform {fuel : Nat} {stack : Stack α} {xs : List α}
    (hstack : Stack.Uniform classOf stack.runs) (hfuel : stack.runs.length ≤ fuel)
    (h : stack.collapse less fuel = .ok xs) : Sorting.Uniform classOf xs := by
  induction fuel generalizing stack with
  | zero =>
    cases h
    rw [List.eq_nil_of_length_eq_zero (Nat.le_zero.1 hfuel)]
    exact nofun
  | succ fuel ih =>
    unfold collapse at h
    split at h
    · rename_i top below third rest hruns
      have hlength : stack.runs.length = rest.length + 3 := by rw [hruns]; rfl
      split at h
      · obtain ⟨merged, hmerged, h⟩ := bind_eq_ok.1 h
        obtain ⟨huniform, hone⟩ := mergeBelow_uniform hless hstack hmerged
        exact ih huniform (by omega) h
      · obtain ⟨merged, hmerged, h⟩ := bind_eq_ok.1 h
        obtain ⟨huniform, hone⟩ := mergeTop_uniform hless hstack hmerged
        exact ih huniform (by omega) h
    · rename_i top below rest hruns
      have hlength : 2 ≤ stack.runs.length := by simp [hruns]
      obtain ⟨merged, hmerged, h⟩ := bind_eq_ok.1 h
      obtain ⟨huniform, hone⟩ := mergeTop_uniform hless hstack hmerged
      exact ih huniform (by omega) h
    · rename_i htwo
      cases h
      match hruns : stack.runs with
      | [] => exact nofun
      | [run] =>
        rw [List.flatMap_singleton]
        rw [hruns] at hstack
        exact (uniform_cons.1 hstack).1.2
      | top :: below :: rest => exact (htwo top below rest hruns).elim

end Stack

/-- By induction on the fuel, along the runs that are cut off one after the other. -/
theorem stackRuns_uniform {n least fuel : Nat} {stack stacked : Stack α} {xs : List α}
    (hstack : Stack.Uniform classOf stack.runs)
    (h : stackRuns less n least fuel stack xs = .ok stacked) :
    Stack.Uniform classOf stacked.runs := by
  induction fuel generalizing stack xs with
  | zero =>
    cases h
    exact hstack
  | succ fuel ih =>
    cases xs with
    | nil =>
      cases h
      exact hstack
    | cons x xs =>
      rw [stackRuns] at h
      obtain ⟨⟨run, others⟩, hrun, h⟩ := bind_eq_ok.1 h
      obtain ⟨pushed, hpushed, h⟩ := bind_eq_ok.1 h
      exact ih (Stack.push_uniform hless hstack (nextRun_uniform hless (List.cons_ne_nil x xs) hrun)
        hpushed) h

/-- **Lists that come out sorted** have elements of one class, if only elements of the same class
can be compared. By what is known of the runs, each is of one class when it is cut off, and all of
them are when they have been merged. -/
theorem sort_uniform {xs sorted : List α} (h : sort less xs = .ok sorted) :
    Uniform classOf xs := by
  have hperm := sort_perm h
  obtain ⟨stack, hstack, h⟩ := bind_eq_ok.1 h
  have hempty : Stack.Uniform classOf ({} : Stack α).runs := nofun
  have huniform := stackRuns_uniform hless hempty hstack
  exact (Stack.collapse_uniform hless huniform (Nat.le_refl _) h).of_perm hperm.symm

omit hless in
/-- The first two elements are compared before any others, so that sorting them asks something. -/
theorem exists_less_of_sort {x y : α} {rest sorted : List α}
    (h : sort less (x :: y :: rest) = .ok sorted) : ∃ smaller, less y x = .ok smaller := by
  obtain ⟨stack, hstack, -⟩ := bind_eq_ok.1 h
  rw [List.length_cons, stackRuns] at hstack
  obtain ⟨run, hrun, -⟩ := bind_eq_ok.1 hstack
  obtain ⟨front, hfront, -⟩ := bind_eq_ok.1 hrun
  obtain ⟨smaller, hsmaller, -⟩ := bind_eq_ok.1 hfront
  exact ⟨smaller, hsmaller⟩

end Walkthrough.Sorting
