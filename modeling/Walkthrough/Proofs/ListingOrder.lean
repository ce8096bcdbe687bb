import Mathlib
import Walkthrough.Message
import Walkthrough.Proofs.Catalogue
import Walkthrough.Proofs.Sorting.Congruence
import Walkthrough.Proofs.Sorting.Connection
import Walkthrough.Session

/-!
# The order in which steps are listed

Steps are listed by their orders, and orders may be anything. For those that a catalogue usually
has, which are nothing, truth values, integers or texts, it is known exactly what happens. If all
are numbers, or all are texts, or there is nothing to compare, then the steps are listed in
ascending order, and those of the same order as they stand. A truth value and an integer may be the
same order. In all other cases listing fails.

It fails even if most orders go together and the odd one stands far away from the others. Sorting
does not compare each step with each other one, but what it compares connects all of them, and a
number is never compared with a text, nor either with nothing.

## What sorting by keys comes to

If all orders are numbers, or all are texts, then they are ranked by a comparison that does not
fail, and the steps are sorted by a merge sort whose properties are known from the library: the
result ascends, is a permutation, and keeps those together that are equal, as they were. If the
orders are mixed, sorting asks questions that fail. Which one fails first depends on the list, and
is not told here; that one does is shown from what connects the elements.

## Main definitions

* `Value.IsOrder` — orders as catalogues have them
* `Store.Comparable` — steps whose orders go together
* `Store.ListedByOrder` — steps that are sorted, and not more than that

## Main results

* `Sorting.filter_mergeSort` — what is equal stays in its order
* `Store.listSteps_of_comparable`, `Store.listSteps_of_not_comparable` — the two cases
* `Session.listSteps_by_order` — both together, and the catalogue stays as it is
-/

namespace Walkthrough

variable {α : Type}

/-! ### Sorting what is ranked

Ranks are given by a strict comparison whose negation is transitive. That two keys are equal is not
needed for it, and neither is that they are linearly ordered.
-/

namespace Sorting

/-- A comparison that ranks elements: it does not go both ways, and what is between two elements is
not left out. -/
structure Ranks (before : α → α → Bool) : Prop where
  asymm : ∀ a b, before a b = true → before b a = false
  trans : ∀ a b c, before b a = false → before c b = false → before c a = false

theorem ranks_int : Ranks fun m n : Int => decide (m < n) where
  asymm a b h := by
    rw [decide_eq_true_iff] at h
    rw [decide_eq_false_iff_not]
    omega
  trans a b c hab hbc := by
    rw [decide_eq_false_iff_not] at hab hbc ⊢
    omega

theorem ranks_text : Ranks fun t u : String => decide (t < u) where
  asymm a b h := by
    rw [decide_eq_true_iff] at h
    exact decide_eq_false (String.lt_asymm h)
  trans a b c hab hbc := by
    rw [decide_eq_false_iff_not, String.not_lt] at hab hbc ⊢
    exact String.le_trans hab hbc

/-- Whether an element may stand before another one, as their keys say. -/
def mayPrecede {β : Type} (before : α → α → Bool) (key : β → α) (d e : β) : Bool :=
  !before (key e) (key d)

section Ranked

variable {β : Type} {before : α → α → Bool} (h : Ranks before) (key : β → α) (xs : List β)

include h

theorem mayPrecede_trans (a b c : β) (hab : mayPrecede before key a b = true)
    (hbc : mayPrecede before key b c = true) : mayPrecede before key a c = true := by
  rw [mayPrecede, Bool.not_eq_true'] at hab hbc ⊢
  exact h.trans _ _ _ hab hbc

theorem mayPrecede_total (a b : β) :
    (mayPrecede before key a b || mayPrecede before key b a) = true := by
  rw [mayPrecede, mayPrecede]
  cases hab : before (key a) (key b) with
  | false => rw [Bool.not_false, Bool.or_true]
  | true => rw [h.asymm _ _ hab, Bool.not_false, Bool.true_or]

/-- What is sorted ascends. -/
theorem pairwise_mergeSort_mayPrecede :
    (xs.mergeSort (mayPrecede before key)).Pairwise fun d e => before (key e) (key d) = false := by
  have hsorted := List.pairwise_mergeSort (mayPrecede_trans h key) (mayPrecede_total h key) xs
  refine hsorted.imp fun hle => ?_
  rwa [mayPrecede, Bool.not_eq_true'] at hle

/-- **What is equal stays in its order.** Elements that may stand before each other are in the
sorted list as they are in the list, one after the other. -/
theorem filter_mergeSort {p : β → Bool}
    (hp : ∀ d e, p d = true → p e = true → before (key e) (key d) = false) :
    (xs.mergeSort (mayPrecede before key)).filter p = xs.filter p := by
  have hpairwise : (xs.filter p).Pairwise fun d e => mayPrecede before key d e = true := by
    refine List.pairwise_of_forall_mem_list fun d hd e he => ?_
    rw [mayPrecede, hp d e (List.mem_filter.1 hd).2 (List.mem_filter.1 he).2, Bool.not_false]
  have hsublist := List.sublist_mergeSort (mayPrecede_trans h key) (mayPrecede_total h key)
    hpairwise List.filter_sublist
  have hfiltered := hsublist.filter p
  simp only [List.filter_filter, Bool.and_self] at hfiltered
  have hlength := ((List.mergeSort_perm xs (mayPrecede before key)).filter p).length_eq
  exact (hfiltered.eq_of_length hlength.symm).symm

end Ranked

/-- A list of one element is sorted without comparing anything. -/
theorem sort_singleton {ε : Type} (less : α → α → Except ε Bool) (x : α) :
    sort less [x] = .ok [x] := by
  simp only [sort, List.length_singleton, stackRuns, nextRun, frontRun, List.take_nil,
    List.drop_nil, List.foldlM_nil, bind, Except.bind, pure, Except.pure]
  rfl

end Sorting

/-! ### Orders

The scale of a value is what it can be compared with. It is the class that sorting connects elements
by.
-/

namespace Value

/-- An order as steps have it: nothing, a truth value, an integer or a text. -/
inductive IsOrder : Value → Prop
  | null : IsOrder .null
  | bool (b : Bool) : IsOrder (.bool b)
  | int (n : Int) : IsOrder (.int n)
  | text (t : String) : IsOrder (.text t)

/-- What a value can be compared as: a number, a text, or neither. -/
def scale (v : Value) : Bool × Bool := (v.number?.isSome, v.text?.isSome)

theorem number?_of_integer? {v : Value} {n : Int} (h : v.integer? = some n) :
    v.number? = some (.int n) := by
  cases v <;> cases h <;> rfl

theorem eq_of_text? {v : Value} {t : String} (h : v.text? = some t) : v = .text t := by
  cases v <;> cases h
  rfl

/-- Orders of one scale, which is not that of nothing, are all numbers or all texts. -/
theorem IsOrder.isSome_of_scale {v w : Value} (hv : v.IsOrder) (hw : w.IsOrder)
    (h : v.scale = w.scale) :
    (v.integer?.isSome = true → w.integer?.isSome = true) ∧
      (v.text?.isSome = true → w.text?.isSome = true) := by
  cases hv <;> cases hw <;> first | exact ⟨id, id⟩ | cases h

end Value

namespace Store

variable {s : Store} {v w : Value} {smaller : Bool} {f : Fault}

/-- Objects are neither numbers nor texts. -/
theorem scale_of_cell? {c : Cell} (h : s.cell? v = some c) : v.scale = (false, false) := by
  cases v with
  | ref a => rfl
  | description d => rfl
  | _ => cases h

/-- Values that have been compared are of one scale: two numbers, two texts, or two objects. -/
theorem scale_eq_of_less (h : s.less v w = .ok smaller) : v.scale = w.scale := by
  unfold less relate callLevels relateWithin at h
  dsimp only at h
  split at h
  · rename_i m n hm hn
    have hscale {u : Value} {k : Number} (hu : u.number? = some k) : u.scale = (true, false) := by
      cases u <;> cases hu <;> rfl
    rw [hscale hm, hscale hn]
  · split at h
    · rfl
    · split at h
      · rw [scale_of_cell? ‹_›, scale_of_cell? ‹_›]
      · rw [scale_of_cell? ‹_›, scale_of_cell? ‹_›]
      · cases h

/-- Nothing has been compared, not even with nothing. -/
theorem isSome_of_less (hv : v.IsOrder) (h : s.less v w = .ok smaller) :
    v.integer?.isSome = true ∨ v.text?.isSome = true := by
  cases hv with
  | null =>
    unfold less relate callLevels relateWithin at h
    cases h
  | bool b => exact .inl rfl
  | int n => exact .inl rfl
  | text t => exact .inr rfl

/-- Orders that cannot be compared are refused for their kinds. -/
theorem eq_notComparable_of_less (hv : v.IsOrder) (hw : w.IsOrder) (h : s.less v w = .error f) :
    f = .notComparable .less (s.kind v) (s.kind w) := by
  unfold less relate callLevels relateWithin at h
  cases hv <;> cases hw <;> cases h <;> rfl

/-! ### The two cases

Orders go together or they do not; with one step at most there is nothing to compare, and whatever
its order is makes no difference.
-/

/-- The steps with orders, of which there is one for each. -/
theorem withOrders_eq {steps : List Record} {order : Record → Value}
    (horder : ∀ e ∈ steps, s.field e "order" = .ok (order e)) :
    s.withOrders steps = .ok (steps.map fun e => (order e, e)) := by
  induction steps with
  | nil => rfl
  | cons e rest ih =>
    rw [List.forall_mem_cons] at horder
    have hrest := ih horder.2
    rw [withOrders] at hrest ⊢
    rw [List.mapM_cons, horder.1, hrest]
    rfl

end Store

section SortedBy

variable {before : α → α → Bool} {key? : Value → Option α} {order : Record → Value}
  {steps : List Record}

/-- Steps whose orders all have keys are sorted by these. -/
theorem sortedBy?_eq {key : Record → α} (h : ∀ e ∈ steps, key? (order e) = some (key e)) :
    sortedBy? before key? (steps.map fun e => (order e, e)) =
      some (steps.mergeSort (Sorting.mayPrecede before key)) := by
  have hkeyed : ((steps.map fun e => (order e, e)).mapM fun p =>
      (key? p.1).map fun key => (key, p.2)) = some (steps.map fun e => (key e, e)) := by
    induction steps with
    | nil => rfl
    | cons e rest ih =>
      rw [List.forall_mem_cons] at h
      simp only [List.map_cons, List.mapM_cons, ih h.2, h.1]
      rfl
  have hmap : (steps.map fun e => (key e, e)).map Prod.snd = steps := by
    rw [List.map_map]
    exact List.map_id steps
  refine (congrArg (· >>= _) hkeyed).trans (congrArg some ?_)
  refine (List.map_mergeSort (s := Sorting.mayPrecede before key) fun a ha b hb => ?_).trans ?_
  · obtain ⟨d, -, rfl⟩ := List.mem_map.1 ha
    obtain ⟨e, -, rfl⟩ := List.mem_map.1 hb
    rfl
  · rw [hmap]

/-- If one of them has none, that fails. -/
theorem sortedBy?_eq_none {e : Record} (he : e ∈ steps) (h : key? (order e) = none) :
    sortedBy? before key? (steps.map fun e => (order e, e)) = none := by
  have hkeyed : ((steps.map fun e => (order e, e)).mapM fun p =>
      (key? p.1).map fun key => (key, p.2)) = none := by
    induction steps with
    | nil => cases he
    | cons d rest ih =>
      cases he with
      | head =>
        simp only [List.map_cons, List.mapM_cons, h]
        rfl
      | tail _ he =>
        simp only [List.map_cons, List.mapM_cons, ih he]
        cases key? (order d) <;> rfl
  exact congrArg (· >>= _) hkeyed

end SortedBy

namespace Store

variable {s : Store} {steps listed : List Record} {order : Record → Value}

/-- Orders that go together: there is nothing to compare, or all are numbers, or all are texts. -/
def Comparable (order : Record → Value) (steps : List Record) : Prop :=
  steps.length ≤ 1 ∨ (∀ e ∈ steps, (order e).integer?.isSome = true) ∨
    ∀ e ∈ steps, (order e).text?.isSome = true

/-- **Sorted steps.** The steps of a catalogue, each as often as it stands there, and none of them
behind one with a greater order; those of an order that is equal to that of one of them stand one
after the other as they do in the catalogue. -/
structure ListedByOrder (s : Store) (order : Record → Value) (steps listed : List Record) :
    Prop where
  perm : listed.Perm steps
  ascending : listed.Pairwise fun d e => s.less (order e) (order d) = .ok false
  stable : ∀ d ∈ steps, (listed.filter fun e => s.equal (order e) (order d) = .ok true) =
    steps.filter fun e => s.equal (order e) (order d) = .ok true

/-- Steps that are sorted by keys are sorted by their orders, if these compare as the keys do. -/
theorem listedByOrder_mergeSort {before : α → α → Bool} [DecidableEq α] (key : Record → α)
    (hranks : Sorting.Ranks before)
    (hless : ∀ d ∈ steps, ∀ e ∈ steps, s.less (order d) (order e) = .ok (before (key d) (key e)))
    (hequal : ∀ d ∈ steps, ∀ e ∈ steps,
      s.equal (order d) (order e) = .ok (decide (key d = key e))) :
    s.ListedByOrder order steps (steps.mergeSort (Sorting.mayPrecede before key)) where
  perm := List.mergeSort_perm _ _
  ascending := by
    have hmem {e : Record} (he : e ∈ steps.mergeSort (Sorting.mayPrecede before key)) : e ∈ steps :=
      List.mem_mergeSort.1 he
    refine (Sorting.pairwise_mergeSort_mayPrecede hranks key steps).imp_of_mem
      fun hd he hkeys => ?_
    rw [hless _ (hmem he) _ (hmem hd), hkeys]
  stable d hd := by
    have hfilter {xs : List Record} (hxs : ∀ e ∈ xs, e ∈ steps) :
        (xs.filter fun e => s.equal (order e) (order d) = .ok true) =
          xs.filter fun e => decide (key e = key d) := by
      refine List.filter_congr fun e he => ?_
      rw [hequal e (hxs e he) d hd]
      simp
    rw [hfilter fun e he => List.mem_mergeSort.1 he, hfilter fun e he => he]
    refine Sorting.filter_mergeSort hranks key steps fun a b ha hb => ?_
    rw [of_decide_eq_true ha, of_decide_eq_true hb]
    cases h : before (key d) (key d) with
    | false => rfl
    | true => exact h.symm.trans (hranks.asymm _ _ h)

/-- Numbers that are integers are equal if they are the same number. -/
theorem equal_of_integer? {v w : Value} {m n : Int} (s : Store) (hv : v.integer? = some m)
    (hw : w.integer? = some n) : s.equal v w = .ok (decide (m = n)) := by
  unfold equal callLevels equalWithin
  dsimp only
  rw [Value.number?_of_integer? hv, Value.number?_of_integer? hw]
  exact congrArg Except.ok (Number.equals_int m n)

variable (horder : ∀ e ∈ steps, s.field e "order" = .ok (order e))

include horder

/-- Steps whose orders are all numbers. -/
theorem listSteps_of_integers (h : ∀ e ∈ steps, (order e).integer?.isSome = true) :
    ∃ listed, s.listSteps steps = .ok listed ∧ s.ListedByOrder order steps listed := by
  have hkey : ∀ e ∈ steps, (order e).integer? = some ((order e).integer?.getD 0) := by
    intro e he
    obtain ⟨n, hn⟩ := Option.isSome_iff_exists.1 (h e he)
    rw [hn]
    rfl
  refine ⟨_, ?_, listedByOrder_mergeSort (fun e => (order e).integer?.getD 0) Sorting.ranks_int
    (fun d hd e he => ?_) fun d hd e he => equal_of_integer? s (hkey d hd) (hkey e he)⟩
  · simp only [listSteps, withOrders_eq horder, bind, Except.bind, sortedBy?_eq hkey]
    rfl
  · rw [less_of_number s (Value.number?_of_integer? (hkey d hd))
      (Value.number?_of_integer? (hkey e he)), Number.less_int]

/-- Steps whose orders are all texts, and some of them are. -/
theorem listSteps_of_texts (hne : steps ≠ [])
    (h : ∀ e ∈ steps, (order e).text?.isSome = true) :
    ∃ listed, s.listSteps steps = .ok listed ∧ s.ListedByOrder order steps listed := by
  have hkey : ∀ e ∈ steps, (order e).text? = some ((order e).text?.getD "") := by
    intro e he
    obtain ⟨t, ht⟩ := Option.isSome_iff_exists.1 (h e he)
    rw [ht]
    rfl
  have horder' : ∀ e ∈ steps, order e = .text ((order e).text?.getD "") :=
    fun e he => Value.eq_of_text? (hkey e he)
  obtain ⟨e, he⟩ := List.exists_mem_of_ne_nil steps hne
  have hnone : (order e).integer? = none := by
    rw [horder' e he]
    rfl
  refine ⟨_, ?_, listedByOrder_mergeSort (fun e => (order e).text?.getD "") Sorting.ranks_text
    (fun d hd e he => ?_) fun d hd e he => ?_⟩
  · simp only [listSteps, withOrders_eq horder, bind, Except.bind, sortedBy?_eq_none he hnone,
      sortedBy?_eq hkey]
    rfl
  · conv_lhs => rw [horder' d hd, horder' e he]
    exact less_text s _ _
  · conv_lhs => rw [horder' d hd, horder' e he]
    exact equal_text s _ _

/-- Steps of which not all orders are numbers, and not all are texts, are sorted by comparing. -/
theorem listSteps_eq_sort {d e : Record} (hd : d ∈ steps) (hd' : (order d).integer? = none)
    (he : e ∈ steps) (he' : (order e).text? = none) :
    s.listSteps steps = (Sorting.sort (fun d e : Value × Record => s.less d.1 e.1)
      (steps.map fun e => (order e, e))).map (List.map (·.2)) := by
  simp only [listSteps, withOrders_eq horder, bind, Except.bind, sortedBy?_eq_none hd hd',
    sortedBy?_eq_none he he']
  cases Sorting.sort (fun d e : Value × Record => s.less d.1 e.1)
    (steps.map fun e => (order e, e)) <;> rfl

/-- **Steps whose orders go together** are listed by them. -/
theorem listSteps_of_comparable (h : Comparable order steps) :
    ∃ listed, s.listSteps steps = .ok listed ∧ s.ListedByOrder order steps listed := by
  by_cases hintegers : ∀ e ∈ steps, (order e).integer?.isSome = true
  · exact listSteps_of_integers horder hintegers
  obtain ⟨d, hd, hd'⟩ : ∃ d ∈ steps, (order d).integer? = none := by
    simpa using hintegers
  by_cases htexts : ∀ e ∈ steps, (order e).text?.isSome = true
  · exact listSteps_of_texts horder (List.ne_nil_of_mem hd) htexts
  obtain ⟨e, he, he'⟩ : ∃ e ∈ steps, (order e).text? = none := by
    simpa using htexts
  obtain hone | h | h := h
  · obtain ⟨only, rfl⟩ := List.length_eq_one_iff.1
      (Nat.le_antisymm hone (List.length_pos_iff.2 (List.ne_nil_of_mem hd)))
    refine ⟨[only], ?_, .refl _, List.pairwise_singleton _ _, fun _ _ => rfl⟩
    rw [listSteps_eq_sort horder hd hd' he he', List.map_singleton, Sorting.sort_singleton]
    rfl
  · exact absurd h hintegers
  · exact absurd h htexts

/-- **Steps whose orders do not go together** are not listed: orders of two of them cannot be
compared. -/
theorem listSteps_of_not_comparable (hkinds : ∀ e ∈ steps, (order e).IsOrder)
    (h : ¬ Comparable order steps) : ∃ d ∈ steps, ∃ e ∈ steps, s.listSteps steps =
      .error (.notComparable .less (s.kind (order d)) (s.kind (order e))) := by
  rw [Comparable, not_or, not_or] at h
  obtain ⟨hlength, hintegers, htexts⟩ := h
  obtain ⟨d, hd, hd'⟩ : ∃ d ∈ steps, (order d).integer? = none := by
    simpa using hintegers
  obtain ⟨e, he, he'⟩ : ∃ e ∈ steps, (order e).text? = none := by
    simpa using htexts
  rw [listSteps_eq_sort horder hd hd' he he']
  cases hsorted : Sorting.sort (fun d e : Value × Record => s.less d.1 e.1)
    (steps.map fun e => (order e, e)) with
  | ok sorted =>
    -- the first two have been compared, and all others are of their scale
    have hseparates : Sorting.Separates (fun d e : Value × Record => s.less d.1 e.1)
        fun p => p.1.scale := fun _ _ _ => scale_eq_of_less
    have huniform := Sorting.sort_uniform hseparates hsorted
    match steps, hlength with
    | [x], hlength => exact absurd (Nat.le_refl 1) hlength
    | x :: y :: rest, _ =>
      obtain ⟨smaller, hsmaller⟩ := Sorting.exists_less_of_sort hsorted
      have hscale {z : Record} (hz : z ∈ x :: y :: rest) : (order y).scale = (order z).scale :=
        huniform _ (List.mem_map_of_mem (by simp)) _ (List.mem_map_of_mem hz)
      have hy : y ∈ x :: y :: rest := by simp
      have hsame {z : Record} (hz : z ∈ x :: y :: rest) :=
        (hkinds y hy).isSome_of_scale (hkinds z hz) (hscale hz)
      cases isSome_of_less (hkinds y hy) hsmaller with
      | inl hy => exact absurd (fun z hz => (hsame hz).1 hy) hintegers
      | inr hy => exact absurd (fun z hz => (hsame hz).2 hy) htexts
  | error f =>
    have hagree : Sorting.AgreeOn
        (fun f => ∃ d ∈ steps, ∃ e ∈ steps,
          f = .notComparable .less (s.kind (order d)) (s.kind (order e)))
        (fun p : Value × Record => ∃ e ∈ steps, p = (order e, e))
        (fun d e => s.less d.1 e.1) fun d e => s.less d.1 e.1 := by
      rintro _ _ ⟨d, hd, rfl⟩ ⟨e, he, rfl⟩
      refine ⟨rfl, fun f hf => ⟨d, hd, e, he, ?_⟩⟩
      exact eq_notComparable_of_less (hkinds d hd) (hkinds e he) hf
    have hall : ∀ p ∈ steps.map fun e => (order e, e), ∃ e ∈ steps, p = (order e, e) := by
      intro p hp
      obtain ⟨e, he, rfl⟩ := List.mem_map.1 hp
      exact ⟨e, he, rfl⟩
    obtain ⟨d, hd, e, he, rfl⟩ := (Sorting.sort_agree hagree hall).fault f hsorted
    exact ⟨d, hd, e, he, rfl⟩

end Store

namespace Session

/-- **Steps are listed by their orders**, if these go together: each as often as it stands in the
catalogue, in ascending order, and those of the same order as they stand. If the orders do not go
together, listing fails, as two of them cannot be compared. Either way the catalogue stays as it
is. -/
theorem listSteps_by_order (σ : Session) (order : Record → Value)
    (horder : ∀ e ∈ σ.steps, σ.store.field e "order" = .ok (order e) ∧ (order e).IsOrder) :
    (Store.Comparable order σ.steps → ∃ listed, σ.store.listSteps σ.steps = .ok listed ∧
        σ.store.ListedByOrder order σ.steps listed) ∧
      (¬ Store.Comparable order σ.steps → ∃ d ∈ σ.steps, ∃ e ∈ σ.steps,
        let left := σ.store.kind (order d)
        let right := σ.store.kind (order e)
        let f := Fault.notComparable .less left right
        σ.store.listSteps σ.steps = .error f ∧ f.category = .kind ∧
          f.message σ.store = "'<' not supported between instances of '" ++ left.name ++
            "' and '" ++ right.name ++ "'") ∧
      (σ.perform .listSteps).2 = σ ∧ (σ.perform .clearListed).2 = σ := by
  have hfield : ∀ e ∈ σ.steps, σ.store.field e "order" = .ok (order e) :=
    fun e he => (horder e he).1
  refine ⟨Store.listSteps_of_comparable hfield, fun h => ?_, rfl, rfl⟩
  obtain ⟨d, hd, e, he, hlisted⟩ :=
    Store.listSteps_of_not_comparable hfield (fun e he => (horder e he).2) h
  exact ⟨d, hd, e, he, hlisted, rfl, rfl⟩

/-- A truth value that ties with an integer, and what happens if a step without an order joins
them. -/
theorem listSteps_by_order_of_tie :
    let attributes (order : Value) : Table Value :=
      .ofNames [("name", .text "a"), ("description", .text ""), ("order", order)]
    let s : Store :=
      { cells := #[.dict (attributes (.int 2)), .dict (attributes (.bool true)),
          .dict (attributes (.int 1)), .dict (attributes .null)] }
    let order : Record → Value := fun e =>
      if e.attributes = 0 then .int 2 else if e.attributes = 1 then .bool true
      else if e.attributes = 2 then .int 1 else .null
    let steps : List Record := [⟨.step, 0⟩, ⟨.step, 1⟩, ⟨.step, 2⟩]
    s.ListedByOrder order steps [⟨.step, 1⟩, ⟨.step, 2⟩, ⟨.step, 0⟩] ∧
      ∃ left right, s.listSteps (⟨.step, 3⟩ :: steps) = .error (.notComparable .less left right) := by
  intro attributes s order steps
  have horder : ∀ e ∈ (⟨.step, 3⟩ :: steps : List Record),
      s.field e "order" = .ok (order e) ∧ (order e).IsOrder := by
    intro e he
    simp only [steps, List.mem_cons, List.not_mem_nil, or_false] at he
    obtain rfl | rfl | rfl | rfl := he
    · exact ⟨rfl, .null⟩
    · exact ⟨rfl, .int 2⟩
    · exact ⟨rfl, .bool true⟩
    · exact ⟨rfl, .int 1⟩
  constructor
  · have hby := listSteps_by_order { store := s, steps } order fun e he =>
      horder e (List.mem_cons_of_mem _ he)
    obtain ⟨listed, hlisted, hsorted⟩ := hby.1 (.inr (.inl (by decide)))
    have hcomputed : s.listSteps steps = .ok [⟨.step, 1⟩, ⟨.step, 2⟩, ⟨.step, 0⟩] := by cbv
    cases hcomputed.symm.trans hlisted
    exact hsorted
  · have hby := listSteps_by_order { store := s, steps := ⟨.step, 3⟩ :: steps } order horder
    obtain ⟨d, -, e, -, hfails, -⟩ := hby.2.1 (by
      rintro (h | h | h) <;> revert h <;> decide)
    exact ⟨_, _, hfails⟩

end Session

end Walkthrough
