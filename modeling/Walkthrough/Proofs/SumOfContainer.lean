import Mathlib.Data.Rat.Floor
import Mathlib.Tactic.Linarith
import Mathlib.Tactic.Ring
import Walkthrough.Proofs.Locality
import Walkthrough.Proofs.SessionConfinement
import Walkthrough.Proofs.Summation

/-!
# Sums of containers

A sum asks a container for its elements and for nothing else, so a list, a tuple, the keys of a
dictionary and a new walk through a list have the same sum, or fail alike, if they give the same
elements. Of these only the walk is moved on.

A progression gives its terms, and how many there are is the distance to the bound divided by the
step, rounded up, or none if that is negative. The terms are a step apart, so twice their sum is
their number times the first and the last of them.

## What a sum reads

Besides the elements, adding reads the kinds of objects, which it tells in a fault. So a sum is the
same in two stores in which all elements have the same kinds, and making a walk changes none of
these as long as nothing refers to the address that the walk gets. That is the reason for the
condition in the case of a walk that is begun before it is summed; if both are summed in the store
with the walk, then none is needed.

## Main results

* `Progression.length_eq_max_ceil`, `Progression.lt_length_iff` — how many terms there are
* `Progression.two_mul_sum_terms` — what they add up to
* `Store.sum_of_collection` — summing what is no iterator
* `sum_of_containers` — containers with the same elements, and progressions
-/

namespace Walkthrough

open Referring (Avoids)

/-! ### Progressions -/

namespace Progression

variable (r : Progression)

/-- Adding what is missing to a whole multiple rounds a quotient up. -/
theorem ceil_div_eq (d : ℤ) {m : ℤ} (hm : 0 < m) : ⌈(d : ℚ) / m⌉ = (d + m - 1) / m := by
  have hm' : (0 : ℚ) < m := Int.cast_pos.2 hm
  have hdivision := Int.mul_ediv_add_emod (d + m - 1) m
  have hnonneg := Int.emod_nonneg (d + m - 1) hm.ne'
  have hlt := Int.emod_lt_of_pos (d + m - 1) hm
  rw [Int.ceil_eq_iff, lt_div_iff₀ hm', div_le_iff₀ hm']
  constructor
  · have hbelow : ((d + m - 1) / m - 1) * m < d := by
      rw [sub_mul, mul_comm]
      omega
    exact_mod_cast hbelow
  · have habove : d ≤ (d + m - 1) / m * m := by
      rw [mul_comm]
      omega
    exact_mod_cast habove

/-- **The number of terms** is the distance to the bound divided by the step, rounded up. -/
theorem length_eq_max_ceil :
    (r.length : ℤ) = max 0 ⌈((r.stop - r.start : ℤ) : ℚ) / (r.step : ℤ)⌉ := by
  rw [length]
  by_cases hpos : 0 < r.step
  · rw [if_pos hpos, ceil_div_eq _ hpos, Int.toNat_eq_max, max_comm]
  · have hneg : 0 < -r.step := by
      have := r.step_ne_zero
      omega
    have hflip : ((r.stop - r.start : ℤ) : ℚ) / (r.step : ℤ) =
        ((r.start - r.stop : ℤ) : ℚ) / ((-r.step : ℤ) : ℚ) := by
      rw [Int.cast_neg, ← neg_sub r.start, Int.cast_neg, neg_div, div_neg]
    rw [if_neg hpos, hflip, ceil_div_eq _ hneg, Int.toNat_eq_max, max_comm, ← sub_eq_add_neg]

/-- A term is one of the progression if it comes before the bound. -/
theorem lt_length_iff (i : ℕ) :
    i < r.length ↔ 0 < r.step ∧ r.term i < r.stop ∨ r.step < 0 ∧ r.stop < r.term i := by
  have hcount (d m : ℤ) (hm : 0 < m) : i < ((d + m - 1) / m).toNat ↔ i * m < d := by
    rw [Int.lt_toNat, ← Int.add_one_le_iff, Int.le_ediv_iff_mul_le hm, add_mul]
    omega
  rw [length, term]
  by_cases hpos : 0 < r.step
  · rw [if_pos hpos, hcount _ _ hpos]
    omega
  · have hneg : 0 < -r.step := by
      have := r.step_ne_zero
      omega
    rw [if_neg hpos, sub_eq_add_neg (r.start - r.stop), hcount _ _ hneg, mul_neg]
    omega

theorem two_mul_sum_map_term (n : ℕ) :
    2 * ((List.range n).map r.term).sum = n * (2 * r.start + (n - 1) * r.step) := by
  induction n with
  | zero => simp
  | succ n ih =>
    rw [List.range_succ, List.map_append, List.sum_append, mul_add, ih, List.map_singleton,
      List.sum_singleton, term]
    push_cast
    ring

/-- **The sum of the terms**, doubled. -/
theorem two_mul_sum_terms :
    2 * r.terms.sum = r.length * (2 * r.start + (r.length - 1) * r.step) :=
  r.two_mul_sum_map_term r.length

end Progression

/-! ### Containers -/

namespace Store

variable {s : Store} {v : Value} {items : List Value}

theorem moveOn_of_not_iterator (h : ∀ it, s.cell? v ≠ some (.iterator it)) (read : Nat)
    (ranOff : Bool) : s.moveOn v read ranOff = s := by
  unfold moveOn
  split
  · rename_i hcell
    exact absurd hcell (h _)
  · rfl

/-- **Summing what is no iterator** asks for its elements, and leaves everything as it is. -/
theorem sum_of_collection (h : s.elements v = .ok items)
    (hv : ∀ it, s.cell? v ≠ some (.iterator it)) : s.sum v = (s.sumFrom (.int 0) items, s) := by
  rw [sum, h]
  simp only [moveOn_of_not_iterator hv]

theorem sum_of_list (h : s.cell? v = some (.list items)) :
    s.sum v = (s.sumFrom (.int 0) items, s) :=
  sum_of_collection (elements_of_cell? h) fun it => by rw [h]; exact nofun

/-! ### Walks -/

/-- A list is held by its address. -/
theorem exists_eq_ref_of_list (h : s.cell? v = some (.list items)) : ∃ a, v = .ref a := by
  cases v with
  | ref a => exact ⟨a, rfl⟩
  | description d =>
    simp only [cell?, Option.some.injEq] at h
    unfold Description.cell at h
    split at h <;> cases h
  | _ => cases h

/-- A walk through a list begins at its first element. -/
theorem walk_of_list {a : Addr} (h : s.get? a = some (.list items)) :
    s.walk (.ref a) = .ok (s.alloc (.iterator (.overList a 0))) := by
  have hcell : s.cell? (.ref a) = some (.list items) := h
  simp only [walk, hcell]

theorem fst_sum_of_overList {a b : Addr} (ha : s.get? a = some (.list items))
    (hb : s.get? b = some (.iterator (.overList a 0))) :
    (s.sum (.ref b)).1 = s.sumFrom (.int 0) items := by
  have hahead : (Iterator.overList a 0).ahead s = .ok items := by
    simp only [Iterator.ahead, ha, List.drop_zero]
  have hcell : s.cell? (.ref b) = some (.iterator (.overList a 0)) := hb
  exact fst_sum_of_elements ((elements_of_cell? hcell).trans hahead)

/-- Kinds are all that a sum reads of a store. -/
theorem sumFrom_congr {t : Store} (h : ∀ x ∈ items, t.kind x = s.kind x) (total : Number) :
    t.sumFrom total items = s.sumFrom total items := by
  induction items generalizing total with
  | nil => rfl
  | cons v rest ih =>
    obtain ⟨hv, hrest⟩ := List.forall_mem_cons.1 h
    simp only [sumFrom, addElement, hv, ih hrest]

/-- If nothing refers to what is not there, then what is made does not change a sum. -/
theorem sumFrom_alloc {a : Addr} (hs : Avoids {a | s.size ≤ a} s)
    (h : s.get? a = some (.list items)) (c : Cell) (total : Number) :
    (s.alloc c).2.sumFrom total items = s.sumFrom total items := by
  have halike := (extends_alloc s c).alike hs
  have hitems : Avoids {a | s.size ≤ a} items := hs a _ (Nat.not_le.2 (lt_of_get? h)) h
  exact sumFrom_congr (fun x hx => halike.kind_eq (hitems x hx)) total

end Store

/-- **Sums of containers.** A list has

* the same sum as a tuple of its elements and as a dictionary with these keys, in this order, or
  fails as they do;
* the same sum as a new walk through it, or fails alike, summed at the same time; and if no object
  refers to anything that is not there, then it has had that sum before the walk began.

The number of terms of a progression is the distance to the bound divided by the step, rounded up, or
zero; these are the terms that come before the bound. Their sum is that of a list of them, and twice
the sum is their number times the first and the last of them. -/
theorem sum_of_containers (s : Store) :
    (∀ v xs, s.cell? v = some (.list xs) →
      (∀ w, s.cell? w = some (.tuple xs) → s.sum w = s.sum v) ∧
      (∀ w entries, s.cell? w = some (.dict entries) → entries.map (·.1) = xs →
        s.sum w = s.sum v) ∧
      ∃ it t, s.walk v = .ok (it, t) ∧ (t.sum it).1 = (t.sum v).1 ∧
        (Avoids {a | s.size ≤ a} s → (t.sum it).1 = (s.sum v).1)) ∧
    ∀ r : Progression,
      (r.length : ℤ) = max 0 ⌈((r.stop - r.start : ℤ) : ℚ) / (r.step : ℤ)⌉ ∧
      (∀ i, i < r.length ↔ 0 < r.step ∧ r.term i < r.stop ∨ r.step < 0 ∧ r.stop < r.term i) ∧
      (∀ v, s.cell? v = some (.list (r.terms.map .int)) → s.sum (.range r) = s.sum v) ∧
      ∃ total, s.sum (.range r) = (.ok (.int total), s) ∧
        2 * total = r.length * (2 * r.start + (r.length - 1) * r.step) := by
  refine ⟨fun v xs hv => ⟨fun w hw => ?_, fun w entries hw hkeys => ?_, ?_⟩, fun r => ?_⟩
  · rw [Store.sum_of_list hv, Store.sum_of_collection (Store.elements_of_cell? hw)]
    rw [hw]
    exact nofun
  · rw [Store.sum_of_list hv, Store.sum_of_collection (Store.elements_of_cell? hw), hkeys]
    rw [hw]
    exact nofun
  · obtain ⟨a, rfl⟩ := Store.exists_eq_ref_of_list hv
    have hlater : (s.alloc (.iterator (.overList a 0))).2.get? a = some (.list xs) :=
      (Store.extends_alloc s _).get?_of_some hv
    have hsum := Store.fst_sum_of_overList hlater (Store.get?_alloc_self s _)
    refine ⟨_, _, Store.walk_of_list hv, hsum.trans ?_, fun hs => hsum.trans ?_⟩
    · exact (congrArg Prod.fst (Store.sum_of_list (v := .ref a) hlater)).symm
    · rw [Store.sum_of_list hv, Store.sumFrom_alloc hs hv]
  · have hrange : s.sum (.range r) = (s.sumFrom (.int 0) (r.terms.map .int), s) :=
      Store.sum_of_collection rfl fun it => nofun
    have htotal : s.sumFrom (.int 0) (r.terms.map .int) = .ok (.int (0 + r.terms.sum)) := by
      refine Store.sumFrom_of_integers ?_ 0
      rw [List.map_map]
      rfl
    refine ⟨r.length_eq_max_ceil, r.lt_length_iff, fun v hv => ?_, r.terms.sum, ?_,
      r.two_mul_sum_terms⟩
    · rw [hrange, Store.sum_of_list hv]
    · rw [hrange, htotal, zero_add]

/-- Elements of which the second cannot be added, and a progression that goes down and does not meet its
bound. -/
theorem sum_of_containers_of_text :
    let r : Progression := ⟨10, 0, -3, by decide⟩
    let s := (Session.performAll {} [
      .bind "l" (.list [.int 2, .text "a", .null]), .bind "t" (.tuple [.int 2, .text "a", .null]),
      .bind "d" (.dict [(.int 2, .null), (.text "a", .named "l"), (.null, .null)]),
      .bind "r" (.list [.int 10, .int 7, .int 4, .int 1])]).2.store
    s.sum (.ref 6) = s.sum (.ref 5) ∧ s.sum (.ref 7) = s.sum (.ref 5) ∧
      (∃ it t, s.walk (.ref 5) = .ok (it, t) ∧ (t.sum it).1 = .error (.notAddable .int .text)) ∧
      s.sum (.range r) = s.sum (.ref 8) ∧ s.sum (.range r) = (.ok (.int 22), s) := by
  intro r s
  have hclosed : Avoids {a | s.size ≤ a} s :=
    (Session.closed_initial.performAll _ {a | s.size ≤ a} fun _ ha => ha).1
  obtain ⟨hlists, hranges⟩ := sum_of_containers s
  obtain ⟨htuple, hdict, it, t, hwalk, -, hbefore⟩ :=
    hlists (.ref 5) [.int 2, .text "a", .null] (by decide +kernel)
  obtain ⟨-, -, hlist, total, hsum, htotal⟩ := hranges r
  have hfails : (s.sum (.ref 5)).1 = .error (.notAddable .int .text) := by decide +kernel
  refine ⟨htuple (.ref 6) (by decide +kernel),
    hdict (.ref 7) [(.int 2, .null), (.text "a", .ref 5), (.null, .null)] (by decide +kernel) rfl,
    ⟨it, t, hwalk, (hbefore hclosed).trans hfails⟩, hlist (.ref 8) (by decide +kernel), ?_⟩
  obtain rfl : total = 22 := by
    have hlength : r.length = 4 := by decide
    rw [hlength] at htotal
    simp only [r] at htotal
    omega
  exact hsum

end Walkthrough
