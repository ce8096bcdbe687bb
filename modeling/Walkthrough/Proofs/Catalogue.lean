import Walkthrough.Catalogue
import Walkthrough.Proofs.Sorting.Permutation

/-!
# Listing and finding steps

A catalogue is listed without losing a step, whichever way its orders are compared. A step that is
found by a name has that name.

What is said here needs nothing of the orders and the names but that they are values. In which order
steps are listed, and which of several steps of one name is found, is said elsewhere, with
conditions on these. The two results below have none, and are what most statements about a catalogue
begin with: whatever is listed is a step of it, and a step that has been found by a text can be
asked for by that text again.

## Main results

* `Store.listSteps_perm` — the steps listed are those of the catalogue
* `Store.field_of_findStep` — the step found by a text has it for its name
-/

namespace Walkthrough

open Sorting (bind_eq_ok)

/-- Keys that are found for all elements are put beside them. -/
theorem map_snd_of_mapM_key {α : Type} {key? : Value → Option α} {steps : List (Value × Record)}
    {keyed : List (α × Record)}
    (h : (steps.mapM fun (order, e) => (key? order).map fun key => (key, e)) = some keyed) :
    keyed.map (·.2) = steps.map (·.2) := by
  induction steps generalizing keyed with
  | nil =>
    cases h
    rfl
  | cons step rest ih =>
    rw [List.mapM_cons] at h
    simp only [Option.bind_eq_bind, Option.bind_eq_some_iff, Option.map_eq_some_iff] at h
    obtain ⟨first, ⟨key, -, rfl⟩, later, hlater, h⟩ := h
    cases h
    rw [List.map_cons, List.map_cons, ih hlater]

/-- Sorting by keys sorts the steps that have them, and all must have one. -/
theorem sortedBy?_perm {α : Type} {before : α → α → Bool} {order? : Value → Option α}
    {steps : List (Value × Record)} {listed : List Record}
    (h : sortedBy? before order? steps = some listed) : listed.Perm (steps.map (·.2)) := by
  unfold sortedBy? at h
  simp only [Option.bind_eq_bind, Option.bind_eq_some_iff] at h
  obtain ⟨keyed, hkeyed, h⟩ := h
  cases h
  rw [← map_snd_of_mapM_key hkeyed]
  exact (List.mergeSort_perm _ _).map _

namespace Store

variable {s : Store} {steps : List Record}

theorem map_snd_of_withOrders {keyed : List (Value × Record)} (h : s.withOrders steps = .ok keyed) :
    keyed.map (·.2) = steps := by
  unfold withOrders at h
  induction steps generalizing keyed with
  | nil =>
    cases h
    rfl
  | cons e rest ih =>
    rw [List.mapM_cons] at h
    obtain ⟨first, hfirst, h⟩ := bind_eq_ok.1 h
    obtain ⟨later, hlater, h⟩ := bind_eq_ok.1 h
    obtain ⟨order, -, hfirst⟩ := bind_eq_ok.1 hfirst
    cases h
    cases hfirst
    rw [List.map_cons, ih hlater]

/-- **The steps listed are those of the catalogue**, each as often as it stands there. -/
theorem listSteps_perm {listed : List Record} (h : s.listSteps steps = .ok listed) :
    listed.Perm steps := by
  obtain ⟨keyed, hkeyed, h⟩ := bind_eq_ok.1 h
  rw [← map_snd_of_withOrders hkeyed]
  split at h
  · cases h
    exact sortedBy?_perm ‹_›
  split at h
  · cases h
    exact sortedBy?_perm ‹_›
  · obtain ⟨sorted, hsorted, h⟩ := bind_eq_ok.1 h
    cases h
    exact (Sorting.sort_perm hsorted).map _

/-! ### Finding a step

Names may be any values, and a text finds a step only if the name of the step is that text. Nothing
else is equal to a text.
-/

/-- Nothing but a text is equal to a text. -/
theorem eq_of_equal_text {v : Value} {t : String} (h : s.equal v (.text t) = .ok true) :
    v = .text t := by
  unfold equal callLevels equalWithin at h
  dsimp only [cell?] at h
  split at h
  · rename_i hnumber
    cases hnumber
  · split at h
    · contradiction
    · split at h
      · rename_i hcell
        cases hcell
      · exact of_decide_eq_true (Except.ok.inj h)

/-- The step that is found by a name goes by that name. -/
theorem field_of_findStep {t : String} {e : Record}
    (h : s.findStep (.text t) steps = .ok (some e)) : s.field e "name" = .ok (.text t) := by
  induction steps with
  | nil => cases h
  | cons d rest ih =>
    rw [findStep] at h
    obtain ⟨name, hname, h⟩ := bind_eq_ok.1 h
    obtain ⟨isEqual, hequal, h⟩ := bind_eq_ok.1 h
    split at h
    · rename_i htrue
      cases h
      rw [htrue] at hequal
      rw [hname, eq_of_equal_text hequal]
    · exact ih h

end Store

end Walkthrough
