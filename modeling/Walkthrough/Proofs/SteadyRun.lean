import Walkthrough.Proofs.Agreement

/-!
# Runs in which nothing changes

A listener is patient if it refuses no line and makes no changes. If the steps leave the store as it
is, too, then all steps of a run are taken in one and the same store, and the lines of each can be
read off there before the run begins.

Such a run does not depend on whether it is announced, as long as each step can be. This is the
whole use of the notion: what is said about a run with a plain listener carries over to a run with
announcements, whichever way they are printed.

A run may still fail, at a step that has no lines. What has been emitted then are the lines of the
steps before, and this is why the lines of a run are described by membership: whatever is emitted is
a line that some step has in the store at the beginning. For the standard output of a command this
is all that has to be known.

## Main definitions

* `Listener.Patient` — a listener that refuses no line and makes no changes
* `Store.Steady` — steps that leave a store as it is

## Main results

* `Store.exists_of_mem_lines` — every line that is emitted is a line of a step
* `Store.run_eq_plain` — announcements make no difference
-/

namespace Walkthrough

/-- A listener that refuses no line and makes no changes. -/
structure Listener.Patient (listener : Listener) : Prop where
  failAt : listener.failAt = none
  mutations : listener.mutations = []

theorem Listener.patient_plain (vars : Bindings) : (plain vars).Patient := ⟨rfl, rfl⟩

theorem Listener.Patient.due_eq {listener : Listener} (h : listener.Patient) (k n : Nat) :
    listener.due k n = [] := by
  rw [due, List.flatMap_eq_nil_iff]
  intro i _
  rw [dueAt, h.mutations, List.filter_nil]

namespace Store

variable {listener : Listener} {steps listed : List Record} {settings only : Value} {s : Store}

/-- The lines of the steps are told, or not, without a change of the store. -/
def Steady (s : Store) (steps : List Record) (settings : Value) (listed : List Record) : Prop :=
  ∀ e ∈ listed, (s.linesOfStep steps settings e).2 = s

/-- Lines that a patient listener is told are all emitted, and nothing else happens. -/
theorem emitLines_of_patient (h : listener.Patient) (s : Store) (k : Nat) (lines : List String) :
    emitLines listener settings s k lines = ⟨lines.map .emit, .ok lines, s⟩ :=
  emitLines_of_mutate_due h.failAt (by rw [h.due_eq]; rfl)

/-- One step of a run with a patient listener. -/
theorem runSteps_cons_of_patient (hpatient : listener.Patient) {k : Nat} {e : Record}
    {announced : List Event} (hannounced : listener.announce s e = .ok announced)
    {lines : List String} {t : Store} (hlines : s.linesOfStep steps settings e = (.ok lines, t))
    (rest : List Record) :
    runSteps listener steps settings s k (e :: rest) =
      let later := runSteps listener steps settings t (k + lines.length) rest
      ⟨announced ++ lines.map .emit ++ later.events, later.outcome.map (lines ++ ·),
        later.store⟩ := by
  rw [runSteps, hannounced]
  simp only [hlines, emitLines_of_patient hpatient]

/-- A step whose lines cannot be told ends a run. -/
theorem runSteps_cons_of_error {k : Nat} {e : Record} {announced : List Event}
    (hannounced : listener.announce s e = .ok announced) {f : Fault} {t : Store}
    (hlines : s.linesOfStep steps settings e = (.error f, t)) (rest : List Record) :
    runSteps listener steps settings s k (e :: rest) = ⟨announced, .error f, t⟩ := by
  rw [runSteps, hannounced]
  simp only [hlines]

/-- **Every line that is emitted** is a line of a step. -/
theorem exists_of_mem_lines {vars : Bindings} (h : s.Steady steps settings listed) {k : Nat}
    {line : String} (hline : line ∈ (runSteps (.plain vars) steps settings s k listed).lines) :
    ∃ e ∈ listed, ∃ lines, s.linesOfStep steps settings e = (.ok lines, s) ∧ line ∈ lines := by
  induction listed generalizing k with
  | nil => simp [runSteps, Trace.lines] at hline
  | cons e rest ih =>
    obtain ⟨he, hrest⟩ := List.forall_mem_cons.1 h
    rcases hlines : s.linesOfStep steps settings e with ⟨f | lines, t⟩
    · rw [Trace.lines, runSteps_cons_of_error rfl hlines] at hline
      simp at hline
    · obtain rfl : t = s := by rw [← he, hlines]
      rw [Trace.lines, runSteps_cons_of_patient (Listener.patient_plain vars) rfl hlines] at hline
      simp only [List.nil_append, Event.lines_append, Event.lines_map_emit,
        List.mem_append] at hline
      rcases hline with hfirst | hlater
      · exact ⟨e, List.mem_cons_self, lines, hlines, hfirst⟩
      · obtain ⟨d, hd, others, hothers, hmem⟩ := ih hrest hlater
        exact ⟨d, List.mem_cons_of_mem e hd, others, hothers, hmem⟩

/-- Announcements make no difference to the steps that are gone through. -/
theorem runSteps_eq_plain (vars : Bindings) (hpatient : listener.Patient)
    (hsteady : s.Steady steps settings listed)
    (hannounced : ∀ e ∈ listed, ∃ announced, listener.announce s e = .ok announced) (k : Nat) :
    let told := runSteps listener steps settings s k listed
    let quiet := runSteps (.plain vars) steps settings s k listed
    told.lines = quiet.lines ∧ told.outcome = quiet.outcome ∧ told.store = quiet.store := by
  induction listed generalizing k with
  | nil => exact ⟨rfl, rfl, rfl⟩
  | cons e rest ih =>
    obtain ⟨he, hrest⟩ := List.forall_mem_cons.1 hsteady
    obtain ⟨⟨announced, hfirst⟩, hothers⟩ := List.forall_mem_cons.1 hannounced
    have hnone := Listener.lines_of_announce hfirst
    rcases hlines : s.linesOfStep steps settings e with ⟨f | lines, t⟩
    · rw [runSteps_cons_of_error hfirst hlines, runSteps_cons_of_error rfl hlines]
      exact ⟨hnone, rfl, rfl⟩
    · obtain rfl : t = s := by rw [← he, hlines]
      rw [runSteps_cons_of_patient hpatient hfirst hlines,
        runSteps_cons_of_patient (Listener.patient_plain vars) rfl hlines]
      obtain ⟨hlater, houtcome, hstore⟩ := ih hrest hothers (k + lines.length)
      simp only [Trace.lines] at hlater
      refine ⟨?_, ?_, hstore⟩
      · simp only [Trace.lines, Event.lines_append, hnone, hlater, Event.lines_nil]
      · simp only [houtcome]

/-- **Announcements make no difference** to a steady run, if all steps that are selected can be
announced. -/
theorem run_eq_plain (vars : Bindings) (hpatient : listener.Patient)
    (h : ∀ selected, s.selectSteps steps only = .ok selected →
      s.Steady steps settings selected ∧
        ∀ e ∈ selected, ∃ announced, listener.announce s e = .ok announced) :
    let told := s.run listener steps settings only
    let quiet := s.run (.plain vars) steps settings only
    told.lines = quiet.lines ∧ told.outcome = quiet.outcome ∧ told.store = quiet.store := by
  simp only [run]
  rcases hselected : s.selectSteps steps only with f | selected
  · exact ⟨rfl, rfl, rfl⟩
  · obtain ⟨hsteady, hannounced⟩ := h selected hselected
    exact runSteps_eq_plain vars hpatient hsteady hannounced 0

end Store

end Walkthrough
