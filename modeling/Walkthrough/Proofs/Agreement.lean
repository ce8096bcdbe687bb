import Walkthrough.Proofs.Emission

/-!
# Lines with and without a listener

The lines of all steps can be asked for at once, or heard one by one in a run. A plain listener
neither refuses a line nor changes the settings, and wants no announcements. What it hears is what
the other way gives: the same lines or the same fault, and the same store, so also an iterator that
has moved on as far.

The two are written as different recursions. All lines are collected step by step, and handed on
when the last step has been taken; a run emits the lines of a step before it takes the next one, and
may be told to do something in between. With a listener who does nothing there is nothing in
between, so that each step is taken in the same store in both. The induction is on the steps, for
any number of lines before.

## Main definitions

* `Listener.plain` — a listener that only listens

## Main results

* `Store.runSteps_plain` — a run with a plain listener, without its loop over lines
* `allLines_eq_run_plain` — the lines of all steps are those of such a run
-/

namespace Walkthrough

/-- A listener that only listens: it refuses no line, changes nothing and wants no announcements.
Variables make no difference to it. -/
def Listener.plain (vars : Bindings) : Listener := { vars }

namespace Listener

@[simp] theorem announce_plain (vars : Bindings) (s : Store) (e : Record) :
    (plain vars).announce s e = .ok [] := rfl

@[simp] theorem due_plain (vars : Bindings) (k n : Nat) : (plain vars).due k n = [] := by
  rw [due, List.flatMap_eq_nil_iff]
  intro i _
  rfl

end Listener

namespace Store

variable {vars : Bindings} {steps : List Record} {settings : Value}

/-- A plain listener hears all lines as they are, and leaves the store alone. -/
@[simp] theorem emitLines_plain (s : Store) (k : Nat) (lines : List String) :
    emitLines (.plain vars) settings s k lines = ⟨lines.map .emit, .ok lines, s⟩ :=
  emitLines_of_mutate_due rfl (by simp [mutate])

/-- **Going through steps with a plain listener** gives the lines of the steps, one step after the
other; a run that returns has emitted just what it returns. -/
theorem runSteps_plain (s : Store) (k : Nat) (selected : List Record) :
    (runSteps (.plain vars) steps settings s k selected).outcome =
        (s.linesOf steps settings selected).1 ∧
      (runSteps (.plain vars) steps settings s k selected).store =
        (s.linesOf steps settings selected).2 ∧
      ∀ lines, (s.linesOf steps settings selected).1 = .ok lines →
        (runSteps (.plain vars) steps settings s k selected).events = lines.map .emit := by
  induction selected generalizing s k with
  | nil =>
    refine ⟨rfl, rfl, ?_⟩
    rintro lines ⟨⟩
    rfl
  | cons e rest ih =>
    rcases hlines : s.linesOfStep steps settings e with ⟨f | lines, t⟩
    · simp [runSteps, linesOf, hlines]
    · obtain ⟨houtcome, hstore, hevents⟩ := ih t (k + lines.length)
      simp only [runSteps, linesOf, hlines, Listener.announce_plain, emitLines_plain]
      refine ⟨by rw [houtcome], hstore, fun all hall => ?_⟩
      rcases hrest : (t.linesOf steps settings rest).1 with f | later
      · simp [hrest, Except.map] at hall
      · simp only [hrest, Except.map, Except.ok.injEq] at hall
        rw [hevents later hrest, ← hall]
        simp

/-- A run of all steps with a plain listener. -/
theorem run_plain_null {s : Store} {listed : List Record} (h : s.listSteps steps = .ok listed) :
    s.run (.plain vars) steps settings .null =
      runSteps (.plain vars) steps settings s 0 listed := by
  simp [run, selectSteps, truthy, h]

end Store

/-- **The two ways agree.** For settings that count as true, the lines of all steps and a run with
a plain listener end alike, with the same lines or the same fault, and leave the same store; a run
that returns lines has emitted just these. Settings that do not count as true stand for new ones
with every field at its default. -/
theorem allLines_eq_run_plain (vars : Bindings) (steps : List Record) (settings : Value)
    (s : Store) :
    (s.truthy settings = true →
      let trace := s.run (.plain vars) steps settings .null
      s.allLines steps settings = (trace.outcome, trace.store) ∧
      ∀ lines, trace.outcome = .ok lines → trace.events = lines.map .emit) ∧
    (s.truthy settings = false →
      let made := s.allocSettings
      let trace := made.2.run (.plain vars) steps made.1 .null
      s.allLines steps settings = (trace.outcome, trace.store) ∧
      ∀ lines, trace.outcome = .ok lines → trace.events = lines.map .emit) := by
  -- both parts are this, for the settings that are used in the end
  have key (t : Store) (used : Value) (result : Except Fault (List String) × Store)
      (hfails : ∀ f, t.listSteps steps = .error f → result = (.error f, t))
      (hworks : ∀ listed, t.listSteps steps = .ok listed →
        result = t.linesOf steps used listed) :
      let trace := t.run (.plain vars) steps used .null
      result = (trace.outcome, trace.store) ∧
      ∀ lines, trace.outcome = .ok lines → trace.events = lines.map .emit := by
    intro trace
    rcases hlisted : t.listSteps steps with f | listed
    · have htrace : trace = ⟨[], .error f, t⟩ := by
        simp [trace, Store.run, Store.selectSteps, Store.truthy, hlisted]
      simp [htrace, hfails f hlisted]
    · have htrace : trace = Store.runSteps (.plain vars) steps used t 0 listed :=
        Store.run_plain_null hlisted
      obtain ⟨houtcome, hstore, hevents⟩ :=
        @Store.runSteps_plain vars steps used t 0 listed
      rw [htrace, houtcome, hstore]
      exact ⟨hworks listed hlisted, hevents⟩
  refine ⟨fun htrue => ?_, fun hfalse => ?_⟩
  · refine key s settings _ ?_ ?_
    · intro f hf
      simp only [Store.allLines, htrue, if_true, hf]
    · intro listed hlisted
      simp only [Store.allLines, htrue, if_true, hlisted]
  · refine key s.allocSettings.2 s.allocSettings.1 _ ?_ ?_
    · intro f hf
      simp only [Store.allLines, hfalse, Bool.false_eq_true, if_false, hf]
    · intro listed hlisted
      simp only [Store.allLines, hfalse, Bool.false_eq_true, if_false, hlisted]

end Walkthrough
