import Mathlib
import Walkthrough.Proofs.Emission

/-!
# Runs with a listener that changes the settings

The listener of a run may change the settings after every line. What a step says is nevertheless
fixed at one moment, when the step is taken: its lines are all produced before the first of them is
emitted. So a run cuts its schedule of changes at the borders between steps. A step sees the changes
for the lines of the steps before it, and no other.

`Snapshots` puts this as a relation, without the loop over lines: a step gives a piece of the output
in one store, and the next step is taken in the store that the changes for that piece have left.
The results say that a run is exactly this.

The relation has no failures in it: it says how a run goes on, and the two ways in which it may end
are said separately. In this form a beginning of a run has a meaning of its own, and two runs with
different schedules can be compared up to any step.

## Main definitions

* `Snapshots` — steps that are taken one after the other, each giving a piece of the output
* `StopsAt` — a step that fails when it is taken
* `Lands` — a schedule of which every change that falls due can be made

## Main results

* `Store.runSteps_append_of_snapshots` — a run goes through its snapshots, and then on
* `Store.runSteps_of_snapshots`, `Store.runSteps_append_of_stopsAt` — the two ways in which it ends
* `Snapshots.of_dueAt_eq` — only the changes for earlier lines matter
* `exists_snapshots_or_stopsAt` — a run with such a schedule ends with its last step, or at one
  that fails
* `run_eq_snapshots` — all of it together
-/

namespace Walkthrough

section

variable (listener : Listener) (steps : List Record) (settings : Value)

/-- `Snapshots listener steps settings k s taken pieces t`: the steps `taken` are taken one after
the other, the first of them in the store `s` and after `k` lines. Each produces its lines, one of
`pieces`, as they are in the store in which it is taken, and then the changes that are due for just
these lines are made. The store after the last of them is `t`. -/
inductive Snapshots : Nat → Store → List Record → List (List String) → Store → Prop
  | nil (k : Nat) (s : Store) : Snapshots k s [] [] s
  | cons {k : Nat} {s t u v : Store} {e : Record} {taken : List Record} {announced : List Event}
      {lines : List String} {pieces : List (List String)} :
      listener.announce s e = .ok announced →
      s.linesOfStep steps settings e = (.ok lines, t) →
      t.mutate settings listener.vars (listener.due k lines.length) = (.ok (), u) →
      Snapshots (k + lines.length) u taken pieces v →
      Snapshots k s (e :: taken) (lines :: pieces) v

/-- `StopsAt listener steps settings s e f t`: the step `e`, taken in the store `s`, fails for `f`
and leaves the store `t`. Either it cannot be announced, or its lines cannot be produced. -/
inductive StopsAt (s : Store) (e : Record) (f : Fault) : Store → Prop
  | announcing : listener.announce s e = .error f → StopsAt s e f s
  | producing {t : Store} {announced : List Event} :
      listener.announce s e = .ok announced →
      s.linesOfStep steps settings e = (.error f, t) → StopsAt s e f t

/-- Every change that falls due in a run of steps can be made at that time: its value can be built,
and the settings take it. The first of the steps is taken in the store `s` and after `k` lines. -/
def Lands : Nat → Store → List Record → Prop
  | _, _, [] => True
  | k, s, e :: rest =>
    ∀ announced lines t, listener.announce s e = .ok announced →
      s.linesOfStep steps settings e = (.ok lines, t) →
      ∃ u, t.mutate settings listener.vars (listener.due k lines.length) = (.ok (), u) ∧
        Lands (k + lines.length) u rest

end

section

variable {listener : Listener} {steps : List Record} {settings : Value}

namespace Store

/-! ### One step of a run -/

/-- A step that can be taken is announced, its lines are emitted, and the run goes on in the store
that the changes have left. -/
theorem runSteps_cons_of_ok (hnone : listener.failAt = none) {k : Nat} {s t u : Store} {e : Record}
    {announced : List Event} {lines : List String} (hann : listener.announce s e = .ok announced)
    (hlines : s.linesOfStep steps settings e = (.ok lines, t))
    (hdue : t.mutate settings listener.vars (listener.due k lines.length) = (.ok (), u))
    (rest : List Record) :
    runSteps listener steps settings s k (e :: rest) =
      let later := runSteps listener steps settings u (k + lines.length) rest
      ⟨announced ++ lines.map .emit ++ later.events, later.outcome.map (lines ++ ·),
        later.store⟩ := by
  simp only [runSteps, hann, hlines, emitLines_of_mutate_due hnone hdue]

/-- A step that fails ends the run before anything is emitted for it. -/
theorem runSteps_cons_of_stopsAt {k : Nat} {s t : Store} {e : Record} {f : Fault}
    (h : StopsAt listener steps settings s e f t) (rest : List Record) :
    (runSteps listener steps settings s k (e :: rest)).lines = [] ∧
      (runSteps listener steps settings s k (e :: rest)).outcome = .error f ∧
      (runSteps listener steps settings s k (e :: rest)).store = t := by
  cases h with
  | announcing hann => simp [runSteps, hann, Trace.lines]
  | producing hann hlines =>
    simp [runSteps, hann, hlines, Trace.lines, Listener.lines_of_announce hann]

/-- **A run goes through its snapshots.** The steps that are taken contribute their pieces and
nothing else, and the run goes on from the store after them. -/
theorem runSteps_append_of_snapshots (hnone : listener.failAt = none) {k : Nat} {s t : Store}
    {taken : List Record} {pieces : List (List String)}
    (h : Snapshots listener steps settings k s taken pieces t) (rest : List Record) :
    let trace := runSteps listener steps settings s k (taken ++ rest)
    let later := runSteps listener steps settings t (k + pieces.flatten.length) rest
    trace.lines = pieces.flatten ++ later.lines ∧
      trace.outcome = later.outcome.map (pieces.flatten ++ ·) ∧ trace.store = later.store := by
  induction h with
  | nil k s =>
    refine ⟨by simp, ?_, by simp⟩
    cases hout : (runSteps listener steps settings s k rest).outcome <;> simp [hout, Except.map]
  | @cons k s t u v e taken announced lines pieces hann hlines hdue _ ih =>
    obtain ⟨ihLines, ihOutcome, ihStore⟩ := ih
    simp only [List.flatten_cons, List.length_append, ← Nat.add_assoc, List.cons_append] at *
    rw [runSteps_cons_of_ok hnone hann hlines hdue]
    refine ⟨?_, ?_, ihStore⟩
    · have hout := ihLines
      simp only [Trace.lines] at hout ⊢
      simp [Listener.lines_of_announce hann, hout]
    · simp only [ihOutcome]
      cases (runSteps listener steps settings v (k + lines.length + pieces.flatten.length)
        rest).outcome <;> simp [Except.map]

/-- Steps that can all be taken give their pieces, and the run returns them. -/
theorem runSteps_of_snapshots (hnone : listener.failAt = none) {k : Nat} {s t : Store}
    {selected : List Record} {pieces : List (List String)}
    (h : Snapshots listener steps settings k s selected pieces t) :
    let trace := runSteps listener steps settings s k selected
    trace.lines = pieces.flatten ∧ trace.outcome = .ok pieces.flatten ∧ trace.store = t := by
  have hend := runSteps_append_of_snapshots hnone h []
  rw [List.append_nil] at hend
  simpa [runSteps, Trace.lines, Except.map] using hend

/-- A step that fails ends the run, after the pieces of the steps before it. -/
theorem runSteps_append_of_stopsAt (hnone : listener.failAt = none) {k : Nat} {s t u : Store}
    {before : List Record} {e : Record} {pieces : List (List String)} {f : Fault}
    (hbefore : Snapshots listener steps settings k s before pieces t)
    (hstop : StopsAt listener steps settings t e f u) (after : List Record) :
    let trace := runSteps listener steps settings s k (before ++ e :: after)
    trace.lines = pieces.flatten ∧ trace.outcome = .error f ∧ trace.store = u := by
  intro trace
  obtain ⟨hendLines, hendOutcome, hendStore⟩ :=
    runSteps_append_of_snapshots hnone hbefore (e :: after)
  obtain ⟨hnoLines, hfault, hstore⟩ :=
    runSteps_cons_of_stopsAt (k := k + pieces.flatten.length) hstop after
  refine ⟨?_, ?_, ?_⟩
  · rw [hendLines, hnoLines, List.append_nil]
  · rw [hendOutcome, hfault]
    rfl
  · rw [hendStore, hstore]

end Store

/-! ### What the snapshots depend on -/

/-- **Only the changes for earlier lines matter.** A listener with another schedule gets the same
pieces, as long as the two schedules agree on the lines before the next step is taken. -/
theorem Snapshots.of_dueAt_eq {k : Nat} {s t : Store} {taken : List Record}
    {pieces : List (List String)} (h : Snapshots listener steps settings k s taken pieces t)
    {mutations : List Mutation}
    (heq : ∀ i, k ≤ i → i < k + pieces.flatten.length →
      ({ listener with mutations } : Listener).dueAt i = listener.dueAt i) :
    Snapshots { listener with mutations } steps settings k s taken pieces t := by
  induction h with
  | nil k s => exact .nil k s
  | @cons k s t u v e taken announced lines pieces hann hlines hdue _ ih =>
    simp only [List.flatten_cons, List.length_append] at heq
    have hsame : ({ listener with mutations } : Listener).due k lines.length =
        listener.due k lines.length :=
      Listener.due_congr fun i hi hlt => heq i hi (by omega)
    refine .cons (e := e) hann hlines ?_ (ih fun i hi hlt => ?_)
    · rw [hsame]
      exact hdue
    · exact heq i (by omega) (by omega)

/-! ### How a run ends -/

/-- Whether a schedule lands need only be known for what a step really comes to. -/
theorem Lands.cons {k : Nat} {s t u : Store} {e : Record} {rest : List Record}
    {lines : List String} (hlines : s.linesOfStep steps settings e = (.ok lines, t))
    (hdue : t.mutate settings listener.vars (listener.due k lines.length) = (.ok (), u))
    (hrest : Lands listener steps settings (k + lines.length) u rest) :
    Lands listener steps settings k s (e :: rest) := by
  intro announced lines' t' _ hlines'
  rw [hlines] at hlines'
  cases hlines'
  exact ⟨u, hdue, hrest⟩

/-- A run with a schedule that lands takes all of its steps, or stops at one of them. -/
theorem exists_snapshots_or_stopsAt {k : Nat} {s : Store} {selected : List Record}
    (h : Lands listener steps settings k s selected) :
    (∃ pieces t, Snapshots listener steps settings k s selected pieces t) ∨
      ∃ before e after pieces t f u, selected = before ++ e :: after ∧
        Snapshots listener steps settings k s before pieces t ∧
        StopsAt listener steps settings t e f u := by
  induction selected generalizing k s with
  | nil => exact Or.inl ⟨[], s, .nil k s⟩
  | cons e rest ih =>
    rcases hann : listener.announce s e with f | announced
    · exact Or.inr ⟨[], e, rest, [], s, f, s, rfl, .nil k s, .announcing hann⟩
    rcases hlines : s.linesOfStep steps settings e with ⟨f | lines, t⟩
    · exact Or.inr ⟨[], e, rest, [], s, f, t, rfl, .nil k s, .producing hann hlines⟩
    -- the changes for the lines of this step leave the store in which the next one is taken
    obtain ⟨u, hdue, hrest⟩ := h announced lines t hann hlines
    obtain ⟨pieces, v, hall⟩ | ⟨before, e', after, pieces, v, f, w, rfl, hbefore, hstop⟩ :=
      ih hrest
    · exact Or.inl ⟨lines :: pieces, v, .cons hann hlines hdue hall⟩
    · exact Or.inr ⟨e :: before, e', after, lines :: pieces, v, f, w, rfl,
        .cons hann hlines hdue hbefore, hstop⟩

/-- **A run is its snapshots.** Of a run that refuses no line and whose schedule lands:

* if all selected steps can be taken, their pieces are what is emitted and what is returned;
* if one of them fails, exactly the pieces of the steps before it are emitted, and its fault ends
  the run;
* one of the two is the case;
* the steps up to any point give the same pieces, in the same stores, under every schedule that
  agrees with this one on the lines before that point, so a change that is made while the lines of
  a step are being emitted shows in later steps only. -/
theorem run_eq_snapshots {only : Value} {s : Store} {selected : List Record}
    (hselected : s.selectSteps steps only = .ok selected) (hnone : listener.failAt = none)
    (hlands : Lands listener steps settings 0 s selected) :
    let trace := s.run listener steps settings only
    (∀ pieces t, Snapshots listener steps settings 0 s selected pieces t →
      trace.lines = pieces.flatten ∧ trace.outcome = .ok pieces.flatten ∧ trace.store = t) ∧
    (∀ before e after pieces t f u, selected = before ++ e :: after →
      Snapshots listener steps settings 0 s before pieces t →
      StopsAt listener steps settings t e f u →
      trace.lines = pieces.flatten ∧ trace.outcome = .error f ∧ trace.store = u) ∧
    ((∃ pieces t, Snapshots listener steps settings 0 s selected pieces t) ∨
      ∃ before e after pieces t f u, selected = before ++ e :: after ∧
        Snapshots listener steps settings 0 s before pieces t ∧
        StopsAt listener steps settings t e f u) ∧
    ∀ before pieces t mutations, Snapshots listener steps settings 0 s before pieces t →
      (∀ i < pieces.flatten.length,
        ({ listener with mutations } : Listener).dueAt i = listener.dueAt i) →
      Snapshots { listener with mutations } steps settings 0 s before pieces t := by
  have hrun : s.run listener steps settings only =
      Store.runSteps listener steps settings s 0 selected := by
    simp only [Store.run, hselected]
  refine ⟨fun pieces t hall => ?_, fun before e after pieces t f u hsplit hbefore hstop => ?_,
    exists_snapshots_or_stopsAt hlands, fun before pieces t mutations hbefore heq => ?_⟩
  · rw [hrun]
    exact Store.runSteps_of_snapshots hnone hall
  · rw [hrun, hsplit]
    exact Store.runSteps_append_of_stopsAt hnone hbefore hstop after
  · exact hbefore.of_dueAt_eq fun i _ hlt => heq i (by omega)

/-- A loop of three iterations, then a comparison with the threshold. After the first line the
number of iterations is set to zero and the count is lowered: the loop keeps its three lines, and
the comparison sees the new count. -/
theorem run_eq_snapshots_of_loop_of_threshold :
    let store (count iterations : Int) : Store :=
      { cells :=
          #[.dict (.ofNames (Step.make "threshold" "" 2)), .dict (.ofNames (Step.make "loop" "" 1)),
            .dict (.ofNames [("count", .int count), ("iterations", .int iterations)]),
            .record ⟨.settings, 2⟩] }
    let steps : List Record := [⟨.step, 0⟩, ⟨.step, 1⟩]
    let listener : Listener :=
      { mutations :=
          [⟨4, "count", .int 6⟩, ⟨0, "iterations", .int 0⟩, ⟨-1, "count", .int 7⟩,
           ⟨0, "count", .int 3⟩] }
    (store 10 3).selectSteps steps .null = .ok steps.reverse ∧ listener.failAt = none ∧
      Lands listener steps (.ref 3) 0 (store 10 3) steps.reverse ∧
      ((store 10 3).run listener steps (.ref 3) .null).lines =
        ["Iteration 0", "Iteration 1", "Iteration 2", "Count is not greater than 5"] := by
  intro store steps listener
  have hselected : (store 10 3).selectSteps steps .null = .ok steps.reverse := by cbv
  have hloop : (store 10 3).linesOfStep steps (.ref 3) ⟨.step, 1⟩ =
      (.ok ["Iteration 0", "Iteration 1", "Iteration 2"], store 10 3) := rfl
  have hchange : (store 10 3).mutate (.ref 3) [] (listener.due 0 3) = (.ok (), store 3 0) := rfl
  have hthreshold : (store 3 0).linesOfStep steps (.ref 3) ⟨.step, 0⟩ =
      (.ok ["Count is not greater than 5"], store 3 0) := rfl
  have hlast : (store 3 0).mutate (.ref 3) [] (listener.due 3 1) = (.ok (), store 3 0) := rfl
  have hlands : Lands listener steps (.ref 3) 0 (store 10 3) steps.reverse :=
    .cons hloop hchange (.cons hthreshold hlast trivial)
  have hall : Snapshots listener steps (.ref 3) 0 (store 10 3) steps.reverse
      [["Iteration 0", "Iteration 1", "Iteration 2"], ["Count is not greater than 5"]]
      (store 3 0) :=
    .cons rfl hloop hchange (.cons rfl hthreshold hlast (.nil _ _))
  exact ⟨hselected, rfl, hlands, ((run_eq_snapshots hselected rfl hlands).1 _ _ hall).1⟩

end

end Walkthrough
