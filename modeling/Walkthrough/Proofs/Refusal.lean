import Walkthrough.Proofs.Emission
import Walkthrough.Session

/-!
# Runs with a listener that refuses a line

A listener may refuse one line, which ends the run. Such a run is the beginning of the run of a
listener that is the same otherwise: it ends where that one emits the line, with the events before
it and in the store of that moment.

## Moments

A trace tells what a run has done and which store it has left, and not the stores in between.
`Store.moments` is the same log with the store kept beside every event. It is a view, and adds
nothing to a run: without the stores it is the events of the trace (`Store.events_moments`).

## Why moments

That two runs are the same up to a line could be said about their events alone. But the run that is
cut also leaves a store, and this must be the one that the other run had at that time, which its
trace does not tell. With the moments it can be said where the cut is made, and the induction over
steps has something to hold on to: the moments of a run are those of its first step, and then those
of the rest.

## Main definitions

* `Moment` — an event, and the store in which it happens
* `Store.moments` — the moments of a run
* `CutAt` — a run that ends where another one emits a certain line

## Main results

* `Store.events_moments` — the moments of a run are its events
* `Store.cutAt_runSteps` — refusing a line cuts a run
* `run_refusing_eq_cut` — all of it together
-/

namespace Walkthrough

/-- An event of a run, and the store in which it happens. What the listener changes when it is told
a line comes after that. -/
structure Moment where
  store : Store
  event : Event

/-- The events of moments. -/
def Moment.events (moments : List Moment) : List Event := moments.map (·.event)

@[simp] theorem Moment.events_nil : Moment.events [] = [] := rfl

@[simp] theorem Moment.events_cons (now : Moment) (moments : List Moment) :
    Moment.events (now :: moments) = now.event :: Moment.events moments := rfl

@[simp] theorem Moment.events_append (before after : List Moment) :
    Moment.events (before ++ after) = Moment.events before ++ Moment.events after :=
  List.map_append

namespace Store

/-- The moments of emitting lines, the first of them as line number `k`. -/
def emitMoments (listener : Listener) (settings : Value) (s : Store) (k : Nat) :
    List String → List Moment
  | [] => []
  | line :: rest =>
    if listener.failAt = some (k : Int) then []
    else
      match s.mutate settings listener.vars (listener.mutations.filter (·.moment = k)) with
      | (.error _, _) => [⟨s, .emit line⟩]
      | (.ok (), t) => ⟨s, .emit line⟩ :: emitMoments listener settings t (k + 1) rest

/-- The moments of going through steps when `k` lines have been emitted before. -/
def stepMoments (listener : Listener) (steps : List Record) (settings : Value) (s : Store)
    (k : Nat) : List Record → List Moment
  | [] => []
  | e :: rest =>
    match listener.announce s e with
    | .error _ => []
    | .ok announced =>
      announced.map (⟨s, ·⟩) ++
        match s.linesOfStep steps settings e with
        | (.error _, _) => []
        | (.ok lines, t) =>
          let emitted := emitLines listener settings t k lines
          emitMoments listener settings t k lines ++
            match emitted.outcome with
            | .error _ => []
            | .ok _ =>
              stepMoments listener steps settings emitted.store (k + lines.length) rest

/-- The moments of a run of all steps, or of the one named by `only`. -/
def moments (listener : Listener) (steps : List Record) (settings only : Value) (s : Store) :
    List Moment :=
  match s.selectSteps steps only with
  | .error _ => []
  | .ok selected => stepMoments listener steps settings s 0 selected

/-! ### Moments are events

The definitions of the moments follow those of the run, and so do the proofs that they are the
events: by induction on lines, and on steps.
-/

variable {listener : Listener} {steps : List Record} {settings : Value}

/-- By induction on the lines. -/
theorem events_emitMoments (s : Store) (k : Nat) (lines : List String) :
    Moment.events (emitMoments listener settings s k lines) =
      (emitLines listener settings s k lines).events := by
  induction lines generalizing s k with
  | nil => rfl
  | cons line rest ih =>
    by_cases hk : listener.failAt = some (k : Int)
    · simp [emitMoments, emitLines, hk]
    · rcases hm : s.mutate settings listener.vars (listener.mutations.filter (·.moment = k)) with
        ⟨f | _, t⟩ <;> simp [emitMoments, emitLines, hk, hm, ih]

/-- An announcement is made in the store in which the step is taken. -/
theorem events_map_announced (s : Store) (announced : List Event) :
    Moment.events (announced.map (⟨s, ·⟩)) = announced := by
  simp [Moment.events, Function.comp_def]

/-- By induction on the steps. -/
theorem events_stepMoments (s : Store) (k : Nat) (selected : List Record) :
    Moment.events (stepMoments listener steps settings s k selected) =
      (runSteps listener steps settings s k selected).events := by
  induction selected generalizing s k with
  | nil => rfl
  | cons e rest ih =>
    rcases hann : listener.announce s e with f | announced
    · simp [stepMoments, runSteps, hann]
    rcases hlines : s.linesOfStep steps settings e with ⟨f | lines, t⟩
    · simp [stepMoments, runSteps, hann, hlines, events_map_announced]
    rcases hout : (emitLines listener settings t k lines).outcome with f | done <;>
      simp [stepMoments, runSteps, hann, hlines, hout, events_map_announced, events_emitMoments, ih]

/-- **The moments of a run are its events**, each with the store in which it happens. -/
theorem events_moments (only : Value) (s : Store) :
    Moment.events (s.moments listener steps settings only) =
      (s.run listener steps settings only).events := by
  rcases hselected : s.selectSteps steps only with f | selected
  · simp [moments, run, hselected]
  · simp [moments, run, hselected, events_stepMoments]

end Store

/-! ### Cuts

A cut is a relation between two runs, with the number of the line at which the second one ends. It
is shown for emitting lines first, and carried through steps by shifting the number by what has been
emitted before.
-/

/-- `CutAt n moments whole cut`: the run `cut` is the run `whole`, of which `moments` are the
moments, up to its line number `n`. Where `whole` emits that line, `cut` ends with a refusal, after
the events before it and in the store of that moment; if `whole` does not come so far, there is no
difference. -/
def CutAt (n : Nat) (moments : List Moment) (whole cut : Trace) : Prop :=
  (Event.lines (Moment.events moments)).length ≤ n ∧ cut = whole ∨
    ∃ before now line after, moments = before ++ now :: after ∧ now.event = .emit line ∧
      (Event.lines (Moment.events before)).length = n ∧
      cut = ⟨Moment.events before, .error .emitFailed, now.store⟩

/-- What both runs have done before does not matter for a cut. -/
theorem CutAt.prepend {n : Nat} {moments : List Moment} {whole cut : Trace}
    (h : CutAt n moments whole cut) (earlier : List Moment)
    (g : List String → List String) :
    CutAt (n + (Event.lines (Moment.events earlier)).length) (earlier ++ moments)
      ⟨Moment.events earlier ++ whole.events, whole.outcome.map g, whole.store⟩
      ⟨Moment.events earlier ++ cut.events, cut.outcome.map g, cut.store⟩ := by
  obtain ⟨hle, rfl⟩ | ⟨before, now, line, after, rfl, hnow, hn, rfl⟩ := h
  · refine Or.inl ⟨?_, rfl⟩
    simp only [Moment.events_append, Event.lines_append, List.length_append]
    omega
  · refine Or.inr ⟨earlier ++ before, now, line, after, by simp, hnow, ?_, by simp [Except.map]⟩
    simp only [Moment.events_append, Event.lines_append, List.length_append]
    omega

namespace Store

variable {listener : Listener} {steps : List Record} {settings : Value}

/-- Refusing line number `j` cuts the emission of lines. -/
theorem cutAt_emitLines {j : Nat} (s : Store) {k : Nat} (hk : k ≤ j) (lines : List String) :
    CutAt (j - k) (emitMoments { listener with failAt := none } settings s k lines)
      (emitLines { listener with failAt := none } settings s k lines)
      (emitLines { listener with failAt := some (j : Int) } settings s k lines) := by
  induction lines generalizing s k with
  | nil => exact Or.inl ⟨Nat.zero_le _, rfl⟩
  | cons line rest ih =>
    rcases Nat.eq_or_lt_of_le hk with rfl | hlt
    · -- this is the line that is refused
      rw [emitMoments, if_neg (by simp)]
      refine Or.inr ⟨[], ⟨s, .emit line⟩, line, ?_⟩
      split <;> exact ⟨_, rfl, rfl, by simp, by simp [emitLines]⟩
    · have hother : ¬((some (j : Int) : Option Int) = some (k : Int)) := by
        simp only [Option.some.injEq]
        omega
      rw [emitMoments, emitLines, emitLines, if_neg (by simp), if_neg (by simp), if_neg hother]
      rcases hm : s.mutate settings listener.vars (listener.mutations.filter (·.moment = k)) with
        ⟨f | _, t⟩
      · refine Or.inl ⟨?_, rfl⟩
        simp only [Moment.events_cons, Event.lines_emit_cons, Moment.events_nil, Event.lines_nil,
          List.length_cons, List.length_nil]
        omega
      · obtain ⟨hle, heq⟩ | ⟨before, now, told, after, hsplit, hnow, hn, heq⟩ :=
          ih t (k := k + 1) (by omega)
        · refine Or.inl ⟨?_, by simp only [heq]⟩
          simp only [Moment.events_cons, Event.lines_emit_cons, List.length_cons]
          omega
        · refine Or.inr ⟨⟨s, .emit line⟩ :: before, now, told, after, by simp only [hsplit]; rfl,
            hnow, ?_, by simp only [heq]; rfl⟩
          simp only [Moment.events_cons, Event.lines_emit_cons, List.length_cons]
          omega

/-- Refusing line number `j` cuts a run that goes through steps. -/
theorem cutAt_runSteps {j : Nat} (s : Store) {k : Nat} (hk : k ≤ j) (selected : List Record) :
    CutAt (j - k) (stepMoments { listener with failAt := none } steps settings s k selected)
      (runSteps { listener with failAt := none } steps settings s k selected)
      (runSteps { listener with failAt := some (j : Int) } steps settings s k selected) := by
  induction selected generalizing s k with
  | nil => exact Or.inl ⟨Nat.zero_le _, rfl⟩
  | cons e rest ih =>
    have hsame (failAt : Option Int) :
        ({ listener with failAt } : Listener).announce s e = listener.announce s e := rfl
    simp only [stepMoments, runSteps, hsame]
    rcases hann : listener.announce s e with f | announced
    · exact Or.inl ⟨Nat.zero_le _, rfl⟩
    have hnoLines : Event.lines (Moment.events (announced.map (⟨s, ·⟩))) = [] := by
      rw [events_map_announced, Listener.lines_of_announce hann]
    rcases hlines : s.linesOfStep steps settings e with ⟨f | lines, t⟩
    · exact Or.inl ⟨by simp [hnoLines], rfl⟩
    obtain ⟨hle, heq⟩ | ⟨before, now, line, after, hsplit, hnow, hn, heq⟩ :=
      @cutAt_emitLines listener settings j t k hk lines
    · -- no line of this step is refused
      rcases hout : (emitLines { listener with failAt := none } settings t k lines).outcome with
        f | done
      · refine Or.inl ⟨?_, by simp only [heq, hout]⟩
        simp only [hout, List.append_nil, Moment.events_append, Event.lines_append, hnoLines]
        exact hle
      · obtain ⟨rfl, hevents⟩ := emitLines_of_outcome_ok hout
        have hstep : Event.lines (Moment.events (announced.map (⟨s, ·⟩) ++
            emitMoments { listener with failAt := none } settings t k done)) = done := by
          simp [hnoLines, events_emitMoments, hevents]
        rw [events_emitMoments, hevents, Event.lines_map_emit] at hle
        have hrest := (ih (emitLines { listener with failAt := none } settings t k done).store
          (k := k + done.length) (by omega)).prepend (announced.map (⟨s, ·⟩) ++
            emitMoments { listener with failAt := none } settings t k done) (done ++ ·)
        rw [hstep, show j - (k + done.length) + done.length = j - k by omega] at hrest
        simpa [heq, hout, events_map_announced, events_emitMoments] using hrest
    · -- the run ends while the lines of this step are emitted
      refine Or.inr ⟨announced.map (⟨s, ·⟩) ++ before, now, line, _,
        by simp only [hsplit, List.append_assoc, List.cons_append]; rfl, hnow, ?_,
        by simp [heq, events_map_announced]⟩
      simp only [Moment.events_append, Event.lines_append, hnoLines, List.nil_append, hn]

/-! ### What has been changed before a cut

The run that is cut ends before the changes for the line that it refuses. So a schedule matters up
to that line only.
-/

/-- Of the schedule, only the changes for the lines before the one that is refused matter. -/
theorem emitLines_refusing_congr {j : Nat} {mutations : List Mutation}
    (heq : ∀ i < j, ({ listener with mutations } : Listener).dueAt i = listener.dueAt i)
    (s : Store) {k : Nat} (hk : k ≤ j) (lines : List String) :
    emitLines { listener with failAt := some (j : Int), mutations } settings s k lines =
      emitLines { listener with failAt := some (j : Int) } settings s k lines := by
  induction lines generalizing s k with
  | nil => rfl
  | cons line rest ih =>
    rcases Nat.eq_or_lt_of_le hk with rfl | hlt
    · simp [emitLines]
    · have hother : ¬((some (j : Int) : Option Int) = some (k : Int)) := by
        simp only [Option.some.injEq]
        omega
      have hdue := heq k hlt
      simp only [Listener.dueAt] at hdue
      simp only [emitLines, if_neg hother, hdue]
      rcases s.mutate settings listener.vars (listener.mutations.filter (·.moment = k)) with
        ⟨f | _, t⟩
      · rfl
      · simp only [ih t (k := k + 1) (by omega)]

/-- When all lines have been emitted, the one that is refused is still to come. -/
theorem add_length_le_of_emitLines_refusing {j : Nat} {s : Store} {k : Nat} (hk : k ≤ j)
    {lines done : List String}
    (h : (emitLines { listener with failAt := some (j : Int) } settings s k lines).outcome =
      .ok done) : k + lines.length ≤ j := by
  induction lines generalizing s k done with
  | nil => exact hk
  | cons line rest ih =>
    rcases Nat.eq_or_lt_of_le hk with rfl | hlt
    · simp [emitLines] at h
    · rw [emitLines] at h
      split at h
      · cases h
      · split at h
        · cases h
        · rename_i t _
          simp only [Except.map] at h
          split at h
          · cases h
          · rename_i later hlater
            have := ih (k := k + 1) (by omega) hlater
            simp only [List.length_cons]
            omega

/-- By induction on the steps. -/
theorem runSteps_refusing_congr {j : Nat} {mutations : List Mutation}
    (heq : ∀ i < j, ({ listener with mutations } : Listener).dueAt i = listener.dueAt i)
    (s : Store) {k : Nat} (hk : k ≤ j) (selected : List Record) :
    runSteps { listener with failAt := some (j : Int), mutations } steps settings s k selected =
      runSteps { listener with failAt := some (j : Int) } steps settings s k selected := by
  induction selected generalizing s k with
  | nil => rfl
  | cons e rest ih =>
    have hsame : ({ listener with failAt := some (j : Int), mutations } : Listener).announce s e =
      ({ listener with failAt := some (j : Int) } : Listener).announce s e := rfl
    simp only [runSteps, hsame]
    rcases ({ listener with failAt := some (j : Int) } : Listener).announce s e with f | announced
    · rfl
    rcases s.linesOfStep steps settings e with ⟨f | lines, t⟩
    · rfl
    simp only [emitLines_refusing_congr heq t hk]
    rcases hout : (emitLines { listener with failAt := some (j : Int) } settings t k
      lines).outcome with f | done
    · rfl
    · simp only [ih _ (add_length_le_of_emitLines_refusing hk hout)]

end Store

/-- **A refused line cuts the run at that line.** Let `whole` be a run that refuses nothing, and
`cut` the same run with line number `k` refused. If `whole` emits more than `k` lines, then `cut`
ends at the moment at which `whole` emits line number `k`: it has the events before that moment,
announcements included, ends with the refusal, and leaves the store of that moment. Otherwise there
is no difference. In either case only changes for lines before line number `k` have been made. -/
theorem run_refusing_eq_cut (listener : Listener) (steps : List Record) (settings only : Value)
    (s : Store) (k : Nat) :
    let whole := s.run { listener with failAt := none } steps settings only
    let cut := s.run { listener with failAt := some (k : Int) } steps settings only
    let moments := s.moments { listener with failAt := none } steps settings only
    Moment.events moments = whole.events ∧
    (k < whole.lines.length → ∃ before now line after,
      moments = before ++ now :: after ∧ now.event = .emit line ∧
      (Event.lines (Moment.events before)).length = k ∧
      cut.events = Moment.events before ∧ cut.outcome = .error .emitFailed ∧
      cut.store = now.store) ∧
    (whole.lines.length ≤ k → cut = whole) ∧
    cut = s.run { listener with
      failAt := some (k : Int), mutations := listener.mutations.filter (·.moment < k) }
      steps settings only ∧
    Fault.emitFailed.report cut.store = ⟨.failure, "emit failed"⟩ := by
  intro whole cut moments
  have hmoments : Moment.events moments = whole.events := Store.events_moments only s
  have hcut : CutAt k moments whole cut := by
    simp only [whole, cut, moments, Store.moments, Store.run]
    rcases s.selectSteps steps only with f | selected
    · exact Or.inl ⟨Nat.zero_le _, rfl⟩
    · exact Store.cutAt_runSteps s (Nat.zero_le k) selected
  refine ⟨hmoments, fun hlt => ?_, fun hle => ?_, ?_, rfl⟩
  · obtain ⟨hle, -⟩ | ⟨before, now, line, after, hsplit, hnow, hn, heq⟩ := hcut
    · rw [hmoments] at hle
      exact absurd hlt (Nat.not_lt.mpr hle)
    · exact ⟨before, now, line, after, hsplit, hnow, hn, by rw [heq], by rw [heq], by rw [heq]⟩
  · obtain ⟨-, heq⟩ | ⟨before, now, line, after, hsplit, hnow, hn, -⟩ := hcut
    · exact heq
    · have hlength : whole.lines.length =
          k + (Event.lines (now.event :: Moment.events after)).length := by
        rw [Trace.lines, ← hmoments, hsplit, Moment.events_append, Event.lines_append,
          List.length_append, hn, Moment.events_cons]
      rw [hlength, hnow, Event.lines_emit_cons, List.length_cons] at hle
      omega
  · simp only [cut, Store.run]
    rcases s.selectSteps steps only with f | selected
    · rfl
    · refine (Store.runSteps_refusing_congr (fun i hi => ?_) s (Nat.zero_le k) selected).symm
      -- an entry for line number `i` has a number below `k`
      simp only [Listener.dueAt, List.filter_filter]
      refine List.filter_congr fun m _ => ?_
      by_cases hm : m.moment = i
      · simp [hm, hi]
      · simp [hm]

end Walkthrough
