import Walkthrough.Run

/-!
# What a run emits

A run is heard through its listener: announcements and lines arrive as events, and between two
lines the listener may have changed the settings. This module says what one step contributes to
that, for any listener, and is what the statements about whole runs are put together from.

## The schedule of a listener

A schedule is a list of changes in any order, each with the number of the line that it follows.
`Listener.due` puts the changes for a stretch of lines into the order in which they are made:
by line, and as scheduled for one line. Changes for a negative number, or for a line that is never
emitted, are not due at any time.

Producing lines and emitting them are two things, and the second one is described here without the
first. So whatever a step is, its lines are emitted in one way, and the changes that are made in the
meantime are those of the schedule for these lines, in one list. A statement about runs then has to
do with steps and with lists of changes only.

## Main definitions

* `Trace.lines` — the lines that a run emits
* `Listener.due` — the changes for a stretch of lines, in the order in which they are made

## Main results

* `Listener.mem_due` — which changes are due
* `Store.emitLines_of_mutate_due` — lines that have been produced are emitted unchanged, whatever
  the listener changes meanwhile
* `Store.emitLines_of_outcome_ok` — lines are returned when all of them have been emitted
-/

namespace Walkthrough

/-- The line that an event emits, if it emits one. -/
def Event.line? : Event → Option String
  | .progress _ => none
  | .emit line => some line

/-- The lines that events emit, in order. -/
def Event.lines (events : List Event) : List String := events.filterMap Event.line?

/-- The lines that a run emits, in order. -/
def Trace.lines (t : Trace) : List String := Event.lines t.events

@[simp] theorem Event.lines_nil : Event.lines [] = [] := rfl

@[simp] theorem Event.lines_emit_cons (line : String) (events : List Event) :
    Event.lines (.emit line :: events) = line :: Event.lines events := rfl

@[simp] theorem Event.lines_append (before after : List Event) :
    Event.lines (before ++ after) = Event.lines before ++ Event.lines after := by
  simp [Event.lines]

@[simp] theorem Event.lines_map_emit (lines : List String) :
    Event.lines (lines.map .emit) = lines := by
  induction lines with
  | nil => rfl
  | cons line rest ih => simp [ih]

namespace Listener

/-- The changes that are due when line number `i` has been emitted, as scheduled. -/
def dueAt (listener : Listener) (i : Nat) : List Mutation :=
  listener.mutations.filter (·.moment = i)

/-- The changes that are due while `n` lines are emitted, the first of them as line number `k`. -/
def due (listener : Listener) (k n : Nat) : List Mutation :=
  (List.range' k n).flatMap listener.dueAt

@[simp] theorem due_zero (listener : Listener) (k : Nat) : listener.due k 0 = [] := rfl

theorem due_succ (listener : Listener) (k n : Nat) :
    listener.due k (n + 1) = listener.dueAt k ++ listener.due (k + 1) n := by
  simp [due, List.range'_succ]

/-- Schedules that agree on a stretch of lines make the same changes there. -/
theorem due_congr {listener other : Listener} {k n : Nat}
    (h : ∀ i, k ≤ i → i < k + n → listener.dueAt i = other.dueAt i) :
    listener.due k n = other.due k n := by
  rw [due, due, List.flatMap_def, List.flatMap_def, List.map_congr_left fun i hi => ?_]
  rw [List.mem_range'_1] at hi
  exact h i hi.1 hi.2

/-- The changes that are due are those of the schedule whose number lies in the stretch. -/
theorem mem_due {listener : Listener} {k n : Nat} {m : Mutation} :
    m ∈ listener.due k n ↔ m ∈ listener.mutations ∧ (k : Int) ≤ m.moment ∧ m.moment < k + n := by
  simp only [due, dueAt, List.mem_flatMap, List.mem_range'_1, List.mem_filter, decide_eq_true_eq]
  constructor
  · rintro ⟨i, hi, hm, hmi⟩
    exact ⟨hm, by omega, by omega⟩
  · rintro ⟨hm, hk, hn⟩
    exact ⟨m.moment.toNat, by omega, hm, by omega⟩

/-- A step is announced by one event at most, and no line is emitted by it. -/
theorem announce_eq_ok {listener : Listener} {s : Store} {e : Record} {announced : List Event}
    (h : listener.announce s e = .ok announced) :
    announced = [] ∨ ∃ text, announced = [.progress text] := by
  cases hprint : listener.progress with
  | none =>
    simp only [announce, hprint, Except.ok.injEq] at h
    exact Or.inl h.symm
  | some print =>
    simp only [announce, hprint, bind, Except.bind] at h
    split at h
    · cases h
    · split at h
      · cases h
      · cases h
        exact Or.inr ⟨_, rfl⟩

theorem lines_of_announce {listener : Listener} {s : Store} {e : Record} {announced : List Event}
    (h : listener.announce s e = .ok announced) : Event.lines announced = [] := by
  obtain rfl | ⟨text, rfl⟩ := announce_eq_ok h <;> rfl

end Listener

namespace Store

variable {listener : Listener} {steps : List Record} {settings : Value}

/-! ### Changes one after the other -/

theorem mutate_append (s : Store) (vars : Bindings) (before after : List Mutation) :
    s.mutate settings vars (before ++ after) =
      match s.mutate settings vars before with
      | (.error f, t) => (.error f, t)
      | (.ok (), t) => t.mutate settings vars after := by
  induction before generalizing s with
  | nil => rfl
  | cons m before ih =>
    simp only [List.cons_append, mutate]
    split
    · rfl
    · split
      · rfl
      · exact ih _

/-- Changes that can be made one after the other can be made in two stretches. -/
theorem mutate_append_eq_ok {s u : Store} {vars : Bindings} {before after : List Mutation} :
    s.mutate settings vars (before ++ after) = (.ok (), u) ↔
      ∃ t, s.mutate settings vars before = (.ok (), t) ∧
        t.mutate settings vars after = (.ok (), u) := by
  rw [mutate_append]
  rcases s.mutate settings vars before with ⟨_ | _, t⟩ <;> simp

/-! ### Emitting lines -/

/-- **Lines stay as they were produced.** When no line is refused and the changes that fall due can
be made, all lines are emitted in order, and the store is that of the changes alone. -/
theorem emitLines_of_mutate_due (hnone : listener.failAt = none) {s u : Store} {k : Nat}
    {lines : List String}
    (h : s.mutate settings listener.vars (listener.due k lines.length) = (.ok (), u)) :
    emitLines listener settings s k lines = ⟨lines.map .emit, .ok lines, u⟩ := by
  induction lines generalizing s k with
  | nil => simpa [emitLines, mutate] using h
  | cons line rest ih =>
    rw [List.length_cons, Listener.due_succ, mutate_append_eq_ok] at h
    obtain ⟨t, hfirst, hrest⟩ := h
    rw [Listener.dueAt] at hfirst
    simp [emitLines, hnone, hfirst, ih hrest, Except.map]

/-- Lines whose emission is not broken off have all been emitted, and are what is returned. -/
theorem emitLines_of_outcome_ok {s : Store} {k : Nat} {lines done : List String}
    (h : (emitLines listener settings s k lines).outcome = .ok done) :
    done = lines ∧ (emitLines listener settings s k lines).events = lines.map .emit := by
  induction lines generalizing s k done with
  | nil =>
    cases h
    exact ⟨rfl, rfl⟩
  | cons line rest ih =>
    rw [emitLines] at h ⊢
    split at h
    · cases h
    · rename_i hk
      rw [if_neg hk]
      split at h
      · cases h
      · rename_i t hm
        simp only [Except.map] at h
        split at h
        · cases h
        · rename_i later hlater
          cases h
          obtain ⟨rfl, hevents⟩ := ih hlater
          exact ⟨rfl, by simp only [hevents, List.map_cons]⟩

end Store

end Walkthrough
