import Walkthrough.Proofs.CatalogueIntegrity
import Walkthrough.Proofs.Emission
import Walkthrough.Proofs.FreshDefaults

/-!
# Announcing steps

A run that announces its steps does what the run without announcements does: it emits the same lines
in the same order, ends with the same lines or the same fault, and leaves the same store. The
announcement of a step comes before its first line, or before its fault.

An announcement is put into words from what the step holds when it is started. This cannot fail if
the order, the name and the description are plain, and they are what they were at the beginning of
the run if nothing else refers to the dictionary of the step. A dictionary that is shared can lose an
entry while the run lasts, and then the announcement of the step fails although the run without it
goes on.

## Why steps that are started are listed

Whether an announcement succeeds depends on the store at the time the step is started. So the stores
at these times are listed, together with the steps and their lines, as the stretches of a run. They
are defined for any listener, and those of the silent listener tell what would be announced. If all
of these announcements succeed, the two runs go along side by side.

What holds of every stretch is shown by going through them, and can be shown from confinement for
everything that the run does not get at.

## Main definitions

* `Value.plainText?` — the text of a value that has one in every store
* `Stretch`, `Store.started` — the steps that a run starts, with the lines that each of them emits

## Main results

* `run_announced` — a run with announcements, and the same run without
* `not_run_announced_of_popitem` — an announcement that fails
-/

namespace Walkthrough

open Referring (Avoids)

/-- The text of a value that has one in every store: of nothing, of a truth value, of a text and of an
integer that does not have too many digits. -/
def Value.plainText? : Value → Option String
  | .null => some "None"
  | .bool b => some (if b then "True" else "False")
  | .int n => Integer.render? n
  | .text t => some t
  | _ => none

/-- The same listener without announcements. -/
def Listener.silent (listener : Listener) : Listener := { listener with progress := none }

/-- The same listener with announcements, which are recorded as they are. -/
def Listener.recording (listener : Listener) : Listener := { listener with progress := some .ok }

/-- Announcements are no lines. -/
theorem Event.lines_announced {α : Type} (xs : List α) (text : α → String)
    (lines : α → List String) :
    Event.lines (xs.flatMap fun x => .progress (text x) :: (lines x).map .emit) =
      Event.lines (xs.flatMap fun x => (lines x).map .emit) := by
  induction xs with
  | nil => rfl
  | cons x rest ih =>
    have hfirst : Event.lines (.progress (text x) :: (lines x).map .emit) =
        Event.lines ((lines x).map .emit) := rfl
    rw [List.flatMap_cons, List.flatMap_cons, Event.lines_append, Event.lines_append, ih, hfirst]

/-- A step that has been started: the record, the store in which it is started, and the lines that it
emits. -/
structure Stretch where
  step : Record
  store : Store
  lines : List String

namespace Store

theorem sentence_of_plainText? {v : Value} {t : String} (h : v.plainText? = some t) (s : Store)
    {levels : Nat} (hlevels : 1 < levels) : s.sentence v levels = .ok t := by
  cases v with
  | text t =>
    cases h
    rfl
  | null =>
    cases h
    obtain ⟨levels, rfl⟩ := Nat.exists_eq_add_of_le' hlevels
    rfl
  | bool b =>
    cases h
    obtain ⟨levels, rfl⟩ := Nat.exists_eq_add_of_le' hlevels
    cases b <;> rfl
  | int n =>
    have hrender : Integer.render? n = some t := h
    rw [sentence_int s n hlevels, displayInt, hrender]
  | _ => cases h

/-- The announcement of a step whose order, name and description are plain. -/
def plainAnnouncement? (s : Store) (e : Record) : Option String := do
  let order ← (← s.field? e "order").plainText?
  let name ← (← s.field? e "name").plainText?
  let description ← (← s.field? e "description").plainText?
  return "  [dim]" ++ order ++ ". " ++ name ++ ": " ++ description ++ "[/dim]"

variable {s : Store} {e : Record} {text : String}

/-- A step that can be announced in plain words is announced so, whatever the levels are. -/
theorem announcement_of_plain (h : s.plainAnnouncement? e = some text) :
    s.announcement e = .ok text := by
  simp only [plainAnnouncement?, Option.bind_eq_bind, Option.bind_eq_some_iff] at h
  obtain ⟨order, horder, orderText, ho, name, hname, nameText, hn, description, hdescription,
    descriptionText, hd, h⟩ := h
  cases h
  simp only [announcement, field, horder, hname, hdescription, bind, Except.bind,
    sentence_of_plainText? ho s one_lt_callLevels, sentence_of_plainText? hn s one_lt_callLevels,
    sentence_of_plainText? hd s one_lt_callLevels]
  rfl

/-- A step that has an order keeps it in a dictionary. -/
theorem lt_of_plainAnnouncement? (h : s.plainAnnouncement? e = some text) : e.attributes < s.size := by
  by_contra hle
  simp only [plainAnnouncement?, Option.bind_eq_bind, Option.bind_eq_some_iff] at h
  obtain ⟨order, horder, -⟩ := h
  rw [field?, attribute?, attributesAt, get?_eq_none_iff.2 (Nat.not_lt.1 hle)] at horder
  cases hkind : e.kind <;> rw [hkind] at horder <;> cases horder

/-! ### Lines are emitted alike

Emitting a line looks at what the listener refuses and changes, and not at how it is told of steps.
-/

section Runs

variable {listener : Listener} {steps : List Record} {settings : Value}

/-- How steps are announced makes no difference to emitting lines. -/
theorem emitLines_progress (progress : Option (String → Except Fault String)) (s : Store) (k : Nat)
    (lines : List String) :
    emitLines { listener with progress } settings s k lines =
      emitLines listener settings s k lines := by
  induction lines generalizing s k with
  | nil => rfl
  | cons line rest ih => simp only [emitLines, ih]

@[simp] theorem emitLines_silent (s : Store) (k : Nat) (lines : List String) :
    emitLines listener.silent settings s k lines = emitLines listener settings s k lines :=
  emitLines_progress none s k lines

@[simp] theorem emitLines_recording (s : Store) (k : Nat) (lines : List String) :
    emitLines listener.recording settings s k lines = emitLines listener settings s k lines :=
  emitLines_progress (some .ok) s k lines

theorem announce_silent (s : Store) (e : Record) : listener.silent.announce s e = .ok [] := rfl

theorem announce_recording (h : s.plainAnnouncement? e = some text) :
    listener.recording.announce s e = .ok [.progress text] := by
  simp only [Listener.announce, Listener.recording, announcement_of_plain h, bind, Except.bind]
  rfl

/-- Emitting lines does nothing else visibly. -/
theorem events_emitLines (s : Store) (k : Nat) (lines : List String) :
    (emitLines listener settings s k lines).events =
      (emitLines listener settings s k lines).lines.map .emit := by
  induction lines generalizing s k with
  | nil => rfl
  | cons line rest ih =>
    rw [emitLines]
    split
    · rfl
    split
    · rfl
    · simp only [Trace.lines, Event.lines_emit_cons, List.map_cons, List.cons.injEq, true_and]
      exact ih _ _

/-! ### The steps that are started

The definition follows that of going through steps, up to where this is broken off.
-/

/-- The stretches of going through steps; `k` lines have been emitted before. A step that cannot be
announced is not started. One that fails, or whose lines are not all emitted, is the last. -/
def stretches (listener : Listener) (steps : List Record) (settings : Value) (s : Store) (k : Nat) :
    List Record → List Stretch
  | [] => []
  | e :: rest =>
    match listener.announce s e with
    | .error _ => []
    | .ok _ =>
      match s.linesOfStep steps settings e with
      | (.error _, _) => [⟨e, s, []⟩]
      | (.ok lines, t) =>
        let emitted := emitLines listener settings t k lines
        ⟨e, s, emitted.lines⟩ ::
          match emitted.outcome with
          | .error _ => []
          | .ok _ => stretches listener steps settings emitted.store (k + lines.length) rest

/-- The stretches of a run. -/
def started (listener : Listener) (steps : List Record) (settings only : Value) (s : Store) :
    List Stretch :=
  match s.selectSteps steps only with
  | .error _ => []
  | .ok selected => stretches listener steps settings s 0 selected

theorem exists_stretches_cons (s : Store) (k : Nat) (e : Record) (rest : List Record) :
    ∃ lines later,
      stretches listener.silent steps settings s k (e :: rest) = ⟨e, s, lines⟩ :: later := by
  rw [stretches, announce_silent]
  dsimp only
  split
  · exact ⟨_, _, rfl⟩
  · exact ⟨_, _, rfl⟩

/-- Steps are started in the order in which they have been selected; all of them are, unless the run
is broken off. -/
theorem steps_of_stretches (s : Store) (k : Nat) (selected : List Record) :
    (stretches listener.silent steps settings s k selected).map (·.step) <+: selected ∧
      ∀ lines, (runSteps listener.silent steps settings s k selected).outcome = .ok lines →
        (stretches listener.silent steps settings s k selected).map (·.step) = selected := by
  induction selected generalizing s k with
  | nil => exact ⟨List.prefix_rfl, fun _ _ => rfl⟩
  | cons e rest ih =>
    simp only [stretches, runSteps, announce_silent, emitLines_silent]
    rcases s.linesOfStep steps settings e with ⟨f | lines, t⟩
    · exact ⟨by simp, fun lines h => by cases h⟩
    obtain ⟨hbeginning, hall⟩ := ih (emitLines listener settings t k lines).store (k + lines.length)
    dsimp only
    rcases (emitLines listener settings t k lines).outcome with f | done
    · exact ⟨by simp, fun lines h => by cases h⟩
    refine ⟨List.cons_prefix_cons.2 ⟨rfl, hbeginning⟩, fun all h => ?_⟩
    dsimp only at h
    rcases hlater : (runSteps listener.silent steps settings
      (emitLines listener settings t k lines).store (k + lines.length) rest).outcome with f | later
    · rw [hlater] at h
      cases h
    · rw [List.map_cons, hall later hlater]

/-- **Going through steps with announcements.** If each step that is started can be announced, then
the announcements are all that is different. -/
theorem runSteps_announced {text : Record → String} (s : Store) (k : Nat) (selected : List Record)
    (h : ∀ x ∈ stretches listener.silent steps settings s k selected,
      x.store.plainAnnouncement? x.step = some (text x.step)) :
    let quiet := runSteps listener.silent steps settings s k selected
    let told := runSteps listener.recording steps settings s k selected
    let taken := stretches listener.silent steps settings s k selected
    told.outcome = quiet.outcome ∧ told.store = quiet.store ∧
      quiet.events = taken.flatMap (fun x => x.lines.map .emit) ∧
      told.events = taken.flatMap (fun x => .progress (text x.step) :: x.lines.map .emit) := by
  induction selected generalizing s k with
  | nil => exact ⟨rfl, rfl, rfl, rfl⟩
  | cons e rest ih =>
    have hfirst : s.plainAnnouncement? e = some (text e) := by
      obtain ⟨lines, later, hstretches⟩ :=
        @exists_stretches_cons listener steps settings s k e rest
      exact h ⟨e, s, lines⟩ (by rw [hstretches]; exact List.mem_cons_self)
    simp only [stretches, runSteps, announce_silent, announce_recording hfirst, emitLines_silent,
      emitLines_recording]
    simp only [stretches, announce_silent, emitLines_silent] at h
    revert h
    rcases s.linesOfStep steps settings e with ⟨f | lines, t⟩
    · exact fun _ => ⟨rfl, rfl, rfl, rfl⟩
    have hevents := @events_emitLines listener settings t k lines
    dsimp only
    rcases (emitLines listener settings t k lines).outcome with f | done
    · simp [hevents]
    intro h
    obtain ⟨houtcome, hstore, hquiet, htold⟩ :=
      ih (emitLines listener settings t k lines).store (k + lines.length)
        (List.forall_mem_cons.1 h).2
    dsimp only
    refine ⟨by rw [houtcome], hstore, ?_, ?_⟩
    · rw [hquiet, List.flatMap_cons, ← hevents]
      rfl
    · rw [htold, List.flatMap_cons, ← hevents]
      rfl

/-! ### Steps that are private

A dictionary that nothing else refers to is spared by each step and by each change, so that it is
the same in all stretches.
-/

/-- What neither the settings nor the variables lead to is the same whenever a step is started. -/
theorem get?_of_mem_stretches {K : Set Addr} (hs : Avoids K s) (hsettings : Avoids K settings)
    (hvars : Avoids K listener.vars) (hlt : ∀ a ∈ K, a < s.size) {k : Nat} {selected : List Record}
    {x : Stretch} (hx : x ∈ stretches listener steps settings s k selected) {a : Addr} (ha : a ∈ K) :
    x.store.get? a = s.get? a := by
  induction selected generalizing s k with
  | nil => cases hx
  | cons e rest ih =>
    have hlines := shields_linesOfStep (s := s) hsettings steps e
    rw [stretches] at hx
    split at hx
    · cases hx
    rcases hstep : s.linesOfStep steps settings e with ⟨f | lines, t⟩
    · rw [hstep, List.mem_singleton] at hx
      rw [hx]
    rw [hstep] at hx hlines
    rcases List.mem_cons.1 hx with rfl | hx
    · rfl
    have hemitted := shields_emitLines (s := t) hsettings hvars k lines
    have hspares := (hlines.trans hemitted).spares hs (withholds_of_lt hlt)
    have hlt' (a : Addr) (ha : a ∈ K) : a < (emitLines listener settings t k lines).store.size :=
      Nat.lt_of_lt_of_le (hlt a ha) (hlines.trans hemitted).size_le
    split at hx
    · cases hx
    · exact (ih hspares.avoids hlt' hx).trans (hspares.get?_eq a ha)

end Runs

/-- The steps that are selected are steps of the catalogue. -/
theorem mem_of_selectSteps {steps selected : List Record} {only : Value}
    (h : s.selectSteps steps only = .ok selected) : ∀ e ∈ selected, e ∈ steps := by
  unfold selectSteps at h
  split at h
  · obtain ⟨found, hfound, h⟩ := Sorting.bind_eq_ok.1 h
    split at h
    · cases h
      obtain ⟨before, after, rfl, -⟩ := findStep_eq_some hfound
      simp
    · cases h
  · exact fun e he => (listSteps_perm h).mem_iff.1 he

/-- Steps that are started are steps of the catalogue, since they have been selected from it. -/
theorem mem_of_mem_started {listener : Listener} {steps : List Record} {settings only : Value}
    {x : Stretch} (hx : x ∈ s.started listener.silent steps settings only) : x.step ∈ steps := by
  unfold started at hx
  split at hx
  · cases hx
  · rename_i selected hselected
    have hbeginning := (@steps_of_stretches listener steps settings s 0 selected).1
    exact mem_of_selectSteps hselected _ (hbeginning.subset (List.mem_map_of_mem hx))

/-- The steps that are selected are gone through, with the announcements of `text`. -/
theorem run_announced_of_started {listener : Listener} {steps : List Record} {settings only : Value}
    {text : Record → String}
    (h : ∀ x ∈ s.started listener.silent steps settings only,
      x.store.plainAnnouncement? x.step = some (text x.step)) :
    let quiet := s.run listener.silent steps settings only
    let told := s.run listener.recording steps settings only
    let started := s.started listener.silent steps settings only
    told.outcome = quiet.outcome ∧ told.store = quiet.store ∧
      quiet.events = started.flatMap (fun x => x.lines.map .emit) ∧
      told.events = started.flatMap (fun x => .progress (text x.step) :: x.lines.map .emit) := by
  simp only [started, run] at h ⊢
  revert h
  rcases s.selectSteps steps only with f | selected
  · exact fun _ => ⟨rfl, rfl, rfl, rfl⟩
  · exact runSteps_announced s 0 selected

end Store

/-- **A run with announcements.** Let the order, the name and the description of each step be plain at
the beginning, and `text` the announcement that they make.

* If they still make this announcement whenever a step is started, then the run with announcements
  ends as the run without, leaves the same store and emits the same lines. It announces each step
  that is started, right before the lines of the step, or before its fault if it has none.
* The steps that are started are those that are selected, in this order; all of them are, unless the
  run is broken off.
* If neither the settings nor the variables lead to the dictionaries of the steps, and no other
  object does, then the steps make the same announcement whenever one of them is started. -/
theorem run_announced (listener : Listener) (steps : List Record) (settings only : Value) (s : Store)
    (text : Record → String) (htext : ∀ e ∈ steps, s.plainAnnouncement? e = some (text e)) :
    let quiet := s.run listener.silent steps settings only
    let told := s.run listener.recording steps settings only
    let started := s.started listener.silent steps settings only
    ((∀ x ∈ started, x.store.plainAnnouncement? x.step = s.plainAnnouncement? x.step) →
      told.outcome = quiet.outcome ∧ told.store = quiet.store ∧ told.lines = quiet.lines ∧
        quiet.events = started.flatMap (fun x => x.lines.map .emit) ∧
        told.events = started.flatMap fun x => .progress (text x.step) :: x.lines.map .emit) ∧
      (∀ selected, s.selectSteps steps only = .ok selected →
        started.map (·.step) <+: selected ∧
          ∀ lines, quiet.outcome = .ok lines → started.map (·.step) = selected) ∧
      (Avoids (dictionariesOf steps) s → Avoids (dictionariesOf steps) settings →
        Avoids (dictionariesOf steps) listener.vars →
        ∀ x ∈ started, x.store.plainAnnouncement? x.step = s.plainAnnouncement? x.step) := by
  intro quiet told started
  refine ⟨fun hsame => ?_, fun selected hselected => ?_, fun hs hsettings hvars x hx => ?_⟩
  · have hplain : ∀ x ∈ started, x.store.plainAnnouncement? x.step = some (text x.step) :=
      fun x hx => (hsame x hx).trans (htext x.step (Store.mem_of_mem_started hx))
    obtain ⟨houtcome, hstore, hquiet, htold⟩ := Store.run_announced_of_started hplain
    refine ⟨houtcome, hstore, ?_, hquiet, htold⟩
    rw [Trace.lines, Trace.lines, hquiet, htold, Event.lines_announced]
  · have hquiet : quiet = Store.runSteps listener.silent steps settings s 0 selected := by
      simp only [quiet, Store.run, hselected]
    have hstarted : started = Store.stretches listener.silent steps settings s 0 selected := by
      simp only [started, Store.started, hselected]
    rw [hquiet, hstarted]
    exact Store.steps_of_stretches s 0 selected
  · have hmem := Store.mem_of_mem_started hx
    have hlt : ∀ a ∈ dictionariesOf steps, a < s.size := by
      rintro a ⟨e, he, rfl⟩
      exact Store.lt_of_plainAnnouncement? (htext e he)
    have hcell : x.store.get? x.step.attributes = s.get? x.step.attributes := by
      simp only [started, Store.started] at hx
      split at hx
      · cases hx
      · have hvars : Avoids (dictionariesOf steps) listener.silent.vars := hvars
        exact Store.get?_of_mem_stretches hs hsettings hvars hlt hx ⟨x.step, hmem, rfl⟩
    simp only [Store.plainAnnouncement?, Store.field?, Store.attribute?, Store.attributesAt, hcell]

/-- Settings whose loop goes round no more, and a listener that lowers the count after the second line
and refuses the fourth. The loop is announced although it has no line, and the step whose line is
refused is announced too. -/
theorem run_announced_of_refusal :
    let σ := (Session.performAll {} [.bind "c" (.settings [("iterations", .int 0)])]).2
    let listener : Listener :=
      { failAt := some 3, mutations := [⟨1, "count", .int 3⟩], vars := σ.vars }
    let quiet := σ.store.run listener.silent σ.steps (.ref 9) .null
    let told := σ.store.run listener.recording σ.steps (.ref 9) .null
    told.outcome = quiet.outcome ∧ told.store = quiet.store ∧
      quiet.events = [.emit "Hello, World! My name is Alice.", .emit "Sum: 15",
        .emit "Count is not greater than 5"] ∧
      told.events = [.progress "  [dim]1. greeting: Compose a greeting for a name[/dim]",
        .emit "Hello, World! My name is Alice.",
        .progress "  [dim]2. sum: Sum a sequence of numbers[/dim]", .emit "Sum: 15",
        .progress "  [dim]3. threshold: Check whether count exceeds the threshold[/dim]",
        .emit "Count is not greater than 5",
        .progress "  [dim]4. loop: Print a label for each loop iteration[/dim]",
        .progress "  [dim]5. person: Derive a full name from a person record[/dim]"] := by
  intro σ listener quiet told
  have hσ : σ.Private := Session.private_initial.performAll (by simp [Operation.Redirects])
  let text (e : Record) : String := (σ.store.plainAnnouncement? e).getD ""
  have htext : ∀ e ∈ σ.steps, σ.store.plainAnnouncement? e = some (text e) := by decide +kernel
  obtain ⟨hannounced, -, hprivate⟩ := run_announced listener σ.steps (.ref 9) .null σ.store text htext
  have hsettings : Avoids (dictionariesOf σ.steps) (Value.ref 9) := by
    rintro ⟨e, he, hattributes⟩
    revert e
    decide
  obtain ⟨houtcome, hstore, -, hquiet, htold⟩ :=
    hannounced (hprivate hσ.store hsettings hσ.vars)
  have hlisted : σ.store.listSteps σ.steps = .ok σ.steps :=
    @Store.listSteps_of_pairwise σ.store
      [(1, ⟨.step, 0⟩), (2, ⟨.step, 1⟩), (3, ⟨.step, 2⟩), (4, ⟨.step, 3⟩), (5, ⟨.step, 4⟩)] σ.steps
      rfl (by simp)
  have hstarted : σ.store.started listener.silent σ.steps (.ref 9) .null =
      Store.stretches listener.silent σ.steps (.ref 9) σ.store 0 σ.steps := by
    simp only [Store.started, Store.selectSteps, Store.truthy, hlisted]
    rfl
  rw [hstarted] at hquiet htold
  refine ⟨houtcome, hstore, hquiet.trans ?_, htold.trans ?_⟩
  · decide +kernel
  · decide +kernel

/-- **An announcement that fails.** A step has been given a dictionary with plain entries, and a person
has been given an operation of that dictionary in place of the one that tells the full name. The
operation takes the description out of the dictionary, so that the step cannot be announced any
more; without announcements the run goes on to its end. -/
theorem not_run_announced_of_popitem :
    let σ := (Session.performAll {} [
      .replaceSteps [[("description", .text "p"), ("name", .text "person"), ("order", .int 1)],
        [("description", .text "s"), ("name", .text "sum"), ("order", .int 2)]],
      .bind "d" (.dict [(.text "name", .text "sum"), (.text "order", .int 2),
        (.text "description", .text "d")]),
      .reviseStep (.text "sum") "__dict__" (.named "d"), .bind "c" (.settings []),
      .assign (.named "c.person") "get_full_name" (.named "d.popitem")]).2
    let settings := (σ.vars.get? "c").getD .null
    let quiet := σ.store.run { vars := σ.vars } σ.steps settings .null
    let told := σ.store.run { vars := σ.vars, progress := some .ok } σ.steps settings .null
    (∀ e ∈ σ.steps, (σ.store.plainAnnouncement? e).isSome) ∧
      quiet.outcome.isOk = true ∧ told.outcome.isOk = false ∧ told.lines ≠ quiet.lines := by
  intro σ settings quiet told
  have hlisted : σ.store.listSteps σ.steps = .ok σ.steps :=
    @Store.listSteps_of_pairwise σ.store [(1, ⟨.step, 5⟩), (2, ⟨.step, 7⟩)] σ.steps rfl (by simp)
  have hrun (listener : Listener) : σ.store.run listener σ.steps settings .null =
      Store.runSteps listener σ.steps settings σ.store 0 σ.steps := by
    simp only [Store.run, Store.selectSteps, Store.truthy, hlisted]
    rfl
  simp only [quiet, told, hrun]
  decide +kernel

end Walkthrough
