import Walkthrough.Proofs.Agreement
import Walkthrough.Proofs.Catalogue
import Walkthrough.Proofs.Snapshot
import Walkthrough.Proofs.StepName

/-!
# One step at a time

A run of all steps can be taken apart into runs of one step each. The two ways pick their records
differently: all steps are listed by their order, and a single step is the first one of its name as
the catalogue stands. Names may occur twice, and a name need not be that of a topic. It makes no
difference, because a step says what its name says, whichever record the name was read from.

A step is asked for by the name that it has when its turn comes. Names are texts that are not empty
in the beginning, and what steps do to the store leaves that so (`Store.Named.of_effects`).

## Where the two could differ

A run of all steps looks each step up again by its name, and so does the run of one step; but this
one looks it up twice, once to select it and once for its lines. Both look-ups find the first step
of the name. If a name were empty, then asking for it would ask for all steps, and if it were no
text, it might be found to be equal to another one. Both are excluded in the beginning, and no step
brings them about.

## Main definitions

* `Store.runAlone` — a run of one step, by its name
* `Store.runsAlone` — such runs one after the other

## Main results

* `Store.runAlone_plain` — a run of one step gives the lines of that step
* `run_eq_runsAlone` — a run of all steps is the runs of its steps
-/

namespace Walkthrough

namespace Store

/-- A run of the step `e` alone, by the name that it has now. A step without a name cannot be asked
for. -/
def runAlone (listener : Listener) (steps : List Record) (settings : Value) (s : Store)
    (e : Record) : Trace :=
  match s.field e "name" with
  | .error f => ⟨[], .error f, s⟩
  | .ok name => s.run listener steps settings name

/-- Runs of single steps, each of them in the store that the one before it has left, up to the first
that fails. -/
def runsAlone (listener : Listener) (steps : List Record) (settings : Value) (s : Store) :
    List Record → List Trace
  | [] => []
  | e :: rest =>
    let single := s.runAlone listener steps settings e
    match single.outcome with
    | .error _ => [single]
    | .ok _ => single :: runsAlone listener steps settings single.store rest

variable {vars : Bindings} {steps : List Record} {settings : Value}

/-! ### A single run

To ask for a step by its name finds the first step of the name, and this gives the lines that the
name stands for.
-/

/-- Two steps of one name have the same lines. -/
theorem linesOfStep_of_field {s : Store} {e : Record} {name : Value}
    (h : s.field e "name" = .ok name) :
    s.linesOfStep steps settings e = s.stepLines steps name settings := by
  rw [linesOfStep, h]

/-- A step with a plain listener: its lines are emitted, and then the run goes on. -/
theorem runSteps_plain_cons (s : Store) (k : Nat) (e : Record) (rest : List Record) :
    runSteps (.plain vars) steps settings s k (e :: rest) =
      match s.linesOfStep steps settings e with
      | (.error f, t) => ⟨[], .error f, t⟩
      | (.ok lines, t) =>
        let later := runSteps (.plain vars) steps settings t (k + lines.length) rest
        ⟨lines.map .emit ++ later.events, later.outcome.map (lines ++ ·), later.store⟩ := by
  simp only [runSteps, Listener.announce_plain]
  rcases s.linesOfStep steps settings e with ⟨_ | lines, t⟩
  · rfl
  · simp

/-- **A run of one step gives the lines of that step**, whichever record the catalogue has under its
name. -/
theorem runAlone_plain {s : Store} {e : Record} (h : s.Named e.attributes) :
    s.runAlone (.plain vars) steps settings e =
      match s.linesOfStep steps settings e with
      | (.error f, t) => ⟨[], .error f, t⟩
      | (.ok lines, t) => ⟨lines.map .emit, .ok lines, t⟩ := by
  obtain ⟨f, hfield⟩ | ⟨name, hne, hfield⟩ := h.field_name
  · rw [runAlone, linesOfStep, hfield]
  · have htrue : s.truthy (.text name) = true := by simpa [truthy] using hne
    rw [runAlone, hfield, linesOfStep_of_field hfield]
    simp only [run, selectSteps, htrue, if_true]
    rcases hfound : s.findStep (.text name) steps with f | _ | found
    · simp [stepLines, hfound, bind, Except.bind]
    · simp [stepLines, hfound, bind, Except.bind]
    · have hlines : s.linesOfStep steps settings found = s.stepLines steps (.text name) settings :=
        linesOfStep_of_field (field_of_findStep hfound)
      simp only [bind, Except.bind, pure, Except.pure, runSteps_plain_cons, hlines]
      rcases s.stepLines steps (.text name) settings with ⟨f | lines, t⟩
      · rfl
      · simp [runSteps, Except.map]

/-! ### Single runs one after the other

By induction on the steps that are listed. Names are kept by every step, so that each can be asked
for when its turn comes.
-/

/-- A single run that returns is followed by those of the steps behind it, in the store that it
leaves. -/
theorem runsAlone_cons_of_ok {s t : Store} {e : Record} (h : s.Named e.attributes)
    {lines : List String} (hlines : s.linesOfStep steps settings e = (.ok lines, t))
    (rest : List Record) :
    s.runsAlone (.plain vars) steps settings (e :: rest) =
      ⟨lines.map .emit, .ok lines, t⟩ :: t.runsAlone (.plain vars) steps settings rest := by
  rw [runsAlone, runAlone_plain h, hlines]

/-- One that fails is the last. -/
theorem runsAlone_cons_of_error {s t : Store} {e : Record} (h : s.Named e.attributes) {f : Fault}
    (hlines : s.linesOfStep steps settings e = (.error f, t)) (rest : List Record) :
    s.runsAlone (.plain vars) steps settings (e :: rest) = [⟨[], .error f, t⟩] := by
  rw [runsAlone, runAlone_plain h, hlines]

/-- The steps that are listed keep their names while one of them is taken. -/
theorem named_of_linesOfStep {s t : Store} {e : Record} {o : Except Fault (List String)}
    (hlines : s.linesOfStep steps settings e = (o, t)) {listed : List Record}
    (h : ∀ d ∈ listed, s.Named d.attributes) : ∀ d ∈ listed, t.Named d.attributes := by
  intro d hd
  have heffects := effects_linesOfStep s steps settings e
  rw [hlines] at heffects
  exact (h d hd).of_effects heffects

/-- A run of steps emits what their single runs emit, one after the other, and leaves the store that
the last of them leaves. -/
theorem runSteps_eq_runsAlone {s : Store} {k : Nat} {listed : List Record}
    (h : ∀ e ∈ listed, s.Named e.attributes) :
    let trace := runSteps (.plain vars) steps settings s k listed
    let singles := s.runsAlone (.plain vars) steps settings listed
    trace.events = singles.flatMap (·.events) ∧
      trace.store = singles.foldl (fun _ single => single.store) s := by
  induction listed generalizing s k with
  | nil => exact ⟨rfl, rfl⟩
  | cons e rest ih =>
    rw [List.forall_mem_cons] at h
    obtain ⟨he, hrest⟩ := h
    rcases hlines : s.linesOfStep steps settings e with ⟨f | lines, t⟩
    · simp [runSteps_plain_cons, hlines, runsAlone_cons_of_error he hlines]
    · obtain ⟨hevents, hstore⟩ :=
        ih (k := k + lines.length) (named_of_linesOfStep hlines hrest)
      simp [runSteps_plain_cons, hlines, runsAlone_cons_of_ok he hlines, hevents, hstore]

/-- As far as steps can be taken, their single runs return. -/
theorem runsAlone_append_of_snapshots {k : Nat} {s t : Store} {before rest : List Record}
    {pieces : List (List String)}
    (hbefore : Snapshots (.plain vars) steps settings k s before pieces t)
    (h : ∀ e ∈ before ++ rest, s.Named e.attributes) :
    (∀ e ∈ rest, t.Named e.attributes) ∧
      ∃ earlier, s.runsAlone (.plain vars) steps settings (before ++ rest) =
          earlier ++ t.runsAlone (.plain vars) steps settings rest ∧
        earlier.map (·.outcome) = pieces.map .ok := by
  induction hbefore with
  | nil k s => exact ⟨h, [], rfl, rfl⟩
  | @cons k s t u v e taken announced lines pieces _ hlines hdue _ ih =>
    rw [List.cons_append, List.forall_mem_cons] at h
    obtain ⟨he, hothers⟩ := h
    -- nothing is due, so the next step is taken in the store that this one has left
    rw [Listener.due_plain, mutate] at hdue
    cases hdue
    obtain ⟨hnamed, earlier, hsplit, houtcomes⟩ := ih (named_of_linesOfStep hlines hothers)
    refine ⟨hnamed, ⟨lines.map .emit, .ok lines, t⟩ :: earlier, ?_, ?_⟩
    · rw [List.cons_append, runsAlone_cons_of_ok he hlines, hsplit, List.cons_append]
    · rw [List.map_cons, List.map_cons, houtcomes]

/-- Where all steps can be taken, all single runs return, each its piece. -/
theorem outcomes_runsAlone_of_snapshots {k : Nat} {s t : Store} {listed : List Record}
    {pieces : List (List String)}
    (hall : Snapshots (.plain vars) steps settings k s listed pieces t)
    (h : ∀ e ∈ listed, s.Named e.attributes) :
    (s.runsAlone (.plain vars) steps settings listed).map (·.outcome) = pieces.map .ok := by
  obtain ⟨-, earlier, hsingles, houtcomes⟩ :=
    runsAlone_append_of_snapshots hall (by rwa [List.append_nil])
  rw [List.append_nil, runsAlone, List.append_nil] at hsingles
  rw [hsingles, houtcomes]

/-- Where a step fails, its single run fails alike, and there are no more. -/
theorem outcomes_runsAlone_of_error {k : Nat} {s t u : Store} {before after : List Record}
    {e : Record} {pieces : List (List String)} {f : Fault}
    (hbefore : Snapshots (.plain vars) steps settings k s before pieces t)
    (h : ∀ d ∈ before ++ e :: after, s.Named d.attributes)
    (hfails : t.linesOfStep steps settings e = (.error f, u)) :
    (s.runsAlone (.plain vars) steps settings (before ++ e :: after)).map (·.outcome) =
      pieces.map .ok ++ [.error f] := by
  obtain ⟨hrest, earlier, hsingles, houtcomes⟩ := runsAlone_append_of_snapshots hbefore h
  have he := hrest e List.mem_cons_self
  rw [hsingles, runsAlone_cons_of_error he hfails, List.map_append, houtcomes]
  rfl

end Store

/-- A plain listener changes nothing, so nothing can go wrong with its changes. -/
theorem lands_plain (vars : Bindings) (steps : List Record) (settings : Value) (k : Nat)
    (s : Store) (selected : List Record) :
    Lands (.plain vars) steps settings k s selected := by
  induction selected generalizing k s with
  | nil => trivial
  | cons e rest ih =>
    intro announced lines t _ _
    rw [Listener.due_plain]
    exact ⟨t, rfl, ih _ t⟩

/-- **A run of all steps is the runs of its steps.** Let the steps of a catalogue be records that
are there, with names that are texts and not empty, and let the catalogue be listed. The single runs
of the steps, in that order and each in the store that the one before it has left, emit together
what the run of all steps emits, and the last of them leaves the store that it leaves. Moreover:

* if all steps can be taken, all single runs return, each the lines of its step;
* if one of them fails, the single runs of the steps before it return, and its own fails alike;
* one of the two is the case. -/
theorem run_eq_runsAlone (vars : Bindings) {steps listed : List Record} {settings : Value}
    {s : Store} (hlisted : s.listSteps steps = .ok listed)
    (hthere : ∀ e ∈ steps, e.attributes < s.size)
    (hnames : ∀ e ∈ steps, ∃ name, name ≠ "" ∧ s.field e "name" = .ok (.text name)) :
    let full := s.run (.plain vars) steps settings .null
    let singles := s.runsAlone (.plain vars) steps settings listed
    full.events = singles.flatMap (·.events) ∧
    full.store = singles.foldl (fun _ single => single.store) s ∧
    (∀ pieces t, Snapshots (.plain vars) steps settings 0 s listed pieces t →
      full.outcome = .ok pieces.flatten ∧ singles.map (·.outcome) = pieces.map .ok) ∧
    (∀ before e after pieces t f u, listed = before ++ e :: after →
      Snapshots (.plain vars) steps settings 0 s before pieces t →
      t.linesOfStep steps settings e = (.error f, u) →
      full.outcome = .error f ∧ singles.map (·.outcome) = pieces.map .ok ++ [.error f]) ∧
    ((∃ pieces t, Snapshots (.plain vars) steps settings 0 s listed pieces t) ∨
      ∃ before e after pieces t f u, listed = before ++ e :: after ∧
        Snapshots (.plain vars) steps settings 0 s before pieces t ∧
        t.linesOfStep steps settings e = (.error f, u)) := by
  intro full singles
  have hnamed : ∀ e ∈ listed, s.Named e.attributes := by
    intro e he
    have hmem := (Store.listSteps_perm hlisted).mem_iff.1 he
    obtain ⟨name, hne, hname⟩ := hnames e hmem
    exact Store.Named.of_field (hthere e hmem) hne hname
  have hrun : full = Store.runSteps (.plain vars) steps settings s 0 listed :=
    Store.run_plain_null hlisted
  obtain ⟨hevents, hstore⟩ := @Store.runSteps_eq_runsAlone vars steps settings s 0 listed hnamed
  rw [hrun]
  refine ⟨hevents, hstore, fun pieces t hall => ⟨?_, ?_⟩,
    fun before e after pieces t f u hsplit hbefore hfails => ⟨?_, ?_⟩, ?_⟩
  · exact (Store.runSteps_of_snapshots rfl hall).2.1
  · exact Store.outcomes_runsAlone_of_snapshots hall hnamed
  · rw [hsplit]
    exact (Store.runSteps_append_of_stopsAt rfl hbefore (.producing rfl hfails) after).2.1
  · subst hsplit
    exact Store.outcomes_runsAlone_of_error hbefore hnamed hfails
  · obtain hall | ⟨before, e, after, pieces, t, f, u, hsplit, hbefore, hstop⟩ :=
      exists_snapshots_or_stopsAt (lands_plain vars steps settings 0 s listed)
    · exact .inl hall
    · refine .inr ⟨before, e, after, pieces, t, f, u, hsplit, hbefore, ?_⟩
      cases hstop with
      | announcing hann => cases hann
      | producing _ hlines => exact hlines

/-- Two steps of one name sum an iterator, of which the second finds nothing left, and a third step
has a name without a topic. Listed by their orders, two of them stand the other way round than in
the catalogue. -/
theorem run_eq_runsAlone_of_sum_of_sum :
    let store (it : Iterator) : Store :=
      { cells :=
          #[.dict (.ofNames (Step.make "sum" "again" 2)), .dict (.ofNames (Step.make "sum" "" 1)),
            .dict (.ofNames (Step.make "product" "" 3)), .list [.int 3, .int 4], .iterator it,
            .dict (.ofNames [("numbers", .ref 4)]), .record ⟨.settings, 5⟩] }
    let s := store (.overList 3 0)
    let steps : List Record := [⟨.step, 0⟩, ⟨.step, 1⟩, ⟨.step, 2⟩]
    let listed : List Record := [⟨.step, 1⟩, ⟨.step, 0⟩, ⟨.step, 2⟩]
    s.listSteps steps = .ok listed ∧
      (∀ e ∈ steps, e.attributes < s.size) ∧
      (∀ e ∈ steps, ∃ name, name ≠ "" ∧ s.field e "name" = .ok (.text name)) ∧
      (s.runsAlone (.plain []) steps (.ref 6) listed).map (·.outcome) =
        [.ok ["Sum: 7"], .ok ["Sum: 0"], .error (.unknownName (.text "product"))] := by
  intro store s steps listed
  have hlisted : s.listSteps steps = .ok listed := by cbv
  have hthere : ∀ e ∈ steps, e.attributes < s.size := by decide
  have hnames : ∀ e ∈ steps, ∃ name, name ≠ "" ∧ s.field e "name" = .ok (.text name) := by
    simp only [steps, List.forall_mem_cons]
    exact ⟨⟨"sum", by decide, rfl⟩, ⟨"sum", by decide, rfl⟩, ⟨"product", by decide, rfl⟩, by simp⟩
  have hfirst : s.linesOfStep steps (.ref 6) ⟨.step, 1⟩ =
      (.ok ["Sum: 7"], store (.finished .listIterator)) := rfl
  have hsecond : (store (.finished .listIterator)).linesOfStep steps (.ref 6) ⟨.step, 0⟩ =
      (.ok ["Sum: 0"], store (.finished .listIterator)) := rfl
  have hthird : (store (.finished .listIterator)).linesOfStep steps (.ref 6) ⟨.step, 2⟩ =
      (.error (.unknownName (.text "product")), store (.finished .listIterator)) := rfl
  have hbefore : Snapshots (.plain []) steps (.ref 6) 0 s [⟨.step, 1⟩, ⟨.step, 0⟩]
      [["Sum: 7"], ["Sum: 0"]] (store (.finished .listIterator)) :=
    .cons rfl hfirst rfl (.cons rfl hsecond rfl (.nil _ _))
  refine ⟨hlisted, hthere, hnames, ?_⟩
  exact ((run_eq_runsAlone [] hlisted hthere hnames).2.2.2.1 _ _ [] _ _ _ _ rfl hbefore hthird).2

end Walkthrough
