import Walkthrough.Proofs.CommandRun
import Walkthrough.Session

/-!
# How a command ends

With the catalogue as it was at the beginning a command ends in one of few ways, and the arguments
alone decide in which. If they cannot be read, nothing is done and the exit code is two. If they ask
for a step that there is not, it is one, and standard output gets nothing. Otherwise it is zero: the
steps are listed, or standard output gets the lines of the run.

The only thing that can go wrong beyond that is the report on a step that there is not, as its name
is spliced into marked-up text.

## How the cases are cut

Four things may happen to a command: its arguments cannot be read, it asks for a step that there is
not, it lists the steps, or it runs some. `Session.command_cases` gives the answer in each case as a
whole, and `Session.command_ends` reads the exit code, the two outputs and the fault off it. Since
the cases exclude each other, the conditions for an exit code are equivalences and not only
implications.

Whether a step is known is a question to the catalogue. With the catalogue of the beginning it
becomes a question about the five names, so that the arguments alone decide it.

## Main definitions

* `CommandLine.RunOptions.lines` — the lines of the run that is asked for
* `CommandLine.RunOptions.AsksUnknown` — whether a step is asked for that there is not

## Main results

* `CommandLine.executeList_of_holdsCatalogue` — listing the steps
* `CommandLine.reportUnknownStep_of_holdsCatalogue` — reporting a step that there is not
* `CommandLine.executeRun_of_holdsCatalogue` — running steps that there are
* `Session.command_ends` — how a command ends
-/

namespace Walkthrough

namespace Store

variable {s : Store} {steps : List Record}

/-- The steps that there are at the beginning can be announced on the terminal. -/
theorem HoldsCatalogue.printable (h : s.HoldsCatalogue steps) : s.Printable steps := by
  intro e he
  obtain ⟨topic, description, hplain, hname, hdescription, horder⟩ := h.fields he
  refine ⟨topic.name, description, .int topic.place, topic.place, hname, ?_, hdescription, hplain,
    horder, rfl, ?_⟩ <;> cases topic <;> decide

end Store

namespace CommandLine

open Terminal

variable {s : Store} {steps : List Record} {options : RunOptions}

/-! ### Listing the steps

The table is put together from names and titles of the steps, and there are no brackets in them.
-/

/-- **The steps are listed** without fault, on standard error. -/
theorem executeList_of_holdsCatalogue (h : s.HoldsCatalogue steps) :
    ∃ stderr, executeList s steps = { exit := 0, stderr } := by
  have hcells : ∀ e ∈ steps, ∃ row, stepCells s e = .ok row ∧
      ('[' ∉ row.1 ∧ '[' ∉ row.2.1 ∧ '[' ∉ row.2.2) := by
    intro e he
    obtain ⟨name, description, order, n, hname, hplain, hdescription, hplain', horder, hn,
      hdigits⟩ := h.printable e he
    obtain ⟨number, hnumber, hplain''⟩ := Store.sentence_of_integer? (s := s) hn hdigits
    refine ⟨(number.toList, name.toList, description.toList), ?_, hplain'', hplain, hplain'⟩
    simp only [stepCells, hname, hdescription, horder, hnumber, bind, Except.bind]
    rfl
  obtain ⟨rows, hrows, hplain⟩ := mapM_eq_ok hcells
  obtain ⟨table, htable⟩ := stepTable_of_notMem hplain
  have hlisted : s.listSteps steps >>= List.mapM (stepCells s) = .ok rows := by
    rw [h.listSteps]
    exact hrows
  exact ⟨"\n" ++ table ++ "\n", by simp only [executeList, hlisted, htable]⟩

/-! ### A step that there is not

The report tells the name as it was given, in a style, and the names that there are. All but the
name is fixed, so whether it can be printed depends on the name.
-/

theorem joinNames_texts (s : Store) (index : Nat) (names : List String) :
    joinNames s index (names.map .text) = .ok names := by
  induction names generalizing index with
  | nil => rfl
  | cons name names ih =>
    rw [List.map_cons, joinNames, ih]
    rfl

/-- The names of the steps, in the order of their topics. -/
theorem mapM_name (h : s.HoldsCatalogue steps) :
    (steps.mapM fun e => s.field e "name") = .ok ((Topic.inOrder.map Topic.name).map .text) := by
  have hnamed : List.Forall₂ (fun e (topic : Topic) => s.field e "name" = .ok (.text topic.name))
      steps Topic.inOrder := by
    refine h.forall₂.imp fun e topic hstep => ?_
    obtain ⟨description, -, hattributes⟩ := hstep
    exact Store.field_of_attributesAt hattributes rfl
  clear h
  generalize Topic.inOrder = topics at hnamed
  induction hnamed with
  | nil => rfl
  | cons hfirst _ ih =>
    rw [List.mapM_cons, hfirst, ih]
    rfl

/-- What is said about a step that there is not, before it is printed. -/
theorem unknownStepMarkup_of_holdsCatalogue (h : s.HoldsCatalogue steps) (step : String) :
    unknownStepMarkup s steps step = .ok ("[red]Unknown step: " ++ step ++ "[/red]. Choose: " ++
      "greeting, sum, threshold, loop, person") := by
  have hnames : commaSeparated (Topic.inOrder.map Topic.name) =
      "greeting, sum, threshold, loop, person" := rfl
  simp only [unknownStepMarkup, h.listSteps, mapM_name h, joinNames_texts, hnames, bind,
    Except.bind]
  rfl

/-- **A step that there is not** is reported on standard error, if what is said can be printed. -/
theorem reportUnknownStep_of_holdsCatalogue (h : s.HoldsCatalogue steps) (step : String) :
    ∃ stderr problem, reportUnknownStep s steps step = { exit := 1, stderr, problem } ∧
      (problem = none ∨ ∃ f : Fault, problem = some (.fault f) ∧
        (f.category = .markup ∨ f.category = .value)) := by
  simp only [reportUnknownStep, unknownStepMarkup_of_holdsCatalogue h, bind, Except.bind]
  cases hprinted : printed _ with
  | error f => exact ⟨"", _, rfl, .inr ⟨f, rfl, markupFaults_printed _ f hprinted⟩⟩
  | ok text => exact ⟨text, none, rfl, .inl rfl⟩

/-! ### Steps that there are

The settings of a command are built from its options. They provide what the lines are made from,
whatever the options are.
-/

/-- Whether a run is asked for a step that there is not. -/
def RunOptions.AsksUnknown (options : RunOptions) : Prop :=
  ∃ step, options.step = some step ∧ step ≠ "" ∧ ∀ topic : Topic, step ≠ topic.name

/-- The lines of the run that is asked for. -/
def RunOptions.lines (options : RunOptions) : List String :=
  match options.step.bind Topic.ofName? with
  | some topic => options.inputs.topicLines topic
  | none => options.inputs.lines

theorem RunOptions.untouched_of_mem_lines (options : RunOptions) (hname : Untouched options.name)
    {line : String} (hline : line ∈ options.lines) : Untouched line := by
  unfold lines at hline
  split at hline
  · exact options.untouched_of_mem hname hline
  · obtain ⟨topic, -, hmem⟩ := List.mem_flatMap.1 hline
    exact options.untouched_of_mem hname hmem

/-- A run is asked for no step, for that of a topic, or for one that there is not. -/
theorem step_cases (options : RunOptions) :
    options.step = none ∨ options.step = some "" ∨
      (∃ topic : Topic, options.step = some topic.name) ∨ options.AsksUnknown := by
  cases hstep : options.step with
  | none => exact .inl rfl
  | some step =>
    by_cases hempty : step = ""
    · exact .inr (.inl (by rw [hempty]))
    · cases htopic : Topic.ofName? step with
      | some topic => exact .inr (.inr (.inl ⟨topic, by rw [Topic.eq_name_of_ofName? htopic]⟩))
      | none => exact .inr (.inr (.inr ⟨step, hstep, hempty, Topic.ofName?_eq_none_iff.1 htopic⟩))

/-- The numbers that a command lets be added up are the default ones, and the age is the default
one. -/
theorem fits_inputs (options : RunOptions) (topic : Topic) : options.inputs.fits topic = true := by
  have hsum : Integer.digitCount Settings.defaultNumbers.sum ≤ 4300 := by decide
  have hage : Integer.digitCount 30 ≤ 4300 := by decide
  exact Inputs.fits_of_le hsum hage topic

/-- **A run of steps that there are** returns its lines. -/
theorem run_of_holdsCatalogue {settings : Value} (h : s.HoldsCatalogue steps)
    (hprovides : s.Provides settings options.inputs) (hknown : ¬ options.AsksUnknown) :
    let trace := s.run (.plain []) steps settings options.only
    trace.lines = options.lines ∧ trace.outcome = .ok options.lines ∧ trace.store = s := by
  intro trace
  have hall := Store.runSteps_of_fits [] hprovides (fits_inputs options) (h.linesOfStep settings) 0
  obtain hnone | hempty | ⟨topic, htopic⟩ | hunknown := step_cases options
  · have hlines : options.lines = options.inputs.lines := by simp [RunOptions.lines, hnone]
    have htrace : trace = _ := h.run_plain (by simp only [RunOptions.only, hnone]; rfl)
    rw [htrace, hlines]
    exact hall
  · have hlines : options.lines = options.inputs.lines := by
      simp [RunOptions.lines, hempty, Topic.ofName?]
    have htrace : trace = _ := h.run_plain (by simp only [RunOptions.only, hempty]; rfl)
    rw [htrace, hlines]
    exact hall
  · have hlines : options.lines = options.inputs.topicLines topic := by
      simp [RunOptions.lines, htopic]
    obtain ⟨e, he⟩ := h.findStep_name topic
    have hstep := h.linesOfStep_of_name (Store.field_of_findStep he) settings
    have hselected : s.selectSteps steps options.only = .ok [e] := by
      have htrue : s.truthy (.text topic.name) = true := by cases topic <;> rfl
      simp only [Store.selectSteps, RunOptions.only, htopic, htrue, if_true, he]
      rfl
    have htrace : trace = Store.runSteps (.plain []) steps settings s 0 [e] := by
      simp only [trace, Store.run, hselected]
    rw [htrace, hlines]
    simpa using Store.runSteps_of_fits [] hprovides (fits_inputs options) (.cons hstep .nil) 0
  · exact absurd hunknown hknown

/-- A name that no topic has is that of no step. -/
theorem unknownStep?_of_forall_ne (h : s.HoldsCatalogue steps) {step : String} (hne : step ≠ "")
    (hnone : ∀ topic : Topic, step ≠ topic.name) :
    unknownStep? s steps (some step) = .ok (some step) := by
  have hfound := h.findStep_of_ofName? (Topic.ofName?_eq_none_iff.2 hnone)
  unfold unknownStep?
  split
  · rename_i heq
    cases heq
  · rename_i heq
    exact absurd (Option.some.inj heq) hne
  · rename_i heq
    cases heq
    rw [hfound]
    rfl

/-- A step that is not unknown is that of a topic, and is found. -/
theorem known_of_not_asksUnknown (h : s.HoldsCatalogue steps) (hknown : ¬ options.AsksUnknown) :
    Known s steps options.step := by
  obtain hnone | hempty | ⟨topic, htopic⟩ | hunknown := step_cases options
  · exact .inl hnone
  · exact .inr (.inl hempty)
  · obtain ⟨e, he⟩ := h.findStep_name topic
    exact .inr (.inr ⟨topic.name, e, htopic, he⟩)
  · exact absurd hunknown hknown

/-- **Running steps that there are** puts the lines of the run on standard output. -/
theorem executeRun_of_holdsCatalogue (h : s.HoldsCatalogue steps)
    (hknown : ¬ options.AsksUnknown) :
    ∃ settings t, options.settings.build [] s = .ok (settings, t) ∧ s.Extends t ∧
      (t.run (.plain []) steps settings options.only).lines = options.lines ∧
      (t.run (.plain []) steps settings options.only).outcome = .ok options.lines ∧
      ∃ stderr, executeRun s steps options =
        ({ exit := 0, stdout := delivered options.lines, stderr }, t) := by
  obtain ⟨settings, t, hbuilt, hextends, hprovides⟩ := build_settings options s
  obtain ⟨hlines, houtcome, hstore⟩ :=
    run_of_holdsCatalogue (h.of_extends hextends) hprovides hknown
  obtain ⟨stderr, hrun⟩ := executeRun_eq_run hbuilt (known_of_not_asksUnknown h hknown)
    fun _ => h.printable
  refine ⟨settings, t, hbuilt, hextends, hlines, houtcome, stderr, ?_⟩
  rw [hrun, Output.ofRun, hlines, houtcome, hstore]
  rfl

end CommandLine

/-! ### Any arguments

Here arguments are taken as they come, and the cases are put together.
-/

open CommandLine

theorem Fault.category_report {f : Fault} (h : f.category ≠ .name) (s : Store) :
    (f.report s).category = f.category := by
  unfold report
  split
  · exact absurd rfl h
  · rfl

namespace Session

variable {σ : Session} {arguments : List String}

/-- **The four ways in which a command ends.** -/
theorem command_cases (h : σ.store.HoldsCatalogue σ.steps) (hhelp : parse arguments ≠ .ok .help) :
    (∃ e, parse arguments = .error e ∧
      σ.perform (.command arguments) = (.command 2 "" "" (some (.usage e)), σ)) ∨
    (∃ options, parse arguments = .ok (.run options) ∧ options.AsksUnknown ∧
      ∃ stderr problem, σ.perform (.command arguments) = (.command 1 "" stderr problem, σ) ∧
        (problem = none ∨ ∃ r : Report, problem = some (.fault r) ∧
          (r.category = .markup ∨ r.category = .value))) ∨
    (parse arguments = .ok .list ∧
      ∃ stderr, σ.perform (.command arguments) = (.command 0 "" stderr none, σ)) ∨
    ∃ options, parse arguments = .ok (.run options) ∧ ¬ options.AsksUnknown ∧
      ∃ settings t stderr, options.settings.build [] σ.store = .ok (settings, t) ∧
        σ.store.Extends t ∧
        (t.run (.plain []) σ.steps settings options.only).lines = options.lines ∧
        (t.run (.plain []) σ.steps settings options.only).outcome = .ok options.lines ∧
        σ.perform (.command arguments) =
          (.command 0 (delivered options.lines) stderr none, σ.withStore t) := by
  rcases hparse : parse arguments with e | _ | options | _
  · refine .inl ⟨e, rfl, ?_⟩
    simp only [perform, performCommand, execute, hparse]
    rfl
  · obtain ⟨stderr, hlist⟩ := executeList_of_holdsCatalogue h
    refine .inr (.inr (.inl ⟨rfl, stderr, ?_⟩))
    simp only [perform, performCommand, execute, hparse, hlist]
    rfl
  · by_cases hunknown : options.AsksUnknown
    · obtain ⟨step, hstep, hne, hnone⟩ := id hunknown
      obtain ⟨stderr, problem, hreport, hproblem⟩ := reportUnknownStep_of_holdsCatalogue h step
      obtain rfl | ⟨f, rfl, hf⟩ := hproblem
      · refine .inr (.inl ⟨options, rfl, hunknown, stderr, none, ?_, .inl rfl⟩)
        simp only [perform, performCommand, execute, hparse, executeRun, hstep,
          unknownStep?_of_forall_ne h hne hnone, hreport]
        rfl
      · refine .inr (.inl ⟨options, rfl, hunknown, stderr, some (.fault (f.report σ.store)), ?_,
          .inr ⟨_, rfl, ?_⟩⟩)
        · simp only [perform, performCommand, execute, hparse, executeRun, hstep,
            unknownStep?_of_forall_ne h hne hnone, hreport]
          rfl
        · have hname : f.category ≠ .name := by
            rcases hf with hf | hf <;> rw [hf] <;> decide
          rwa [Fault.category_report hname]
    · obtain ⟨settings, t, hbuilt, hextends, hlines, houtcome, stderr, hrun⟩ :=
        executeRun_of_holdsCatalogue h hunknown
      refine .inr (.inr (.inr ⟨options, rfl, hunknown, settings, t, stderr, hbuilt, hextends,
        hlines, houtcome, ?_⟩))
      simp only [perform, performCommand, execute, hparse, hrun]
      rfl
  · exact absurd hparse hhelp

/-- Objects that are made for a command change nothing in the catalogue. -/
theorem contents_of_extends_of_holdsCatalogue {s : Store} (h : σ.store.HoldsCatalogue σ.steps)
    (hextends : σ.store.Extends s) : (σ.withStore s).contents = σ.contents :=
  (h.of_extends hextends).trans h.symm

/-- **How a command ends.** Let the catalogue be as it was at the beginning, and let arguments ask
for neither help nor completion. The exit code is two if they cannot be read, and then nothing is
put out. It is one if they ask for a run of a step that there is not, and then standard output gets
nothing. Otherwise it is zero: standard output gets nothing if the steps are listed, and for a run
it gets the lines that the run returns, as they arrive there. These are the lines as they are if the
name arrives as it is.

A command does not fail because of a name, a kind or a member, nor for any other reason unless it
reports a step that there is not. The catalogue, the variables and all objects stay as they are. -/
theorem command_ends (σ : Session) (h : σ.store.HoldsCatalogue σ.steps) {arguments : List String}
    (hhelp : parse arguments ≠ .ok .help) :
    ∃ exit stdout stderr problem τ,
      σ.perform (.command arguments) = (.command exit stdout stderr problem, τ) ∧
      (exit = 0 ∨ exit = 1 ∨ exit = 2) ∧
      (exit = 2 ↔ ∃ e, parse arguments = .error e) ∧
      (exit = 2 → stdout = "" ∧ stderr = "" ∧ ∃ e, problem = some (.usage e)) ∧
      (exit = 1 ↔ ∃ options, parse arguments = .ok (.run options) ∧
        ∃ step, options.step = some step ∧ step ≠ "" ∧ ∀ topic : Topic, step ≠ topic.name) ∧
      (exit = 1 → stdout = "") ∧
      (parse arguments = .ok .list → stdout = "") ∧
      (∀ options, parse arguments = .ok (.run options) → exit = 0 →
        stdout = delivered options.lines ∧
        (Untouched options.name → stdout = String.join (options.lines.map (· ++ "\n"))) ∧
        ∃ settings t, options.settings.build [] σ.store = .ok (settings, t) ∧
          (t.run (.plain []) σ.steps settings options.only).outcome = .ok options.lines ∧
          (t.run (.plain []) σ.steps settings options.only).lines = options.lines) ∧
      (∀ r, problem = some (.fault r) →
        exit = 1 ∧ r.category ≠ .name ∧ r.category ≠ .kind ∧ r.category ≠ .member) ∧
      τ.vars = σ.vars ∧ τ.steps = σ.steps ∧ τ.contents = σ.contents ∧
      σ.store.Extends τ.store := by
  obtain ⟨e, hparse, heq⟩ | ⟨options, hparse, hunknown, stderr, problem, heq, hproblem⟩ |
    ⟨hparse, stderr, heq⟩ |
    ⟨options, hparse, hknown, settings, t, stderr, hbuilt, hextends, hlines, houtcome, heq⟩ :=
    command_cases h hhelp
  · refine ⟨2, "", "", _, σ, heq, ?_⟩
    simp [hparse, Store.Extends.refl]
  · refine ⟨1, "", stderr, problem, σ, heq, ?_⟩
    have hasks : ∃ step, options.step = some step ∧ step ≠ "" ∧
        ∀ topic : Topic, step ≠ topic.name := hunknown
    have hcategory : ∀ r, problem = some (.fault r) →
        r.category ≠ .name ∧ r.category ≠ .kind ∧ r.category ≠ .member := by
      rintro r rfl
      obtain hnone | ⟨r', hr, hcategory⟩ := hproblem
      · cases hnone
      · cases hr
        rcases hcategory with hc | hc <;> rw [hc] <;> decide
    simpa [hparse, hasks, Store.Extends.refl] using hcategory
  · refine ⟨0, "", stderr, none, σ, heq, ?_⟩
    simp [hparse, Store.Extends.refl]
  · refine ⟨0, _, stderr, none, _, heq, ?_⟩
    have hnone : ¬ ∃ step, options.step = some step ∧ step ≠ "" ∧
        ∀ topic : Topic, step ≠ topic.name := hknown
    have hcontents := contents_of_extends_of_holdsCatalogue h hextends
    have hdelivered (hname : Untouched options.name) :
        delivered options.lines = String.join (options.lines.map (· ++ "\n")) :=
      delivered_of_untouched fun line => options.untouched_of_mem_lines hname
    refine ⟨.inl rfl, ?_, (absurd · (by decide)), ?_, (absurd · (by decide)), ?_, ?_, ?_, rfl,
      rfl, hcontents, hextends⟩
    · simp [hparse]
    · simpa [hparse] using hnone
    · simp [hparse]
    · rintro other hother -
      cases hparse.symm.trans hother
      exact ⟨rfl, hdelivered, settings, t, hbuilt, houtcome, hlines⟩
    · rintro r h
      cases h

/-- A short option with its value attached, behind another, runs one step. A step that there is not
is reported. -/
theorem command_ends_of_loop_of_unknown :
    (∃ stderr problem τ, Session.perform {} (.command ["run", "-vsloop"]) =
        (.command 0 "Iteration 0\nIteration 1\nIteration 2\n" stderr problem, τ) ∧
      τ.steps = Store.initial.1) ∧
    ∃ stderr problem τ, Session.perform {} (.command ["run", "--step=Loop"]) =
      (.command 1 "" stderr problem, τ) := by
  constructor
  · have hparse : parse ["run", "-vsloop"] =
        .ok (.run { step := some "loop", verbose := true }) := rfl
    obtain ⟨exit, stdout, stderr, problem, τ, heq, hexit, htwo, -, hone, -, -, hrun, -, -, hsteps,
      -⟩ := command_ends {} rfl (by rw [hparse]; exact nofun : parse ["run", "-vsloop"] ≠ .ok .help)
    have hzero : exit = 0 := by
      obtain h | h | h := hexit
      · exact h
      · obtain ⟨options, hoptions, step, hstep, -, hnone⟩ := hone.1 h
        cases hparse.symm.trans hoptions
        cases hstep
        exact absurd rfl (hnone .loop)
      · obtain ⟨e, he⟩ := htwo.1 h
        cases hparse.symm.trans he
    obtain ⟨hstdout, -⟩ := hrun _ hparse hzero
    subst hzero hstdout
    exact ⟨stderr, problem, τ, heq, hsteps⟩
  · have hparse : parse ["run", "--step=Loop"] = .ok (.run { step := some "Loop" }) := rfl
    obtain ⟨exit, stdout, stderr, problem, τ, heq, -, -, -, hone, hempty, -⟩ :=
      command_ends {} rfl (by rw [hparse]; exact nofun : parse ["run", "--step=Loop"] ≠ .ok .help)
    have hunknown : exit = 1 := hone.2 ⟨_, hparse, "Loop", rfl, by decide, by
      intro topic
      cases topic <;> decide⟩
    rw [hempty hunknown, hunknown] at heq
    exact ⟨stderr, problem, τ, heq⟩

/-- The lines of a run need not arrive as they are: what would colour the name is left out. And the
name of a step that there is not may keep the report on it from being printed, where it asks for a
colour of which the parts are missing. -/
theorem not_command_ends_exactly :
    (∃ options, parse ["run", "--step", "greeting", "--name", "\x1b[31mBob"] = .ok (.run options) ∧
      (Session.perform {} (.command ["run", "--step", "greeting", "--name", "\x1b[31mBob"])).1 =
        .command 0 "Hello, World! My name is Bob.\n" "" none ∧
      String.join (options.lines.map (· ++ "\n")) ≠ "Hello, World! My name is Bob.\n") ∧
    Session.perform {} (.command ["run", "--step", "[rgb(,,)]"]) =
      (.command 1 "" ""
        (some (.fault ⟨.value, "invalid literal for int() with base 10: ''"⟩)), {}) := by
  constructor
  · exact ⟨{ step := some "greeting", name := "\x1b[31mBob" }, rfl, rfl, by decide⟩
  · have hlisted : Store.initial.2.listSteps Store.initial.1 = .ok Store.initial.1 :=
      Store.HoldsCatalogue.listSteps rfl
    have hreport : reportUnknownStep Store.initial.2 Store.initial.1 "[rgb(,,)]" =
        { exit := 1, problem := some (.fault (.notNumber "")) } := by
      rw [reportUnknownStep, unknownStepMarkup, hlisted]
      rfl
    have hexecuted : execute Store.initial.2 Store.initial.1 ["run", "--step", "[rgb(,,)]"] =
        (reportUnknownStep Store.initial.2 Store.initial.1 "[rgb(,,)]", Store.initial.2) := rfl
    simp only [perform, performCommand, hexecuted, hreport]
    rfl

end Session

end Walkthrough
