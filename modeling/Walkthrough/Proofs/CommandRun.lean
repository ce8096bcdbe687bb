import Mathlib
import Walkthrough.Proofs.PrintedMarkup
import Walkthrough.Proofs.StandardOutput

/-!
# Runs from the command line

The command that runs steps makes settings, of which it gives the name and the count, and lets them
be run. Standard output gets the lines of that run, and the exit code tells whether it came to its
end. With steps that can be printed this is so, too, if the run is opened and its steps are
announced.

Nothing is asked of the catalogue. A step that goes by no known name ends the run, and so do names
that cannot be compared; what has been emitted before is on standard output then. All that matters
is that no step changes anything, as the settings hold what they are meant to hold.

## What is compared

The command builds its settings, and the run to compare it with is made in the store that building
has left, with the same settings and a listener who does nothing. The command itself has another
listener if it is verbose, and prints an opening before; neither changes the run as long as
everything can be printed. This is why the two conditions are about printing, and about verbose
commands only.

## Main definitions

* `CommandLine.RunOptions.inputs` — what the settings of the command hold
* `CommandLine.RunOptions.arguments` — arguments that ask for a run
* `Store.Printable` — steps that can be announced on the terminal

## Main results

* `CommandLine.build_settings` — the settings of the command hold what they are meant to
* `CommandLine.parse_arguments` — every run can be asked for
* `CommandLine.execute_eq_run` — the command and the run that it stands for
-/

namespace Walkthrough

namespace Store

variable {s t : Store} {steps listed : List Record} {settings only : Value} {x : Inputs}

/-! ### Steps that can be printed

A step is announced in marked-up text, so that its name and its description must not open a tag.
Nothing is asked of its order but that it can be written.
-/

/-- Steps that can be announced on the terminal: names and descriptions are texts without an opening
bracket, and orders are integers that do not have too many digits. -/
def Printable (s : Store) (steps : List Record) : Prop :=
  ∀ e ∈ steps, ∃ (name description : String) (order : Value) (n : Int),
    s.field e "name" = .ok (.text name) ∧ '[' ∉ name.toList ∧
    s.field e "description" = .ok (.text description) ∧ '[' ∉ description.toList ∧
    s.field e "order" = .ok order ∧ order.integer? = some n ∧ Integer.digitCount n ≤ 4300

/-- A step that has a description keeps it in a dictionary. -/
theorem lt_of_field_description {e : Record} {v : Value} (h : s.field e "description" = .ok v) :
    e.attributes < s.size := by
  by_contra hle
  rw [field, field?, attribute?, attributesAt, get?_eq_none_iff.2 (Nat.not_lt.1 hle)] at h
  cases hkind : e.kind <;> rw [hkind] at h <;> cases h

/-- Objects that are made make no difference to that. -/
theorem Printable.of_extends (h : s.Printable steps) (hst : Extends s t) : t.Printable steps := by
  intro e he
  obtain ⟨name, description, order, n, hname, hplain, hdescription, hrest⟩ := h e he
  have hfield (name : String) : t.field e name = s.field e name := by
    rw [field, field, field?, field?, attribute?, attribute?,
      hst.attributesAt_eq (lt_of_field_description hdescription)]
  refine ⟨name, description, order, n, ?_, hplain, ?_, ?_⟩
  · rw [hfield, hname]
  · rw [hfield, hdescription]
  · rw [hfield]
    exact hrest

end Store

namespace CommandLine

open Terminal

variable {s : Store} {steps : List Record} {options : RunOptions}

/-! ### The settings of the command

Only the name and the count are given. The settings are made by the command itself, so that nothing
else has them.
-/

/-- The step that a run is asked for. -/
def RunOptions.only (options : RunOptions) : Value :=
  match options.step with
  | some step => .text step
  | none => .null

/-- What the settings of the command hold. -/
def RunOptions.inputs (options : RunOptions) : Inputs :=
  { greeting := Settings.defaultGreeting
    name := options.name
    count := options.count
    iterations := Settings.defaultIterations
    numbers := Settings.defaultNumbers
    firstName := "John"
    lastName := "Doe"
    age := 30 }

/-- The attributes that the settings of the command have in a store. -/
def RunOptions.attributes (options : RunOptions) (s : Store) : Bindings :=
  [("count", .int options.count), ("name", .text options.name)].foldl
    (fun bs field => bs.put field.1 field.2)
    (Settings.withDefaults (.ref s.size) (.ref (s.size + 2)))

/-- A store in which the settings of the command have been made. -/
def RunOptions.made (options : RunOptions) (s : Store) : Store :=
  s.allocAll (Store.settingsCells s.size (options.attributes s))

/-- All of it can be read off the objects that are made. -/
theorem provides_made (options : RunOptions) (s : Store) :
    (options.made s).Provides (.ref (s.size + 4)) options.inputs := by
  have hlookup {name : String} {v : Value} (hname : name ∉ ["__class__", "__dict__", "__weakref__"])
      (h : (options.attributes s).get? name = some v) :
      (options.made s).lookup (.ref (s.size + 4)) name = .ok v :=
    Store.lookup_allocAll_settingsCells s hname h
  have hcell {i : Nat} {c : Cell}
      (h : (Store.settingsCells s.size (options.attributes s))[i]? = some c) :
      (options.made s).get? (s.size + i) = some c :=
    (Store.get?_allocAll_add s _ i).trans h
  have hattribute (name : String) :
      (options.made s).attribute? ⟨.person, s.size + 1⟩ name = Person.default.get? name := by
    rw [Store.attribute?, Store.attributesAt, hcell (i := 1) rfl, Table.get?_ofNames]
  exact
    { record := ⟨_, hcell (i := 4) rfl, rfl⟩
      greeting := hlookup (by decide) rfl
      name := hlookup (by decide) rfl
      count := ⟨_, hlookup (by decide) rfl, rfl⟩
      iterations := ⟨_, hlookup (by decide) rfl, rfl⟩
      numbers := ⟨_, _, hlookup (by decide) rfl, hcell (i := 0) rfl, rfl⟩
      person := ⟨_, _, hlookup (by decide) rfl, hcell (i := 2) rfl, rfl, hattribute _,
        Store.lookup_of_attribute? (hcell (i := 2) rfl) (by decide) (hattribute _),
        Store.lookup_of_attribute? (hcell (i := 2) rfl) (by decide) (hattribute _),
        Store.lookup_of_attribute? (hcell (i := 2) rfl) (by decide) (hattribute _)⟩ }

/-- **The settings of the command** hold what they are meant to. -/
theorem build_settings (options : RunOptions) (s : Store) :
    ∃ settings t, options.settings.build [] s = .ok (settings, t) ∧ s.Extends t ∧
      t.Provides settings options.inputs := by
  obtain ⟨⟨settings, t⟩, hbuilt⟩ : ∃ made, options.settings.build [] s = .ok made := ⟨_, rfl⟩
  obtain ⟨given, u, hgiven, rfl, rfl⟩ := Literal.build_settings_eq_ok (by simp) (by simp) hbuilt
  cases hgiven
  exact ⟨_, _, hbuilt, Store.extends_allocAll _ _, provides_made options s⟩

/-! ### Openings and announcements

What is announced goes to standard error, and can be printed.
-/

/-- A verbose run can be opened if the name of the step that is asked for has no opening bracket. -/
theorem printed_openingMarkup (h : ∀ step, options.step = some step → '[' ∉ step.toList) :
    ∃ text, printed (openingMarkup options.step) = .ok text := by
  have hprinted {subject : String} (hsubject : '[' ∉ subject.toList) :
      ∃ text, printed ("[bold]Running " ++ subject ++ "[/bold]") = .ok text := by
    refine printed_of_notMem styleWord_bold [] ("Running ".toList ++ subject.toList) (by simp) ?_
      (by simp)
    rw [List.mem_append, not_or]
    exact ⟨by decide, hsubject⟩
  unfold openingMarkup
  split
  · exact hprinted (by decide)
  · exact hprinted (by decide)
  · exact hprinted (h _ ‹_›)

/-- Steps that can be printed are announced. -/
theorem printed_announcement (h : s.Printable steps) {e : Record} (he : e ∈ steps) :
    ∃ text, s.announcement e >>= printed = .ok text := by
  obtain ⟨name, description, order, n, hname, hplain, hdescription, hplain', horder, hn, hdigits⟩ :=
    h e he
  obtain ⟨number, hnumber, hplain''⟩ := Store.sentence_of_integer? (s := s) hn hdigits
  simp only [Store.announcement_of_fields horder hnumber hname hdescription, bind, Except.bind]
  refine printed_of_notMem styleWord_dim [' ', ' ']
    (number.toList ++ (". ".toList ++ (name.toList ++ (": ".toList ++ description.toList))))
    (by simp) ?_ (by simp)
  simp [hplain, hplain', hplain'']

/-! ### The command and the run

The command differs from the run by what it prints besides the lines, and by what it makes of the
outcome.
-/

/-- Why a command failed that carries out a run with such an outcome, if it did. -/
def Problem.ofOutcome : Except Fault (List String) → Option Problem
  | .ok _ => none
  | .error f => some (.fault f)

/-- What a command puts out that carries out a run. -/
def Output.ofRun (trace : Walkthrough.Trace) (stderr : String) : Output :=
  { exit := if trace.outcome.isOk then 0 else 1
    stdout := delivered trace.lines
    stderr
    problem := Problem.ofOutcome trace.outcome }

/-- Whom a run from the command line is told. -/
def RunOptions.listener (options : RunOptions) : Listener :=
  { progress := if options.verbose then some printed else none }

/-- When the opening has been printed, a command is a run with the listener of its options, and what
is said of its outcome. -/
theorem executeKnown_eq_ofRun {settings : Value} {t : Store} (opening : String)
    (hbuilt : options.settings.build [] s = .ok (settings, t)) :
    let trace := t.run options.listener steps settings options.only
    executeKnown s steps options opening =
      (.ofRun trace (opening ++ Trace.stderr trace), trace.store) := by
  intro trace
  have hcommand : executeKnown s steps options opening =
      ({ exit := if (Problem.ofOutcome trace.outcome).isSome then 1 else 0
         stdout := Trace.stdout trace
         stderr := opening ++ Trace.stderr trace
         problem := Problem.ofOutcome trace.outcome }, trace.store) := by
    simp only [executeKnown, hbuilt]
    rfl
  rw [hcommand, stdout_eq_delivered, Output.ofRun]
  cases trace.outcome <;> rfl

/-- A run after an opening. Announcements make no difference to it if all steps can be printed. -/
theorem executeKnown_eq_run {settings : Value} {t : Store} (opening : String)
    (hbuilt : options.settings.build [] s = .ok (settings, t))
    (hprovides : t.Provides settings options.inputs)
    (hprint : options.verbose = true → t.Printable steps) :
    let trace := t.run (.plain []) steps settings options.only
    ∃ stderr, executeKnown s steps options opening = (.ofRun trace stderr, trace.store) := by
  intro trace
  have hselected : ∀ selected, t.selectSteps steps options.only = .ok selected →
      t.Steady steps settings selected ∧
        ∀ e ∈ selected, ∃ announced, options.listener.announce t e = .ok announced := by
    intro selected hselected
    refine ⟨Store.steady_of_provides hprovides steps selected, fun e he => ?_⟩
    cases hverbose : options.verbose with
    | false => exact ⟨[], by simp [Listener.announce, RunOptions.listener, hverbose]⟩
    | true =>
      obtain ⟨text, htext⟩ := printed_announcement (hprint hverbose)
        (Store.mem_of_selectSteps hselected e he)
      obtain ⟨announcement, hannouncement, hprinted⟩ := Sorting.bind_eq_ok.1 htext
      exact ⟨[.progress text], by
        simp only [Listener.announce, RunOptions.listener, hverbose, if_true, hannouncement, bind,
          Except.bind, hprinted]
        rfl⟩
  obtain ⟨hlines, houtcome, hstore⟩ := Store.run_eq_plain [] ⟨rfl, rfl⟩ hselected
  rw [executeKnown_eq_ofRun opening hbuilt]
  exact ⟨opening ++ Trace.stderr (t.run options.listener steps settings options.only), by
    simp only [Output.ofRun, hlines, houtcome, hstore, trace]⟩

/-- No step is asked for, or one that the catalogue has. -/
def Known (s : Store) (steps : List Record) (step : Option String) : Prop :=
  step = none ∨ step = some "" ∨
    ∃ name e, step = some name ∧ s.findStep (.text name) steps = .ok (some e)

/-- Looking for a step that is known finds one, or is not done at all. -/
theorem unknownStep?_of_known {step : Option String} (h : Known s steps step) :
    unknownStep? s steps step = .ok none := by
  obtain rfl | rfl | ⟨name, e, rfl, he⟩ := h
  · rfl
  · rfl
  · unfold unknownStep?
    split
    · rfl
    · rfl
    · rename_i heq
      cases heq
      simp only [he]
      rfl

/-- If the steps can be printed, a run of one of them can be opened. -/
theorem printed_openingMarkup_of_known (h : Known s steps options.step)
    (hprint : s.Printable steps) : ∃ text, printed (openingMarkup options.step) = .ok text := by
  refine printed_openingMarkup fun step hstep => ?_
  obtain hnone | hempty | ⟨name, e, hname, he⟩ := h
  · rw [hnone] at hstep
    cases hstep
  · rw [hempty] at hstep
    cases hstep
    decide
  · rw [hname] at hstep
    cases hstep
    obtain ⟨before, after, hsplit, -⟩ := Store.findStep_eq_some he
    obtain ⟨other, -, -, -, hother, hplain, -⟩ := hprint e (by rw [hsplit]; simp)
    rw [Store.field_of_findStep he] at hother
    cases hother
    exact hplain

/-- **Running known steps** puts out what the run emits. -/
theorem executeRun_eq_run {settings : Value} {t : Store}
    (hbuilt : options.settings.build [] s = .ok (settings, t))
    (hknown : Known s steps options.step) (hprint : options.verbose = true → s.Printable steps) :
    let trace := t.run (.plain []) steps settings options.only
    ∃ stderr, executeRun s steps options = (.ofRun trace stderr, trace.store) := by
  obtain ⟨_, _, hmade, hextends, hprovides⟩ := build_settings options s
  cases hbuilt.symm.trans hmade
  have hopening : ∃ opening, (if options.verbose then printed (openingMarkup options.step)
      else .ok "") = .ok opening := by
    cases hverbose : options.verbose with
    | false => exact ⟨"", rfl⟩
    | true => exact printed_openingMarkup_of_known hknown (hprint hverbose)
  obtain ⟨opening, hopening⟩ := hopening
  simp only [executeRun, unknownStep?_of_known hknown, hopening]
  exact executeKnown_eq_run opening hbuilt hprovides fun hverbose =>
    (hprint hverbose).of_extends hextends

/-- The lines of topics arrive on standard output as they are if the name does. -/
theorem RunOptions.untouched_of_mem (hname : Untouched options.name) {topic : Topic} {line : String}
    (hline : line ∈ options.inputs.topicLines topic) : Untouched line :=
  untouched_of_mem_topicLines (by decide : Untouched Settings.defaultGreeting) hname
    (by decide : Untouched "John") (by decide : Untouched "Doe") hline

/-! ### Asking for a run -/

/-- Arguments that ask for a run. -/
def RunOptions.arguments (options : RunOptions) : List String :=
  "run" :: ((match options.step with
    | some step => ["--step", step]
    | none => []) ++ ["--name", options.name, "--count", toString options.count] ++
      if options.verbose then ["--verbose"] else [])

/-- The options that these arguments give. -/
def RunOptions.given (options : RunOptions) : List Given :=
  (match options.step with
    | some step => [(.step, step)]
    | none => []) ++ [(.name, options.name), (.count, toString options.count)] ++
      if options.verbose then [(.verbose, "")] else []

/-- An argument that leaves an option wanting a value takes the next one, whatever that is. -/
theorem scan_of_wanting (argument : String) (switch : Switch) {given : List Given}
    {spelling : String} (hdashes : argument ≠ "--") (hoption : looksLikeOption argument = true)
    (hread : readOption .run argument = .ok { given, wanting := some (switch, spelling) })
    (value : String) (rest : List String) :
    scan .run (argument :: value :: rest) =
      (scan .run rest).map (.after (given ++ [(switch, value)])) := by
  simp only [scan, if_neg hdashes, if_pos hoption, hread]

/-- The arguments of a run are read one by one, each option with its value. -/
theorem scan_arguments (options : RunOptions) :
    scan .run options.arguments.tail = .ok { given := options.given } := by
  obtain ⟨step, name, count, verbose⟩ := options
  have hlast : scan .run (if verbose then ["--verbose"] else []) =
      .ok { given := if verbose then [(.verbose, "")] else [] } := by
    cases verbose <;> rfl
  have hstep := scan_of_wanting "--step" .step (by decide) (by decide) rfl
  have hname := scan_of_wanting "--name" .name (by decide) (by decide) rfl
  have hcount := scan_of_wanting "--count" .count (by decide) (by decide) rfl
  cases step with
  | none =>
    simp only [RunOptions.arguments, List.tail_cons, List.nil_append, List.cons_append, hname,
      hcount, hlast]
    rfl
  | some step =>
    simp only [RunOptions.arguments, List.tail_cons, List.nil_append, List.cons_append, hstep,
      hname, hcount, hlast]
    rfl

/-- **Every run can be asked for**, if the digits of its count are not too many to be read. -/
theorem parse_arguments (h : Integer.digitCount options.count ≤ 4300) :
    parse options.arguments = .ok (.run options) := by
  have hparsed : parse options.arguments = parseRun options.arguments.tail := rfl
  have hhelp : Scan.asksHelp { given := options.given } = false := by
    obtain ⟨_ | step, name, count, _ | _⟩ := options <;> rfl
  have hlast : Scan.last? { given := options.given } .count = some (toString options.count) := by
    obtain ⟨_ | step, name, count, _ | _⟩ := options <;> rfl
  have hcount : Scan.count { given := options.given } = .ok options.count := by
    simp only [Scan.count, hlast, Integer.read?_toString h]
  simp only [hparsed, parseRun, scan_arguments, hhelp, hcount, bind, Except.bind]
  obtain ⟨_ | step, name, count, _ | _⟩ := options <;> rfl

/-- **The command and the run that it stands for.** Let no step be asked for, or one that the
catalogue has, and let the name arrive on standard output as it is. Then standard output gets the
lines that the run emits, each with a line feed behind it. The command ends with exit code zero if
the run returns, and with one, and the fault of the run, if it does not. It leaves the store that
the run leaves.

If all steps can be printed, it makes no difference to that whether the run is verbose. By
`parse_arguments` there are arguments of both kinds for all options whose count can be read. -/
theorem execute_eq_run (s : Store) (steps : List Record) (options : RunOptions)
    {arguments verbosely : List String}
    (hquiet : parse arguments = .ok (.run { options with verbose := false }))
    (hverbose : parse verbosely = .ok (.run { options with verbose := true }))
    (hknown : Known s steps options.step) (hname : Untouched options.name) :
    ∃ settings t, options.settings.build [] s = .ok (settings, t) ∧
      let trace := t.run (.plain []) steps settings options.only
      let quiet := execute s steps arguments
      let told := execute s steps verbosely
      quiet.1.stdout = String.join (trace.lines.map (· ++ "\n")) ∧
        (∀ lines, trace.outcome = .ok lines → quiet.1.exit = 0 ∧ quiet.1.problem = none) ∧
        (∀ f, trace.outcome = .error f → quiet.1.exit = 1 ∧ quiet.1.problem = some (.fault f)) ∧
        quiet.2 = trace.store ∧
        (s.Printable steps → told.1.stdout = quiet.1.stdout ∧ told.1.exit = quiet.1.exit ∧
          told.1.problem = quiet.1.problem ∧ told.2 = quiet.2) := by
  obtain ⟨settings, t, hbuilt, -, hprovides⟩ := build_settings options s
  refine ⟨settings, t, hbuilt, ?_⟩
  intro trace quiet told
  have hexecuted (verbose : Bool) {arguments : List String}
      (hparse : parse arguments = .ok (.run { options with verbose }))
      (hprint : verbose = true → s.Printable steps) :
      ∃ stderr, execute s steps arguments = (.ofRun trace stderr, trace.store) := by
    have hsettings : RunOptions.settings { options with verbose } = options.settings := rfl
    rw [execute, hparse]
    exact executeRun_eq_run (hsettings ▸ hbuilt) hknown hprint
  obtain ⟨stderr, hquietly⟩ := hexecuted false hquiet fun h => nomatch h
  have hquiet' : quiet = (.ofRun trace stderr, trace.store) := hquietly
  rw [hquiet']
  refine ⟨delivered_of_untouched fun line hline => ?_, fun lines houtcome => ?_,
    fun f houtcome => ?_, rfl, fun hprint => ?_⟩
  · obtain ⟨topic, hmem⟩ := Store.exists_topic_of_mem_lines hprovides hline
    exact options.untouched_of_mem hname hmem
  · simp only [Output.ofRun, houtcome]
    exact ⟨rfl, rfl⟩
  · simp only [Output.ofRun, houtcome]
    exact ⟨rfl, rfl⟩
  · obtain ⟨_, htold⟩ := hexecuted true hverbose fun _ => hprint
    have htold' : told = _ := htold
    rw [htold']
    exact ⟨rfl, rfl, rfl, rfl⟩

/-- A catalogue in which the last step has no topic. The lines of the others are on standard output,
verbose or not. -/
theorem execute_eq_run_of_unknown :
    let s : Store :=
      { cells :=
          #[.dict (.ofNames (Step.make "threshold" "compares" 2)),
            .dict (.ofNames (Step.make "bogus" "" 3)),
            .dict (.ofNames (Step.make "greeting" "greets" 1))] }
    let steps : List Record := [⟨.step, 0⟩, ⟨.step, 1⟩, ⟨.step, 2⟩]
    let quiet := (execute s steps ["run", "--name", "Bob"]).1
    let told := (execute s steps ["run", "-v", "--name=Bob"]).1
    quiet.stdout = "Hello, World! My name is Bob.\nCount is greater than 5\n" ∧ quiet.exit = 1 ∧
      quiet.problem = some (.fault (.unknownName (.text "bogus"))) ∧
      told.stdout = quiet.stdout ∧ told.exit = quiet.exit ∧ told.problem = quiet.problem := by
  intro s steps quiet told
  obtain ⟨settings, t, hbuilt, hstdout, -, hfault, -, htold⟩ :=
    @execute_eq_run s steps { name := "Bob" } ["run", "--name", "Bob"] ["run", "-v", "--name=Bob"]
      rfl rfl (.inl rfl) (by decide)
  obtain ⟨rfl, rfl⟩ : settings = .ref 7 ∧ t = RunOptions.made { name := "Bob" } s :=
    ⟨(Prod.mk.inj (Except.ok.inj hbuilt)).1.symm, (Prod.mk.inj (Except.ok.inj hbuilt)).2.symm⟩
  have hselected : (RunOptions.made { name := "Bob" } s).selectSteps steps .null =
      .ok [⟨.step, 2⟩, ⟨.step, 0⟩, ⟨.step, 1⟩] := by cbv
  have hrun : (RunOptions.made { name := "Bob" } s).run (.plain []) steps (.ref 7) .null =
      ⟨[.emit "Hello, World! My name is Bob.", .emit "Count is greater than 5"],
        .error (.unknownName (.text "bogus")), RunOptions.made { name := "Bob" } s⟩ := by
    rw [Store.run, hselected]
    rfl
  have hprintable : s.Printable steps := by
    intro e he
    simp only [steps, List.mem_cons, List.not_mem_nil, or_false] at he
    obtain rfl | rfl | rfl := he <;>
      exact ⟨_, _, _, _, rfl, by decide, rfl, by decide, rfl, rfl, by decide⟩
  obtain ⟨hexit, hproblem⟩ := hfault _ (congrArg Trace.outcome hrun)
  obtain ⟨hsame, hcode, hcause, -⟩ := htold hprintable
  refine ⟨hstdout.trans ?_, hexit, hproblem, hsame, hcode, hcause⟩
  rw [show RunOptions.only { name := "Bob" } = .null from rfl, hrun]
  rfl

end CommandLine

end Walkthrough
