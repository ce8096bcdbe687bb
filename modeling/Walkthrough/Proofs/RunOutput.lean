import Mathlib.Data.List.TakeWhile
import Walkthrough.Proofs.Announcement
import Walkthrough.Proofs.DecimalText
import Walkthrough.Proofs.InitialCatalogue
import Walkthrough.Proofs.Movement
import Walkthrough.Proofs.SteadyRun

/-!
# What a run says

With the catalogue as it was at the beginning, and settings of which every field holds what it is
meant to hold, the lines of a run are known in advance. There is no limit to the numbers that the
settings hold, but there is one to the number of digits that are written out, and two of the five
topics write out a number that may have more: the sum of the numbers, and the age of the person.
A run comes to its end, or to the first of these that does not fit.

A truth value counts as an integer wherever the number is only worked with. The age is shown, so it
must be an integer.

## How much is assumed

The conditions on the settings are about what is found when they are asked, and not about how they
have been made. So they are met by new settings, by settings whose fields have been set, and by
those that share a person or a list with others. Truth values are allowed where integers are
compared or added. The condition on the person is the one under which it composes its name; a person
with something else under that name may say anything.

## Main definitions

* `Inputs` — what the fields of settings hold
* `Store.Provides` — settings of which every field holds what it is meant to
* `Inputs.topicLines`, `Inputs.lines` — the lines of a topic, and of a run
* `Inputs.fits` — what a topic writes out does not have too many digits

## Main results

* `Store.topicLines_of_provides` — the lines of a topic, or its fault
* `Store.linesOfStep_of_provides` — a step of any catalogue gives the lines of a topic, or none
* `Store.runSteps_of_provides` — the lines of steps up to what does not fit
* `run_of_provides` — the lines of all steps, asked for at once and in a run
-/

namespace Walkthrough

/-- What the fields of settings hold. Numbers have no limit here; where one is too large to be
written out is a matter of the lines. -/
structure Inputs where
  greeting : String
  name : String
  count : Int
  iterations : Int
  numbers : List Int
  firstName : String
  lastName : String
  age : Int

namespace Inputs

/-- The lines of a topic. -/
def topicLines (x : Inputs) : Topic → List String
  | .greeting => [x.greeting ++ " My name is " ++ x.name ++ "."]
  | .sum => ["Sum: " ++ toString x.numbers.sum]
  | .threshold =>
    [if 5 < x.count then "Count is greater than 5" else "Count is not greater than 5"]
  | .loop => (List.range x.iterations.toNat).map fun i => "Iteration " ++ toString i
  | .person =>
    [x.firstName ++ " " ++ x.lastName ++ " is " ++ toString x.age ++ " years old."]

/-- Whether what a topic writes out does not have too many digits. -/
def fits (x : Inputs) : Topic → Bool
  | .sum => Integer.digitCount x.numbers.sum ≤ 4300
  | .person => Integer.digitCount x.age ≤ 4300
  | _ => true

end Inputs

/-- The lines of a run. -/
def Inputs.lines (x : Inputs) : List String := Topic.inOrder.flatMap x.topicLines

namespace Inputs

variable {x : Inputs}

/-- There are as many lines as iterations, and four more. -/
theorem length_lines (x : Inputs) : (x.lines.length : Int) = 4 + max 0 x.iterations := by
  simp only [lines, Topic.inOrder, topicLines, List.flatMap_cons, List.flatMap_nil,
    List.length_append, List.length_cons, List.length_nil, List.length_map, List.length_range]
  omega

/-- Every topic fits if the sum and the age do. -/
theorem fits_of_le (hsum : Integer.digitCount x.numbers.sum ≤ 4300)
    (hage : Integer.digitCount x.age ≤ 4300) (topic : Topic) : x.fits topic = true := by
  cases topic <;> simp [fits, hsum, hage]

theorem not_all_fits {topic : Topic} (h : x.fits topic = false) :
    ¬ Topic.inOrder.all x.fits = true := by
  intro hall
  rw [List.all_eq_true.1 hall topic topic.mem_inOrder] at h
  cases h

/-! ### The lines up to the first topic that does not fit

There are five topics, of which two may not fit. So the lines before the first of these are all
lines, the first line, or all but the last.
-/

theorem takeWhile_fits_of_forall (h : ∀ topic, x.fits topic = true) (topics : List Topic) :
    topics.takeWhile x.fits = topics :=
  List.takeWhile_eq_self_iff.2 fun topic _ => h topic

theorem takeWhile_fits_of_sum (hsum : x.fits .sum = false) :
    (Topic.inOrder.takeWhile x.fits).flatMap x.topicLines = x.lines.take 1 := by
  have htopics : Topic.inOrder.takeWhile x.fits = [.greeting] := by
    rw [Topic.inOrder, List.takeWhile_cons_of_pos rfl,
      List.takeWhile_cons_of_neg (by simp [hsum])]
  rw [htopics]
  rfl

theorem takeWhile_fits_of_person (hsum : x.fits .sum = true) (hperson : x.fits .person = false) :
    (Topic.inOrder.takeWhile x.fits).flatMap x.topicLines =
      x.lines.take (3 + x.iterations.toNat) := by
  have htopics : Topic.inOrder.takeWhile x.fits = [.greeting, .sum, .threshold, .loop] := by
    rw [Topic.inOrder, List.takeWhile_cons_of_pos rfl, List.takeWhile_cons_of_pos hsum,
      List.takeWhile_cons_of_pos rfl, List.takeWhile_cons_of_pos rfl,
      List.takeWhile_cons_of_neg (by simp [hperson])]
  have hlines : x.lines =
      [Topic.greeting, .sum, .threshold, .loop].flatMap x.topicLines ++ x.topicLines .person := by
    simp [lines, Topic.inOrder]
  rw [htopics, hlines, List.take_left']
  simp [topicLines]
  omega

end Inputs

namespace Store

/-- Settings of which every field holds what it is meant to. The person composes its full name from
its first and its last name, as nothing of its own hides the operation for it. -/
structure Provides (s : Store) (settings : Value) (x : Inputs) : Prop where
  record : ∃ r, s.cell? settings = some (.record r) ∧ r.kind = .settings
  greeting : s.lookup settings "greeting" = .ok (.text x.greeting)
  name : s.lookup settings "name" = .ok (.text x.name)
  count : ∃ v, s.lookup settings "count" = .ok v ∧ v.integer? = some x.count
  iterations : ∃ v, s.lookup settings "iterations" = .ok v ∧ v.integer? = some x.iterations
  numbers : ∃ v items, s.lookup settings "numbers" = .ok v ∧ s.cell? v = some (.list items) ∧
    items.map Value.integer? = x.numbers.map some
  person : ∃ a r, s.lookup settings "person" = .ok (.ref a) ∧ s.get? a = some (.record r) ∧
    r.kind = .person ∧ s.attribute? r fullNameAttribute = none ∧
    s.lookup (.ref a) "first_name" = .ok (.text x.firstName) ∧
    s.lookup (.ref a) "last_name" = .ok (.text x.lastName) ∧
    s.lookup (.ref a) "age" = .ok (.int x.age)

variable {s : Store} {steps listed : List Record} {settings only : Value} {x : Inputs}

/-! ### Integers

Truth values count as integers for adding and comparing, and are written out as words. This is why
the sum may take them and the age may not.
-/

theorem number?_of_integer? {v : Value} {n : Int} (h : v.integer? = some n) :
    v.number? = some (.int n) := by
  cases v with
  | bool b | int m =>
    cases h
    rfl
  | _ => cases h

/-- **Integers are added exactly**, whatever their size. -/
theorem sumFrom_of_integers {items : List Value} {ns : List Int}
    (h : items.map Value.integer? = ns.map some) (total : Int) :
    s.sumFrom (.int total) items = .ok (.int (total + ns.sum)) := by
  induction items generalizing ns total with
  | nil =>
    obtain rfl : ns = [] := by simpa using h.symm
    simp [sumFrom]
  | cons v rest ih =>
    obtain ⟨n, ns, rfl, hn, hrest⟩ := List.map_eq_cons_iff.1 h.symm
    have hadd : s.addElement (.int total) v = .ok (.int (total + n)) := by
      simp only [addElement, number?_of_integer? hn.symm, Number.add_int]
    simp only [sumFrom, hadd, ih hrest.symm, List.sum_cons, add_assoc]

/-- An integer is written out if it does not have too many digits. -/
theorem displayInt_eq_ite (n : Int) :
    displayInt n =
      if Integer.digitCount n ≤ 4300 then .ok (toString n) else .error .tooManyDigits := by
  split
  · rw [displayInt, Integer.render?_eq_some_iff.2 ⟨‹_›, rfl⟩]
  · rw [displayInt, Integer.render?_eq_none_iff.2 (Nat.not_le.1 ‹_›)]

theorem integer_of_integer? {v : Value} {n : Int} (h : v.integer? = some n) :
    s.integer v = .ok n := by
  cases v with
  | bool b | int m =>
    cases h
    rfl
  | _ => cases h

/-! ### The lines of a topic

By cases on the topic. What is read from the settings is given by `Store.Provides`.
-/

/-- The sum of the numbers is written out, and may have too many digits. -/
theorem sumLine_of_provides {v : Value} {items : List Value}
    (hcell : s.cell? v = some (.list items))
    (hitems : items.map Value.integer? = x.numbers.map some) :
    s.sumLine v = ((displayInt x.numbers.sum).map ("Sum: " ++ ·), s) := by
  have helements : s.elements v = .ok items := by
    cases v with
    | ref a | description d => simp only [elements, hcell]
    | _ => cases hcell
  have hmove (read : Nat) (ranOff : Bool) : s.moveOn v read ranOff = s := by
    unfold moveOn
    split
    · rename_i hiterator
      rw [hcell] at hiterator
      cases hiterator
    · rfl
  simp only [sumLine, sum, helements, hmove, sumFrom_of_integers hitems, zero_add]
  rfl

/-- The age of a person is written out, and may have too many digits. -/
theorem personLine_of_provides {a : Addr} {r : Record} (hcell : s.get? a = some (.record r))
    (hkind : r.kind = .person) (hown : s.attribute? r fullNameAttribute = none)
    (hfirst : s.lookup (.ref a) "first_name" = .ok (.text x.firstName))
    (hlast : s.lookup (.ref a) "last_name" = .ok (.text x.lastName))
    (hage : s.lookup (.ref a) "age" = .ok (.int x.age)) :
    s.personLine (.ref a) = ((displayInt x.age).map fun age =>
      x.firstName ++ " " ++ x.lastName ++ " is " ++ age ++ " years old.", s) := by
  have hname (levels : Nat) :
      s.composeFullName (.ref a) levels = .ok (x.firstName ++ " " ++ x.lastName) := by
    simp only [composeFullName, hfirst, hlast]
    rfl
  simp only [personLine, fullName_of_composed hcell hkind hown (hname _), hage]
  show (do return _ ++ (← displayInt x.age) ++ _, s) = _
  rcases displayInt x.age with f | age <;> rfl

/-- **The lines of a topic**, or its fault. The store stays as it is. -/
theorem topicLines_of_provides (h : s.Provides settings x) (topic : Topic) :
    s.topicLines settings topic =
      (if x.fits topic then .ok (x.topicLines topic) else .error .tooManyDigits, s) := by
  cases topic with
  | greeting =>
    simp only [topicLines, h.name, h.greeting]
    rfl
  | sum =>
    obtain ⟨v, items, hv, hcell, hitems⟩ := h.numbers
    simp only [topicLines, hv, sumLine_of_provides hcell hitems, displayInt_eq_ite, Inputs.fits,
      decide_eq_true_eq]
    split <;> rfl
  | threshold =>
    obtain ⟨v, hv, hcount⟩ := h.count
    simp only [topicLines, hv, thresholdLine, bind, Except.bind, number?_of_integer? hcount,
      Number.less_int, threshold, decide_eq_true_eq]
    rfl
  | loop =>
    obtain ⟨v, hv, hiterations⟩ := h.iterations
    simp only [topicLines, hv, iterationLines, bind, Except.bind, integer_of_integer? hiterations]
    rfl
  | person =>
    obtain ⟨a, r, ha, hcell, hkind, hown, hfirst, hlast, hage⟩ := h.person
    simp only [topicLines, ha, personLine_of_provides hcell hkind hown hfirst hlast hage,
      displayInt_eq_ite, Inputs.fits, decide_eq_true_eq]
    split <;> rfl

/-! ### The lines of steps

A step has the lines of the topic that its name stands for. Since no topic changes anything, the
settings provide the same when the next step is started.
-/

/-- **A step gives the lines of a topic**, or none, and leaves the store as it is. -/
theorem linesOfStep_of_provides (h : s.Provides settings x) (steps : List Record) (e : Record) :
    (∃ f, s.linesOfStep steps settings e = (.error f, s)) ∨
      ∃ topic, s.linesOfStep steps settings e = (.ok (x.topicLines topic), s) := by
  simp only [linesOfStep]
  rcases s.field e "name" with f | name
  · exact .inl ⟨f, rfl⟩
  · simp only [stepLines]
    rcases s.findStep name steps with f | _ | d
    · exact .inl ⟨f, rfl⟩
    · exact .inl ⟨_, rfl⟩
    · rcases name.topic? with _ | topic
      · exact .inl ⟨_, rfl⟩
      · simp only [topicLines_of_provides h]
        split
        · exact .inr ⟨topic, rfl⟩
        · exact .inl ⟨_, rfl⟩

/-- Settings of which every field holds what it is meant to are not changed by any step. So all
steps of a run are taken in the same store, and the lines of each can be told in advance. -/
theorem steady_of_provides (h : s.Provides settings x) (steps listed : List Record) :
    s.Steady steps settings listed := by
  intro e _
  rcases linesOfStep_of_provides h steps e with ⟨f, hlines⟩ | ⟨topic, hlines⟩ <;> rw [hlines]

/-- Every line of a run is a line of a topic. -/
theorem exists_topic_of_mem_lines (h : s.Provides settings x) {line : String}
    (hline : line ∈ (s.run (.plain []) steps settings only).lines) :
    ∃ topic, line ∈ x.topicLines topic := by
  rw [run] at hline
  split at hline
  · cases hline
  · rename_i selected _
    obtain ⟨e, -, lines, hlines, hmem⟩ :=
      exists_of_mem_lines (steady_of_provides h steps selected) hline
    rcases linesOfStep_of_provides h steps e with ⟨f, htopic⟩ | ⟨topic, htopic⟩
    · rw [htopic] at hlines
      cases hlines
    · rw [htopic] at hlines
      cases hlines
      exact ⟨topic, hmem⟩

/-- **Going through steps** of known topics: their lines are emitted up to the first topic that
writes out a number with too many digits. -/
theorem runSteps_of_provides (vars : Bindings) (h : s.Provides settings x) {topics : List Topic}
    (hlisted : List.Forall₂ (fun e topic =>
      s.linesOfStep steps settings e = s.topicLines settings topic) listed topics) (k : Nat) :
    let trace := runSteps (.plain vars) steps settings s k listed
    trace.lines = (topics.takeWhile x.fits).flatMap x.topicLines ∧
      trace.outcome = (if topics.all x.fits then .ok (topics.flatMap x.topicLines)
        else .error .tooManyDigits) ∧ trace.store = s := by
  induction hlisted generalizing k with
  | nil => exact ⟨rfl, rfl, rfl⟩
  | @cons e topic rest topics hfirst _ ih =>
    rw [topicLines_of_provides h] at hfirst
    by_cases hfits : x.fits topic
    · obtain ⟨hlines, houtcome, hstore⟩ := ih (k + (x.topicLines topic).length)
      rw [Trace.lines] at hlines
      rw [if_pos hfits] at hfirst
      rw [runSteps_cons_of_patient (Listener.patient_plain vars) rfl hfirst]
      simp only [Trace.lines, List.nil_append, Event.lines_append, Event.lines_map_emit,
        hlines, houtcome, hstore, List.takeWhile_cons_of_pos hfits, List.flatMap_cons,
        List.all_cons, hfits, Bool.true_and, and_true, true_and]
      split <;> rfl
    · rw [if_neg hfits] at hfirst
      rw [runSteps_cons_of_error rfl hfirst]
      simp [Trace.lines, List.takeWhile_cons_of_neg hfits, hfits]

/-- If every topic fits, all of their lines are emitted and given. -/
theorem runSteps_of_fits (vars : Bindings) (h : s.Provides settings x)
    (hfits : ∀ topic, x.fits topic = true) {topics : List Topic}
    (hlisted : List.Forall₂ (fun e topic =>
      s.linesOfStep steps settings e = s.topicLines settings topic) listed topics) (k : Nat) :
    let trace := runSteps (.plain vars) steps settings s k listed
    trace.lines = topics.flatMap x.topicLines ∧
      trace.outcome = .ok (topics.flatMap x.topicLines) ∧ trace.store = s := by
  obtain ⟨hlines, houtcome, hstore⟩ := runSteps_of_provides vars h hlisted k
  rw [Inputs.takeWhile_fits_of_forall hfits] at hlines
  rw [if_pos (List.all_eq_true.2 fun topic _ => hfits topic)] at houtcome
  exact ⟨hlines, houtcome, hstore⟩

/-! ### Announcements

What a step holds in the beginning can be put into words, so that a listener who records
announcements is told every step.
-/

/-- What counts as an integer, and does not have too many digits, can be put into words. -/
theorem sentence_of_integer? {v : Value} {n : Int} (h : v.integer? = some n)
    (hdigits : Integer.digitCount n ≤ 4300) :
    ∃ t, s.sentence v = .ok t ∧ '[' ∉ t.toList := by
  cases v with
  | bool b => cases b <;> exact ⟨_, rfl, by decide⟩
  | int m =>
    cases h
    rw [sentence_int _ _ one_lt_callLevels, displayInt_eq_ite, if_pos hdigits]
    exact ⟨_, rfl, Integer.notMem_toString (by decide) rfl n⟩
  | _ => cases h

/-- The announcement of a step that goes by a text and has a text for its description. -/
theorem announcement_of_fields {e : Record} {order : Value} {number name description : String}
    (horder : s.field e "order" = .ok order) (hnumber : s.sentence order = .ok number)
    (hname : s.field e "name" = .ok (.text name))
    (hdescription : s.field e "description" = .ok (.text description)) :
    s.announcement e = .ok ("  [dim]" ++ number ++ ". " ++ name ++ ": " ++ description ++
      "[/dim]") := by
  simp only [announcement, hname, hdescription, horder, hnumber, bind, Except.bind, sentence_text]
  rfl

/-- The steps that there are at the beginning can be announced to a listener that records. -/
theorem HoldsCatalogue.announce_recording (h : s.HoldsCatalogue steps) {e : Record} (he : e ∈ steps)
    {listener : Listener} (hprogress : listener.progress = none ∨ listener.progress = some .ok) :
    ∃ announced, listener.announce s e = .ok announced := by
  obtain ⟨topic, description, -, hname, hdescription, horder⟩ := h.fields he
  have hdigits : Integer.digitCount topic.place ≤ 4300 := by cases topic <;> decide
  obtain ⟨number, hnumber, -⟩ := sentence_of_integer? (s := s) (v := .int topic.place) rfl hdigits
  rcases hprogress with hnone | hrecord
  · exact ⟨[], by simp only [Listener.announce, hnone]⟩
  · exact ⟨[.progress _], by
      simp only [Listener.announce, hrecord, bind, Except.bind,
        announcement_of_fields horder hnumber hname hdescription]
      rfl⟩

/-! ### All steps -/

/-- Settings are records and count as true, so that they are not replaced by new ones. -/
theorem truthy_of_provides (h : s.Provides settings x) : s.truthy settings = true := by
  obtain ⟨r, hcell, -⟩ := h.record
  cases settings with
  | ref a | description d => simp only [truthy, hcell]
  | _ => cases hcell

/-- The lines of all steps, asked for at once. -/
theorem allLines_of_provides (hsteps : s.HoldsCatalogue steps) (h : s.Provides settings x) :
    s.allLines steps settings =
      (if Topic.inOrder.all x.fits then .ok x.lines else .error .tooManyDigits, s) := by
  have hused : s.orDefault settings = (settings, s) := by
    rw [orDefault, if_pos (truthy_of_provides h)]
  obtain ⟨-, houtcome, hstore⟩ :=
    runSteps_of_provides [] h (hsteps.linesOfStep settings) 0
  rw [allLines_eq_run, hused, hsteps.run_plain rfl, houtcome, hstore]
  rfl

/-- **A run of all steps** emits the lines up to the first topic that does not fit, announced or
not. -/
theorem run_of_holdsCatalogue {listener : Listener} (hsteps : s.HoldsCatalogue steps)
    (h : s.Provides settings x) (honly : s.truthy only = false) (hpatient : listener.Patient)
    (hprogress : listener.progress = none ∨ listener.progress = some .ok) :
    let trace := s.run listener steps settings only
    trace.lines = (Topic.inOrder.takeWhile x.fits).flatMap x.topicLines ∧
      trace.outcome = (if Topic.inOrder.all x.fits then .ok x.lines else .error .tooManyDigits) ∧
      trace.store = s := by
  have hselected : ∀ selected, s.selectSteps steps only = .ok selected →
      s.Steady steps settings selected ∧
        ∀ e ∈ selected, ∃ announced, listener.announce s e = .ok announced := by
    intro selected hselected
    cases (hsteps.selectSteps honly).symm.trans hselected
    exact ⟨steady_of_provides h steps _,
      fun e he => hsteps.announce_recording he hprogress⟩
  obtain ⟨hlines, houtcome, hstore⟩ := run_eq_plain [] hpatient hselected
  rw [hsteps.run_plain honly] at hlines houtcome hstore
  obtain ⟨hlines', houtcome', hstore'⟩ :=
    runSteps_of_provides [] h (hsteps.linesOfStep settings) 0
  exact ⟨hlines.trans hlines', houtcome.trans houtcome', hstore.trans hstore'⟩

end Store

/-- **What a run says.** Let the catalogue be as it was at the beginning, let every field of the
settings hold what it is meant to, and let a listener refuse no line, change nothing, and have the
steps recorded or not.

* If neither the sum of the numbers nor the age has more than 4300 digits, then all lines are given
  and emitted: those of the five topics, four and as many as there are iterations.
* If the sum has more, this is what ends the run, and only the greeting is emitted before.
* If the sum has not but the age has, this is what ends the run, and all but the last line are
  emitted before.

In each case the lines that are asked for at once end alike, and the store stays as it is. -/
theorem run_of_provides {s : Store} {steps : List Record} {settings only : Value} {x : Inputs}
    {listener : Listener} (hsteps : s.HoldsCatalogue steps) (h : s.Provides settings x)
    (honly : s.truthy only = false) (hpatient : listener.Patient)
    (hprogress : listener.progress = none ∨ listener.progress = some .ok) :
    let all := s.allLines steps settings
    let trace := s.run listener steps settings only
    (Integer.digitCount x.numbers.sum ≤ 4300 → Integer.digitCount x.age ≤ 4300 →
      all = (.ok x.lines, s) ∧ trace.outcome = .ok x.lines ∧ trace.lines = x.lines ∧
        trace.store = s ∧ (x.lines.length : Int) = 4 + max 0 x.iterations) ∧
    (4300 < Integer.digitCount x.numbers.sum →
      all = (.error .tooManyDigits, s) ∧ trace.outcome = .error .tooManyDigits ∧
        trace.lines = x.lines.take 1 ∧ trace.store = s) ∧
    (Integer.digitCount x.numbers.sum ≤ 4300 → 4300 < Integer.digitCount x.age →
      all = (.error .tooManyDigits, s) ∧ trace.outcome = .error .tooManyDigits ∧
        trace.lines = x.lines.take (3 + x.iterations.toNat) ∧ trace.store = s) := by
  intro all trace
  have hall : all = _ := Store.allLines_of_provides hsteps h
  obtain ⟨hlines, houtcome, hstore⟩ :=
    Store.run_of_holdsCatalogue hsteps h honly hpatient hprogress
  refine ⟨fun hsum hage => ?_, fun hsum => ?_, fun hsum hage => ?_⟩
  · have hfits : ∀ topic, x.fits topic = true := Inputs.fits_of_le hsum hage
    rw [if_pos (List.all_eq_true.2 fun topic _ => hfits topic)] at hall houtcome
    rw [Inputs.takeWhile_fits_of_forall hfits] at hlines
    exact ⟨hall, houtcome, hlines, hstore, x.length_lines⟩
  · have hfits : x.fits .sum = false := by simpa [Inputs.fits] using hsum
    rw [if_neg (Inputs.not_all_fits hfits)] at hall houtcome
    exact ⟨hall, houtcome, hlines.trans (Inputs.takeWhile_fits_of_sum hfits), hstore⟩
  · have hfits : x.fits .person = false := by simpa [Inputs.fits] using hage
    have hsumFits : x.fits .sum = true := by simpa [Inputs.fits] using hsum
    rw [if_neg (Inputs.not_all_fits hfits)] at hall houtcome
    exact ⟨hall, houtcome, hlines.trans (Inputs.takeWhile_fits_of_person hsumFits hfits), hstore⟩

/-- A run with a truth value among the numbers, announced step by step. With one number that has
4301 digits it ends after the greeting. -/
theorem run_of_provides_of_large :
    let store (n : Int) : Store := Store.initial.2.allocAll
      [.list [.int n, .bool true],
        .dict (.ofNames (Person.make (.text "Ada") (.text "King") (.int 36))),
        .record ⟨.person, 6⟩,
        .dict (.ofNames [("greeting", .text "Hi."), ("name", .text "Bob"), ("count", .int 5),
          ("iterations", .int (-2)), ("numbers", .ref 5), ("person", .ref 7)]),
        .record ⟨.settings, 8⟩]
    let run (n : Int) : Trace :=
      (store n).run { progress := some .ok } Store.initial.1 (.ref 9) .null
    (run 2).lines = ["Hi. My name is Bob.", "Sum: 3", "Count is not greater than 5",
        "Ada King is 36 years old."] ∧
      (run (10 ^ 4300)).lines = ["Hi. My name is Bob."] ∧
      (run (10 ^ 4300)).outcome = .error .tooManyDigits := by
  intro store run
  have hprovides (n : Int) : (store n).Provides (.ref 9)
      ⟨"Hi.", "Bob", 5, -2, [n, 1], "Ada", "King", 36⟩ :=
    { record := ⟨_, rfl, rfl⟩
      greeting := rfl
      name := rfl
      count := ⟨_, rfl, rfl⟩
      iterations := ⟨_, rfl, rfl⟩
      numbers := ⟨_, _, rfl, rfl, rfl⟩
      person := ⟨_, _, rfl, rfl, rfl, rfl, rfl, rfl, rfl⟩ }
  have hsteps (n : Int) : (store n).HoldsCatalogue Store.initial.1 := rfl
  have hrun (n : Int) := @run_of_provides (store n) Store.initial.1 (.ref 9) .null _
    { progress := some .ok } (hsteps n) (hprovides n) rfl ⟨rfl, rfl⟩ (.inr rfl)
  have hlarge : 4300 < Integer.digitCount [(10 ^ 4300 : Int), 1].sum := by
    rw [Integer.lt_digitCount_iff (by decide), List.sum_cons, List.sum_singleton]
    omega
  obtain ⟨-, -, hshort, -⟩ := (hrun 2).1 (by decide) (by decide)
  obtain ⟨-, hend, hcut, -⟩ := (hrun (10 ^ 4300)).2.1 hlarge
  exact ⟨hshort.trans (by decide), hcut, hend⟩

end Walkthrough
