import Walkthrough.Proofs.InitialCatalogue
import Walkthrough.Proofs.LastWrites

/-!
# Full names after writes

A full name is composed from the names that a person has at the time, and a line about a person adds
the age. So they tell what has been written last, whatever it was written through: any number of
variables and settings may hold the person. Equal persons remain persons of their own.

This needs that no person is given the dictionary of another one, since both have the same attributes
from then on, nor an operation of that dictionary to append with.

## When a name is told

A full name may be asked for at the end of a session, and then all writes count; or while a run
lasts, by the step about a person, and then those count that have been made until the step was
started. Both are the same statement about a store and a list of writes. `Session.DemonstratesAfter`
provides the list for the second case.

The texts are those that values have in every store, so that it does not matter when they are put
into words. For a list or a record this would be another matter, since it may have been changed
after it was written.

## Main definitions

* `Store.HasText` — the text that an object has under a name after some writes
* `Session.DemonstratesAfter` — when topics are demonstrated, and what has been written until then
* `Session.KeepApart` — operations by which no object gets the dictionary of another one

## Main results

* `Store.Written.fullName`, `Store.Written.personLine` — what a person tells
* `Session.derived_text_of_last_writes` — what persons tell in sessions
* `Session.not_derived_text_of_shared` — writing to a person through another one
-/

namespace Walkthrough

namespace Store

variable {B : Set String} {K : Set Addr} {s t : Store} {a : Addr} {r : Record}
  {writes : List Write} {first last age : String}

/-- After some writes, the object at an address has a text under a name: that of what has been
written last there, or else of what it had before. -/
def HasText (s : Store) (writes : List Write) (a : Addr) (name text : String) : Prop :=
  ∃ v, (Write.last? writes a name).or
    (match s.get? a with
      | some (.record r) => s.attribute? r name
      | _ => none) = some v ∧ v.plainText? = some text

/-- What is written elsewhere afterwards makes no difference. -/
theorem HasText.append {later : List Write} {name text : String} (h : s.HasText writes a name text)
    (hlater : Write.last? later a name = none) : s.HasText (writes ++ later) a name text := by
  obtain ⟨v, hv, htext⟩ := h
  exact ⟨v, by rwa [Write.last?_append, hlater, Option.none_or], htext⟩

/-- A person tells what has been written last. -/
theorem Written.lookup (h : Written B K writes s t) (hr : s.get? a = some (.record r))
    {name text : String} (hname : name ∉ ["__class__", "__dict__", "__weakref__"])
    (htext : s.HasText writes a name text) :
    ∃ v, t.lookup (.ref a) name = .ok v ∧ ∀ levels > 1, t.sentence v levels = .ok text := by
  obtain ⟨v, hv, hplain⟩ := htext
  obtain ⟨k, hk, hattribute⟩ := h.record a r hr
  have hclass : name ≠ "__class__" := fun heq => hname (by simp [heq])
  simp only [hr, ← hattribute name hclass] at hv
  exact ⟨v, lookup_of_attribute? hk hname hv, fun _ => sentence_of_plainText? hplain t⟩

/-- **A full name** is that of the names that have been written last. -/
theorem Written.fullName (h : Written B K writes s t) (hB : Barring B)
    (hr : s.get? a = some (.record r)) (hkind : t.kind (.ref a) = .person)
    (hfirst : s.HasText writes a "first_name" first) (hlast : s.HasText writes a "last_name" last)
    (levels : Nat) (hlevels : 2 < levels) :
    t.fullName (.ref a) levels = (.ok (.text (first ++ " " ++ last)), t) := by
  obtain ⟨k, hk, -⟩ := h.record a r hr
  obtain ⟨v, hv, hvtext⟩ := h.lookup hr (by decide) hfirst
  obtain ⟨w, hw, hwtext⟩ := h.lookup hr (by decide) hlast
  have hperson : k = .person := by
    rw [kind, hk] at hkind
    exact hkind
  refine fullName_of_composed hk hperson (h.separate.lacks a _ hk _ hB.fullName) ?_
  have hinside : 1 < levels - 1 := Nat.lt_sub_of_add_lt hlevels
  simp only [composeFullName, hv, hw, hvtext _ hinside, hwtext _ hinside, bind, Except.bind]
  rfl

/-- **A line about a person** tells the names and the age that have been written last. -/
theorem Written.personLine (h : Written B K writes s t) (hB : Barring B)
    (hr : s.get? a = some (.record r)) (hkind : t.kind (.ref a) = .person)
    (hfirst : s.HasText writes a "first_name" first) (hlast : s.HasText writes a "last_name" last)
    (hage : s.HasText writes a "age" age) :
    t.personLine (.ref a) =
      (.ok (first ++ " " ++ last ++ " is " ++ age ++ " years old."), t) := by
  obtain ⟨v, hv, hvtext⟩ := h.lookup hr (by decide) hage
  have hname := h.fullName hB hr hkind hfirst hlast (callLevels - 1) (by decide)
  simp only [Store.personLine, hname, sentence_text, hv, hvtext (callLevels - 1) (by decide), bind,
    Except.bind]
  rfl

/-! ### Steps that have been started

The writes of a run are listed step by step, so those before a step are the writes of going through
the steps before it.
-/

variable {steps : List Record} {settings : Value} {listener : Listener}

/-- Before a step is started, the steps before it have been gone through. -/
theorem exists_done_of_mem_stretches {x : Stretch} {k : Nat} {selected : List Record}
    (hx : x ∈ stretches listener steps settings s k selected) :
    ∃ done rest lines, selected = done ++ x.step :: rest ∧
      (runSteps listener steps settings s k done).outcome = .ok lines ∧
      (runSteps listener steps settings s k done).store = x.store := by
  induction selected generalizing s k with
  | nil => cases hx
  | cons e later ih =>
    rw [stretches] at hx
    rcases hannounced : listener.announce s e with f | announced
    · rw [hannounced] at hx
      cases hx
    simp only [hannounced] at hx
    rcases hlines : s.linesOfStep steps settings e with ⟨f | lines, t⟩
    · rw [hlines] at hx
      cases List.mem_singleton.1 hx
      exact ⟨[], later, [], rfl, rfl, rfl⟩
    simp only [hlines] at hx
    rcases List.mem_cons.1 hx with rfl | hx
    · exact ⟨[], later, [], rfl, rfl, rfl⟩
    rcases houtcome : (emitLines listener settings t k lines).outcome with f | emitted
    · rw [houtcome] at hx
      cases hx
    · rw [houtcome] at hx
      obtain ⟨done, rest, last, rfl, hdone, hstore⟩ := ih hx
      refine ⟨e :: done, rest, emitted ++ last, rfl, ?_, ?_⟩
      · simp only [runSteps, hannounced, hlines, houtcome, hdone]
        rfl
      · simp only [runSteps, hannounced, hlines, houtcome, hstore]

end Store

namespace Session

variable {B : Set String} {σ : Session} {op : Operation} {writes : List Write} {s : Store}
  {settings : Value} {topic : Topic}

/-- While an operation is carried out, and when it has made some writes, a topic is demonstrated with
settings, in the store `s`. Only runs write while they last; then this is what has been written by
the steps that have been gone through. -/
inductive DemonstratesAfter (σ : Session) : Operation → List Write → Store → Value → Topic → Prop
  | steady {op : Operation} {s : Store} {settings : Value} {topic : Topic}
    (hop : ∀ request, op ≠ .run request) (shown : σ.Demonstrates op s settings topic) :
    DemonstratesAfter σ op [] s settings topic
  | run {request : RunRequest} {settings only : Value} {s t : Store} {done rest : List Record}
    {e : Record} {lines : List String} {topic : Topic}
    (built : (do
      let settings ← σ.buildSettings request.settings
      return (settings, ← request.only.build σ.vars) : Building (Value × Value)) σ.store =
        .ok ((settings, only), s))
    (selected : s.selectSteps σ.steps only = .ok (done ++ e :: rest))
    (completed : (Store.runSteps (request.listener σ.vars) σ.steps settings s 0 done).outcome =
      .ok lines)
    (store_eq : (Store.runSteps (request.listener σ.vars) σ.steps settings s 0 done).store = t)
    (found : t.topicOfStep? σ.steps e = some topic) :
    DemonstratesAfter σ (.run request)
      (Store.runWrites (request.listener σ.vars) σ.steps settings s 0 done) t settings topic

/-- There is always such a list of writes. -/
theorem Demonstrates.exists_writes (h : σ.Demonstrates op s settings topic) :
    ∃ writes, σ.DemonstratesAfter op writes s settings topic := by
  cases h with
  | stepLines built found => exact ⟨[], .steady nofun (.stepLines built found)⟩
  | allLines built shown => exact ⟨[], .steady nofun (.allLines built shown)⟩
  | run built shown =>
    obtain ⟨x, hx, hstore, htopic⟩ := shown
    unfold Store.started at hx
    split at hx
    · cases hx
    · rename_i selected hselected
      obtain ⟨done, rest, lines, rfl, hdone, hreached⟩ := Store.exists_done_of_mem_stretches hx
      exact ⟨_, .run built hselected hdone (hreached.trans hstore) htopic⟩

/-- The store in which a topic is demonstrated. -/
theorem DemonstratesAfter.written (hσ : σ.Separate B) (hB : Barring B) (hop : op.Spares B)
    (h : σ.DemonstratesAfter op writes s settings topic) :
    Store.Written B σ.dictionaries writes σ.store s := by
  cases h with
  | steady hnotRun shown =>
    cases shown with
    | stepLines built found =>
      exact ((σ.growing_named _ _).grows_of_ok _ _ s built).written hB.fields hσ
    | @allLines _ v u _ _ built shown =>
      have hbuilt := (Literal.growing_build σ.vars _).grows_of_ok _ v u built
      have hused := (hbuilt.trans (u.grows_orDefault v)).written hB.fields hσ
      obtain ⟨x, hx, rfl, -⟩ := shown
      unfold Store.started at hx
      split at hx
      · cases hx
      · obtain ⟨done, rest, lines, rfl, -, hstore⟩ := Store.exists_done_of_mem_stretches hx
        have hnames : ∀ m ∈ (Listener.plain []).mutations, m.field ∉ B := nofun
        have hdone := Store.written_runSteps hB hused.separate hnames σ.steps
          (u.orDefault v).1 0 done
        rw [hstore, Store.runWrites_eq_nil rfl] at hdone
        exact hused.after hdone
    | run built shown => exact absurd rfl (hnotRun _)
  | @run request _ _ u _ done _ _ _ _ built selected completed store_eq found =>
    have hbuilt := ((σ.growing_requested _ _).grows_of_ok _ _ u built).written hB.fields hσ
    have hnames (m : Mutation) (hm : m ∈ (request.listener σ.vars).mutations) : m.field ∉ B :=
      hop.names m.field (List.mem_map_of_mem hm)
    have hdone := Store.written_runSteps hB hbuilt.separate hnames σ.steps settings 0 done
    rw [store_eq] at hdone
    exact hbuilt.after hdone

/-! ### What sessions tell

The names that are barred are found from the operations: `__dict__` and that of the full name in any
case, and `append` if an operation appends.
-/

/-- No object and no step is given another dictionary, and no object another operation that composes
its full name. If there are operations that ask for something to append with, no object is given
that either. -/
def KeepApart (ops : List Operation) : Prop :=
  ∀ op ∈ ops, ¬ op.Redirects ∧ "__dict__" ∉ op.names ∧ fullNameAttribute ∉ op.names ∧
    (op.Appends → ∀ other ∈ ops, "append" ∉ other.names)

/-- Fewer operations do so, too. -/
theorem KeepApart.of_subset {ops fewer : List Operation} (h : KeepApart ops) (hsub : fewer ⊆ ops) :
    KeepApart fewer := by
  intro op hop
  obtain ⟨hredirects, hdict, hfullName, happends⟩ := h op (hsub hop)
  exact ⟨hredirects, hdict, hfullName, fun hasks other hother => happends hasks other (hsub hother)⟩

/-- A set of names that none of the operations writes: those that must be barred, with `append`
among them if it is asked for. -/
theorem KeepApart.exists_barring {ops : List Operation} (h : KeepApart ops) :
    ∃ B, Barring B ∧ ∀ op ∈ ops, op.Spares B := by
  refine ⟨{name | name = "__dict__" ∨ name = fullNameAttribute ∨
    name = "append" ∧ ∃ op ∈ ops, op.Appends}, ⟨.inl rfl, .inr (.inl rfl), ?_⟩, fun op hop => ?_⟩
  · rintro name (rfl | rfl | ⟨rfl, -⟩) k <;> cases k <;> decide
  · obtain ⟨hredirects, hdict, hfullName, happends⟩ := h op hop
    refine ⟨hredirects, ?_, fun hop' => .inr (.inr ⟨rfl, op, hop, hop'⟩)⟩
    rintro name hname (rfl | rfl | ⟨rfl, other, hother, hasks⟩)
    · exact hdict hname
    · exact hfullName hname
    · exact (h other hother).2.2.2 hasks op hop hname

/-- **Full names after writes.** A session has a person, and goes on with any operations that give no
object the dictionary of another one, and nothing in place of the operations of persons and lists.
Of what is written to the person in the meantime, through whatever leads to it, the last counts.

* The full name of the person is the text of its first name, a space, and the text of its last name,
  whatever leads to the person.
* The line about the person adds the text of its age.
* So does the step about a person, with all settings that hold this one. In a run this is true of
  what has been written until the step is started.
* Operations that write to other objects change none of this.

Writing is setting attributes of objects. A kind is none: a session keeps nothing that is set of it, and
this holds of the sessions of programs that do not change the kind of persons. -/
theorem derived_text_of_last_writes (before ops : List Operation)
    (hops : KeepApart (before ++ ops)) :
    let σ := (Session.performAll {} before).2
    let τ := (σ.performAll ops).2
    ∀ (a : Addr) (r : Record), σ.store.get? a = some (.record r) →
      (∀ (l : Literal) (s : Store) (first last : String),
        l.build τ.vars τ.store = .ok (.ref a, s) → s.kind (.ref a) = .person →
        σ.store.HasText (σ.allWrites ops) a "first_name" first →
        σ.store.HasText (σ.allWrites ops) a "last_name" last →
        (τ.perform (.fullName l)).1 = .value (.text (first ++ " " ++ last)) ∧
        ∀ age, σ.store.HasText (σ.allWrites ops) a "age" age →
          (τ.perform (.personLine l)).1 =
            .value (.text (first ++ " " ++ last ++ " is " ++ age ++ " years old."))) ∧
      ∀ op, KeepApart (before ++ ops ++ [op]) →
        (∀ (writes : List Write) (s : Store) (settings : Value) (first last age : String),
          τ.DemonstratesAfter op writes s settings .person →
          s.lookup settings "person" = .ok (.ref a) → s.kind (.ref a) = .person →
          σ.store.HasText (σ.allWrites ops ++ writes) a "first_name" first →
          σ.store.HasText (σ.allWrites ops ++ writes) a "last_name" last →
          σ.store.HasText (σ.allWrites ops ++ writes) a "age" age →
          s.topicLines settings .person =
            (.ok [first ++ " " ++ last ++ " is " ++ age ++ " years old."], s)) ∧
        ((∀ w ∈ τ.writes op, w.target ≠ .ref a) → ∀ name ≠ "__class__",
          (τ.perform op).2.store.attribute? r name = τ.store.attribute? r name) := by
  intro σ τ a r hr
  have hreached {B : Set String} (hB : Barring B) (hspares : ∀ op ∈ before ++ ops, op.Spares B) :
      Written B (σ.allWrites ops) σ τ := by
    rw [List.forall_mem_append] at hspares
    have hσ := ((separate_initial B).written_performAll hB hspares.1).separate
    exact Separate.written_performAll hσ hB hspares.2
  refine ⟨fun l s first last hbuilt hkind hfirst hlast => ?_, fun op hop => ?_⟩
  · obtain ⟨B, hB, hspares⟩ := hops.exists_barring
    have hτ := hreached hB hspares
    have hs : σ.store.Written B τ.dictionaries (σ.allWrites ops ++ []) s := Store.Written.trans hτ
      (((Literal.growing_build τ.vars l).grows_of_ok _ _ s hbuilt).written hB.fields hτ.separate)
    rw [List.append_nil] at hs
    refine ⟨?_, fun age hage => ?_⟩
    · simp only [perform, building, hbuilt, withStore, answerValue,
        hs.fullName hB hr hkind hfirst hlast callLevels (by decide)]
      rfl
    · simp only [perform, building, hbuilt, withStore,
        hs.personLine hB hr hkind hfirst hlast hage]
      rfl
  · obtain ⟨B, hB, hspares⟩ := hop.exists_barring
    rw [List.forall_mem_append, List.forall_mem_singleton] at hspares
    have hτ := hreached hB hspares.1
    refine ⟨fun writes s settings first last age hshown hperson hkind hfirst hlast hage => ?_,
      fun hothers name hname => ?_⟩
    · have hs : σ.store.Written B τ.dictionaries (σ.allWrites ops ++ writes) s :=
        Store.Written.trans hτ (hshown.written hτ.separate hB hspares.2)
      simp only [Store.topicLines, hperson, hs.personLine hB hr hkind hfirst hlast hage]
      rfl
    · obtain ⟨k, hk, -⟩ := hτ.record a r hr
      obtain ⟨-, -, hattribute⟩ := (Separate.written_perform hτ.separate hB hspares.2).record a _ hk
      have hsame := hattribute name hname
      rwa [Write.last?_eq_none hothers, Option.none_or] at hsame

/-- Two equal persons, and settings that both hold the first one. -/
def twins : List Operation :=
  let ada : Literal :=
    .person [("first_name", .text "Ada"), ("last_name", .text "L"), ("age", .int 36)]
  [.bind "p" ada, .bind "q" ada, .bind "c" (.settings [("person", .named "p")]),
    .bind "d" (.settings [("person", .named "p")]), .assign (.named "p") "count" (.int 9)]

/-- The first one is given another first name by one of the settings, another last name in a run that
takes it for settings, and another age by the other settings. The second one is given another last
name, and an operation fails. -/
def twinWrites : List Operation :=
  [.assign (.named "c.person") "first_name" (.int 7), .assign (.named "q") "last_name" (.text "M"),
    .run { settings := some (.named "p"), only := .text "threshold",
           mutations := [⟨0, "last_name", .text "B"⟩] },
    .assign (.named "x") "age" (.int 1), .assign (.named "d.person") "age" (.int 37)]

/-- A run with the other settings that changes them. -/
def twinRun : RunRequest :=
  { settings := some (.named "c"), mutations := [⟨0, "count", .int 1⟩] }

/-- The full name and the age are told alike through each of the settings, at the end of a run that
changes one of them as well, and when the other person has been given another age. -/
theorem derived_text_of_twins :
    let τ := ((Session.performAll {} twins).2.performAll twinWrites).2
    (τ.perform (.fullName (.named "d.person"))).1 = .value (.text "7 B") ∧
      (τ.perform (.personLine (.named "c.person"))).1 = .value (.text "7 B is 37 years old.") ∧
      (∃ u, τ.DemonstratesAfter (.run twinRun) [⟨.ref 11, "count", .int 1⟩] u (.ref 11) .person ∧
        u.topicLines (.ref 11) .person = (.ok ["7 B is 37 years old."], u)) ∧
      (τ.perform (.assign (.named "q") "age" (.int 0))).2.store.attribute? ⟨.person, 5⟩ "age" =
        some (.int 37) := by
  intro τ
  have hall : KeepApart (twins ++ twinWrites ++
      [.run twinRun, .assign (.named "q") "age" (.int 0)]) := by
    simp [twins, twinWrites, twinRun, KeepApart, Operation.Redirects, Operation.names,
      Operation.Appends, fullNameAttribute]
  have hops : KeepApart (twins ++ twinWrites) := hall.of_subset (List.subset_append_left _ _)
  have hlater (op : Operation) (hop : op ∈ [.run twinRun, .assign (.named "q") "age" (.int 0)]) :
      KeepApart (twins ++ twinWrites ++ [op]) :=
    hall.of_subset (List.append_subset.2 ⟨List.subset_append_left _ _,
      List.subset_append_of_subset_right _ (List.cons_subset.2 ⟨hop, List.nil_subset _⟩)⟩)
  obtain ⟨htold, hafter⟩ := derived_text_of_last_writes twins twinWrites hops 6 ⟨.person, 5⟩
    (by decide +kernel)
  have hfirst : (Session.performAll {} twins).2.store.HasText
      ((Session.performAll {} twins).2.allWrites twinWrites) 6 "first_name" "7" :=
    ⟨.int 7, by decide +kernel, by decide⟩
  have hlast : (Session.performAll {} twins).2.store.HasText
      ((Session.performAll {} twins).2.allWrites twinWrites) 6 "last_name" "B" :=
    ⟨.text "B", by decide +kernel, by decide⟩
  have hage : (Session.performAll {} twins).2.store.HasText
      ((Session.performAll {} twins).2.allWrites twinWrites) 6 "age" "37" :=
    ⟨.int 37, by decide +kernel, by decide⟩
  have hkind : τ.store.kind (.ref 6) = .person := by decide +kernel
  obtain ⟨hname, -⟩ := htold (.named "d.person") τ.store "7" "B" (by decide +kernel) hkind
    hfirst hlast
  obtain ⟨-, hline⟩ := htold (.named "c.person") τ.store "7" "B" (by decide +kernel) hkind
    hfirst hlast
  refine ⟨hname, hline "37" hage, ?_, ?_⟩
  · obtain ⟨hstep, -⟩ := hafter (.run twinRun) (hlater _ (by simp))
    have hwrites : Store.runWrites (twinRun.listener τ.vars) τ.steps (.ref 11) τ.store 0
        (τ.steps.take 4) = [⟨.ref 11, "count", .int 1⟩] := by decide +kernel
    have hshown : τ.DemonstratesAfter (.run twinRun) [⟨.ref 11, "count", .int 1⟩]
        (Store.runSteps (twinRun.listener τ.vars) τ.steps (.ref 11) τ.store 0
          (τ.steps.take 4)).store (.ref 11) .person := by
      have hbuilt : (do
          let settings ← τ.buildSettings twinRun.settings
          return (settings, ← twinRun.only.build τ.vars) : Building (Value × Value)) τ.store =
            .ok ((.ref 11, .null), τ.store) := by decide +kernel
      have hsteps : τ.store.HoldsCatalogue τ.steps := by
        rw [Store.HoldsCatalogue]
        decide +kernel
      have hselected : τ.store.selectSteps τ.steps .null =
          .ok (τ.steps.take 4 ++ [⟨.step, 4⟩]) := by
        rw [hsteps.selectSteps rfl]
        decide +kernel
      have hcompleted : (Store.runSteps (twinRun.listener τ.vars) τ.steps (.ref 11) τ.store 0
          (τ.steps.take 4)).outcome = .ok ["Hello, World! My name is Alice.", "Sum: 15",
            "Count is not greater than 5", "Iteration 0", "Iteration 1", "Iteration 2"] := by
        decide +kernel
      rw [← hwrites]
      exact .run hbuilt hselected hcompleted rfl (by decide +kernel)
    have hnone (name : String) : Write.last? [⟨.ref 11, "count", .int 1⟩] 6 name = none :=
      Write.last?_eq_none (by decide)
    exact ⟨_, hshown, hstep _ _ _ "7" "B" "37" hshown (by decide +kernel) (by decide +kernel)
      (hfirst.append (hnone _)) (hlast.append (hnone _)) (hage.append (hnone _))⟩
  · obtain ⟨-, hothers⟩ := hafter (.assign (.named "q") "age" (.int 0)) (hlater _ (by simp))
    rw [hothers (by decide +kernel) "age" (by decide)]
    decide +kernel

/-- **Through another person.** Of two equal persons nothing is written to the first one. When the
second one has been given the dictionary of the first one, setting its first name sets that of the
first one, too. When it has been given the operation that takes an entry from that dictionary in place
of the one that appends, then appending to it takes the first name of the first one. -/
theorem not_derived_text_of_shared :
    ∃ (before sharing taking : List Operation) (a b : Addr) (r : Record), a ≠ b ∧
      (∀ op ∈ before ++ sharing ++ taking, fullNameAttribute ∉ op.names) ∧
      (∀ op ∈ taking, "__dict__" ∉ op.names) ∧
      let σ := (Session.performAll {} before).2
      σ.store.get? a = some (.record r) ∧ σ.store.equal (.ref a) (.ref b) = .ok true ∧
        (∀ ops ∈ [sharing, taking], (σ.performAll ops).2.store.kind (.ref a) = .person ∧
          (∀ w ∈ σ.allWrites ops, w.target = .ref b) ∧
          σ.store.HasText (σ.allWrites ops) a "first_name" "Ada" ∧
          σ.store.HasText (σ.allWrites ops) a "last_name" "L") ∧
        ((σ.performAll sharing).2.store.fullName (.ref a)).1 = .ok (.text "X L") ∧
        ((σ.performAll taking).2.store.fullName (.ref a)).1 =
          .error (.noAttribute .person "first_name") := by
  let ada : Literal :=
    .person [("first_name", .text "Ada"), ("last_name", .text "L"), ("age", .int 36)]
  refine ⟨[.bind "p" ada, .bind "q" ada],
    [.assign (.named "q") "__dict__" (.named "p.__dict__"),
      .assign (.named "q") "first_name" (.text "X")],
    [.assign (.named "q") "append" (.named "p.__dict__.pop"),
      .append (.named "q") (.text "first_name")], 6, 8, ⟨.person, 5⟩, by decide, by decide,
    by decide, by decide +kernel, by decide +kernel, ?_, by decide +kernel, by decide +kernel⟩
  intro ops hops
  simp only [List.mem_cons, List.not_mem_nil, or_false] at hops
  rcases hops with rfl | rfl
  all_goals exact ⟨by decide +kernel, by decide +kernel, ⟨.text "Ada", by decide +kernel, by decide⟩,
    ⟨.text "L", by decide +kernel, by decide⟩⟩

end Session

end Walkthrough
