import Walkthrough.Proofs.FreshDefaults
import Walkthrough.Proofs.Locality
import Walkthrough.Proofs.Movement

/-!
# Operations that only read

Most operations of a session only read. They may make objects, but of those that there were each is
left as it was, and so are the variables and the catalogue. The one exception is an iterator whose
elements are added up: it moves on, also when the sum fails.

All this needs that a person is not asked for its full name that has been given an operation of its
own for it, as telling the name carries that operation out.

As the settings are left as they were, the lines of all steps can be asked for twice and are the
same, or fail alike, unless the numbers are an iterator. Settings that do not count as true are
replaced by new ones each time; their lines are the same since nothing in the catalogue leads to
what has been made in between.

## What is meant by reading

An operation is told from its form: whether it may write is decided by `Operation.Reads`, and this
does not look at the session. What the operation adds up, and whom it asks for a full name, does
depend on the session, and is told by the relations `Session.Sums` and `Session.Introduces`, which
go along with the run up to the store in which a topic is demonstrated. A condition on all persons
that are asked is weaker than one on all persons there are.

## Main definitions

* `Operation.Reads` — the operations that only read
* `Session.Sums`, `Session.Introduces` — what an operation adds up, and whom it asks for a full name
* `Session.KeptBut` — a session in which only iterators have moved on

## Main results

* `Session.keptBut_perform` — what an operation that only reads leaves alone
* `Session.answerLines_twice` — asking twice for the lines of all steps
* `Session.not_reads_only_of_pop` — a person with an operation of its own
* `Program.reads_only` — both, for every program that has not changed a kind
-/

namespace Walkthrough

open Referring (Avoids)

/-- An operation that only reads. A run must not change the settings. -/
def Operation.Reads : Operation → Prop
  | .bind _ _ | .assign _ _ _ | .append _ _ | .replaceSteps _ | .reviseStep _ _ _ | .command _ => False
  | .run request => request.mutations = []
  | _ => True

/-- The listener of a run that is requested. -/
def RunRequest.listener (request : RunRequest) (vars : Bindings) : Listener :=
  { failAt := request.failAt
    mutations := request.mutations
    vars
    progress := if request.announced then some .ok else none }

namespace Session

variable {W : Set Addr} {σ τ : Session}

/-! ### What operations do

The two exceptions are relations between an operation and what it comes across. Both go back to the
topics that are demonstrated.
-/

/-- While an operation is carried out, a topic is demonstrated with settings, in the store `s`. -/
inductive Demonstrates (σ : Session) : Operation → Store → Value → Topic → Prop
  | stepLines {name : Literal} {settings : Option Literal} {v w : Value} {s : Store} {topic : Topic}
    (built : (do
      let name ← name.build σ.vars
      return (name, ← σ.buildSettings settings) : Building (Value × Value)) σ.store = .ok ((v, w), s))
    (found : s.topicOf? σ.steps v = some topic) :
    Demonstrates σ (.stepLines name settings) s w topic
  | allLines {settings : Option Literal} {v : Value} {s t : Store} {topic : Topic}
    (built : (settings.getD .null).build σ.vars σ.store = .ok (v, s))
    (shown : Store.Shows (.plain []) σ.steps (s.orDefault v).1 .null (s.orDefault v).2 t topic) :
    Demonstrates σ (.allLines settings) t (s.orDefault v).1 topic
  | run {request : RunRequest} {settings only : Value} {s t : Store} {topic : Topic}
    (built : (do
      let settings ← σ.buildSettings request.settings
      return (settings, ← request.only.build σ.vars) : Building (Value × Value)) σ.store =
        .ok ((settings, only), s))
    (shown : Store.Shows (request.listener σ.vars) σ.steps settings only s t topic) :
    Demonstrates σ (.run request) t settings topic

/-- While an operation is carried out, the elements of a value are added up, in the store `s`. -/
inductive Sums (σ : Session) : Operation → Store → Value → Prop
  | sum {numbers : Literal} {v : Value} {s : Store}
    (built : numbers.build σ.vars σ.store = .ok (v, s)) : Sums σ (.sum numbers) s v
  | step {op : Operation} {settings v : Value} {s : Store}
    (shown : σ.Demonstrates op s settings .sum) (held : s.lookup settings "numbers" = .ok v) :
    Sums σ op s v

/-- While an operation is carried out, a person is asked for its full name, in the store `s`. -/
inductive Introduces (σ : Session) : Operation → Store → Value → Prop
  | fullName {person : Literal} {v : Value} {s : Store}
    (built : person.build σ.vars σ.store = .ok (v, s)) : Introduces σ (.fullName person) s v
  | personLine {person : Literal} {v : Value} {s : Store}
    (built : person.build σ.vars σ.store = .ok (v, s)) : Introduces σ (.personLine person) s v
  | step {op : Operation} {settings v : Value} {s : Store}
    (shown : σ.Demonstrates op s settings .person) (held : s.lookup settings "person" = .ok v) :
    Introduces σ op s v

/-- The variables and the steps are the same, and of the objects that there were, iterators at the
addresses of `W` may have moved on, and all others are as they were.

Objects may have been made, and no clause speaks of them. That a reader finds everything as it was
is said by the third clause, as long as it does not hold one of the iterators in `W`. -/
structure KeptBut (W : Set Addr) (σ τ : Session) : Prop where
  vars_eq : τ.vars = σ.vars
  steps_eq : τ.steps = σ.steps
  cell : ∀ a c, σ.store.get? a = some c → τ.store.get? a = some c ∨
    a ∈ W ∧ ∃ it moved, c = .iterator it ∧ τ.store.get? a = some (.iterator moved) ∧
      it.MovesTo moved

namespace KeptBut

theorem refl (W : Set Addr) (σ : Session) : KeptBut W σ σ := ⟨rfl, rfl, fun _ _ hc => .inl hc⟩

/-- Objects are made, and then iterators move. -/
theorem withStore {s t : Store} (hmade : σ.store.Extends s) (hmoved : s.MovesWithin W t) :
    KeptBut W σ (σ.withStore t) := by
  refine ⟨rfl, rfl, fun a c hc => ?_⟩
  have hlt : a < σ.store.size := by
    by_contra hle
    rw [Store.get?_eq_none_iff.2 (Nat.not_lt.1 hle)] at hc
    cases hc
  have hs : s.get? a = some c := (hmade.get?_eq a hlt).trans hc
  rcases hmoved.cell a with hsame | ⟨ha, it, moved, hit, ht, hmove⟩
  · exact .inl (hsame.trans hs)
  · cases hs.symm.trans hit
    exact .inr ⟨ha, it, moved, rfl, ht, hmove⟩

variable {α : Type} {b : Building α} {P : Set Addr → Prop} {Q : Set Addr → α → Prop}

/-- An operation that builds something, and goes on in a way that keeps what there was. -/
theorem building {next : α → Session → Answer × Session} (hb : Building.Confined P b Q)
    (hnext : ∀ a s, b σ.store = .ok (a, s) → σ.store.Extends s →
      KeptBut W σ (next a (σ.withStore s)).2) : KeptBut W σ (σ.building b next).2 := by
  unfold Session.building
  split
  · exact refl W σ
  · rename_i a s hbuilt
    exact hnext a s hbuilt (hb.extends_of_ok _ a s hbuilt)

/-- A question about something that has been built changes nothing more. -/
theorem asking {question : α → Store → Except Fault Tree} (hb : Building.Confined P b Q) :
    KeptBut W σ (σ.asking b question).2 :=
  building hb fun _ s _ hmade => withStore hmade (.refl W s)

end KeptBut

/-- A run that changes nothing moves iterators on, and its settings have been made before. -/
theorem keptBut_performRun {request : RunRequest} (hmutations : request.mutations = [])
    (h : ∀ s p, σ.Introduces (.run request) s p → s.ComposesName p) :
    KeptBut {a | ∃ s, σ.Sums (.run request) s (.ref a)} σ (σ.performRun request).2 := by
  have hparts := @confined_requested σ request.settings request.only
  unfold performRun
  dsimp only
  split
  · exact .refl _ σ
  · rename_i settings only s hbuilt
    refine .withStore (hparts.extends_of_ok _ _ s hbuilt) ?_
    refine (@Store.movesWithin_run s σ.steps settings (request.listener σ.vars) only hmutations
      fun t hshown p hp => ?_).mono ?_
    · exact h t p (.step (.run hbuilt hshown) hp)
    · rintro a ⟨t, hshown, hnumbers⟩
      exact ⟨t, .step (.run hbuilt hshown) hnumbers⟩

/-- **One operation** that only reads. -/
theorem keptBut_perform {op : Operation} (hop : op.Reads)
    (h : ∀ s p, σ.Introduces op s p → s.ComposesName p) :
    KeptBut {a | ∃ s, σ.Sums op s (.ref a)} σ (σ.perform op).2 := by
  have hbuild (l : Literal) := Literal.confined_build (P := fun K => Avoids K σ.vars)
    (fun _ hK => hK) l
  cases op with
  | greet name greeting => exact .asking (confined_greeted name _)
  | sum numbers =>
    refine .building (hbuild numbers) fun v s hbuilt hmade => .withStore hmade ?_
    refine (Store.movesWithin_sum s v).mono ?_
    rintro a rfl
    exact ⟨s, .sum hbuilt⟩
  | fullName person =>
    refine .building (hbuild person) fun v s hbuilt hmade => .withStore hmade ?_
    show s.MovesWithin _ (s.fullName v).2
    rw [Store.snd_fullName (h s v (.fullName hbuilt)) _]
    exact .refl _ s
  | personLine person =>
    refine .building (hbuild person) fun v s hbuilt hmade => .withStore hmade ?_
    show s.MovesWithin _ (s.personLine v).2
    rw [Store.snd_personLine (h s v (.personLine hbuilt)) _]
    exact .refl _ s
  | threshold count => exact .asking (hbuild count)
  | iterations count => exact .asking (hbuild _)
  | defaultPerson => exact .asking (Building.confined_allocPerson (P := fun _ => True))
  | listSteps | clearListed => exact .refl _ σ
  | findStep name => exact .asking (hbuild name)
  | stepLines name settings =>
    refine .building (confined_named name settings) fun parts s hbuilt hmade =>
      .withStore hmade ?_
    refine (Store.movesWithin_stepLines fun htopic p hp => ?_).mono ?_
    · exact h s p (.step (.stepLines hbuilt htopic) hp)
    · rintro a ⟨htopic, hnumbers⟩
      exact ⟨s, .step (.stepLines hbuilt htopic) hnumbers⟩
  | allLines settings =>
    refine .building (hbuild _) fun v s hbuilt hmade =>
      .withStore (hmade.trans (Store.extends_orDefault s v)) ?_
    rw [Store.allLines_eq_run]
    refine (Store.movesWithin_run rfl fun t hshown p hp => ?_).mono ?_
    · exact h t p (.step (.allLines hbuilt hshown) hp)
    · rintro a ⟨t, hshown, hnumbers⟩
      exact ⟨t, .step (.allLines hbuilt hshown) hnumbers⟩
  | value v => exact .asking (hbuild v)
  | display v => exact .asking (hbuild v)
  | equal a b => exact .asking (confined_buildTwo (fun _ hK => hK) a b)
  | identical a b => exact .asking (confined_buildTwo (fun _ hK => hK) a b)
  | run request => exact keptBut_performRun hop h
  | bind _ _ | assign _ _ _ | append _ _ | replaceSteps _ | reviseStep _ _ _ | command _ =>
    exact hop.elim

end Session

/-! ### Asking twice

With settings that are given, the second time begins where the first one has ended, and that is
where it began. With new settings the two stores differ in the settings that were made, and the set
`K` consists of these: nothing that the catalogue holds leads to them.
-/

namespace Store

variable {K : Set Addr} {s t u : Store} {steps : List Record} {used used' : Value} {m n : Addr}

/-- What does not count as true does not do so when objects have been made. -/
theorem Extends.truthy_eq_false (h : s.Extends t) {v : Value} (hv : s.truthy v = false) :
    t.truthy v = false := by
  cases v with
  | ref a =>
    have hcell : t.cell? (.ref a) = s.cell? (.ref a) := by
      by_cases ha : a < s.size
      · exact h.get?_eq a ha
      · simp only [truthy, cell?, get?_eq_none_iff.2 (Nat.not_lt.1 ha)] at hv
        cases hv
    simpa only [truthy, hcell] using hv
  | _ => exact hv

/-- **The lines of a step** with settings at their defaults, before and after objects have been
made. -/
theorem linesOfStep_alike (h : Alike K t u) (ht : t.HoldsDefaults used m [])
    (hu : u.HoldsDefaults used' n []) (hsteps : Avoids K steps) {e : Record} (he : Avoids K e) :
    ∃ outcome, t.linesOfStep steps used e = (outcome, t) ∧
      u.linesOfStep steps used' e = (outcome, u) ∧ ∀ f, outcome = .error f → f.AvoidsRefs K := by
  have hfield := h.field_agree he "name"
  have herror {f : Fault} (hf : f.AvoidsRefs K) (g : Fault)
      (hg : (.error f : Except Fault (List String)) = .error g) : g.AvoidsRefs K := by
    cases hg
    exact hf
  unfold linesOfStep
  rw [hfield.eq]
  rcases hname : t.field e "name" with f | name
  · exact ⟨_, rfl, rfl, herror ((hfield.fault f (hfield.eq.trans hname)).avoidsRefs K)⟩
  have hreach : Avoids K name := h.avoids_field he (hfield.eq.trans hname)
  have hfind := h.findStep_agree hreach hsteps
  unfold stepLines
  dsimp only
  rw [hfind.eq]
  rcases hfound : t.findStep name steps with f | _ | d
  · exact ⟨_, rfl, rfl, herror ((hfind.fault f (hfind.eq.trans hfound)).avoidsRefs K)⟩
  · exact ⟨_, rfl, rfl, herror hreach⟩
  rcases name.topic? with _ | topic
  · exact ⟨_, rfl, rfl, herror hreach⟩
  · simp only [topicLines_of_holdsDefaults ht, topicLines_of_holdsDefaults hu]
    exact ⟨_, rfl, rfl, fun f hf => by cases hf⟩

/-- By induction on the steps that are listed. Each step leaves both stores as they are. -/
theorem linesOf_alike (h : Alike K t u) (ht : t.HoldsDefaults used m [])
    (hu : u.HoldsDefaults used' n []) (hsteps : Avoids K steps) {listed : List Record}
    (hlisted : Avoids K listed) :
    ∃ outcome, t.linesOf steps used listed = (outcome, t) ∧
      u.linesOf steps used' listed = (outcome, u) ∧ ∀ f, outcome = .error f → f.AvoidsRefs K := by
  induction listed with
  | nil => exact ⟨.ok [], rfl, rfl, fun f hf => by cases hf⟩
  | cons e rest ih =>
    rw [avoids_cons] at hlisted
    obtain ⟨first, hfirst, hfirst', hfault⟩ := linesOfStep_alike h ht hu hsteps hlisted.1
    obtain ⟨later, hlater, hlater', hfault'⟩ := ih hlisted.2
    simp only [linesOf, hfirst, hfirst']
    rcases first with f | lines
    · exact ⟨_, rfl, rfl, fun g hg => by cases hg; exact hfault f rfl⟩
    · simp only [hlater, hlater']
      refine ⟨_, rfl, rfl, fun f hf => hfault' f ?_⟩
      rcases later with g | lines
      · exact hf
      · cases hf

/-- **The lines of all steps** with new settings, before and after objects have been made. -/
theorem allLines_alike (hst : s.Extends t) (h : Alike K s.allocSettings.2 t.allocSettings.2)
    (hsteps : Avoids K steps) {v : Value} (hv : s.truthy v = false) :
    ∃ outcome, s.allLines steps v = (outcome, s.allocSettings.2) ∧
      t.allLines steps v = (outcome, t.allocSettings.2) ∧
      ∀ f, outcome = .error f → f.AvoidsRefs K := by
  have hlist := h.listSteps_agree hsteps
  simp only [allLines, hv, hst.truthy_eq_false hv, Bool.false_eq_true, if_false, hlist.eq]
  rcases hlisted : s.allocSettings.2.listSteps steps with f | listed
  · refine ⟨_, rfl, rfl, fun g hg => ?_⟩
    cases hg
    exact (hlist.fault f (hlist.eq.trans hlisted)).avoidsRefs K
  · have hreach : Avoids K listed := fun e he =>
      hsteps e ((listSteps_perm hlisted).mem_iff.1 he)
    exact linesOf_alike h (holdsDefaults_allocSettings s) (holdsDefaults_allocSettings t) hsteps hreach

end Store

namespace Session

variable {σ : Session}

/-- New settings do not lead to what is made later, and neither does anything else. -/
theorem Closed.alike_allocSettings (hσ : σ.Closed) :
    let s := σ.store.allocSettings.2
    Store.Alike {a | s.size ≤ a} s s.allocSettings.2 ∧ Avoids {a | s.size ≤ a} σ.steps := by
  intro s
  have hle := (Building.extends_allocSettings σ.store).size_le
  obtain ⟨hstore, -, hsteps⟩ := hσ {a | s.size ≤ a} fun a ha => hle.trans ha
  have hs := ((@Building.confined_allocSettings fun _ => True).avoids {a | s.size ≤ a} σ.store _ s
    trivial hstore rfl (Store.withholds_of_le fun a ha => ha)).1
  exact ⟨(Building.extends_allocSettings s).alike hs, hsteps⟩

/-- **Asking twice** for the lines of all steps. -/
theorem answerLines_twice (hσ : σ.Closed) {v : Value}
    (h : σ.store.truthy v = true →
      (∀ a, σ.store.lookup v "numbers" = .ok (.ref a) →
        ∀ it, σ.store.get? a ≠ some (.iterator it)) ∧
      ∀ t, Store.Shows (.plain []) σ.steps v .null σ.store t .person →
        ∀ p, t.lookup v "person" = .ok p → t.ComposesName p) :
    let once := σ.answerLines (σ.store.allLines σ.steps v)
    let again := once.2.answerLines (once.2.store.allLines once.2.steps v)
    again.1 = once.1 := by
  intro once again
  cases htruthy : σ.store.truthy v with
  | true =>
    obtain ⟨hnumbers, hperson⟩ := h htruthy
    have hstore : (σ.store.allLines σ.steps v).2 = σ.store := by
      rw [Store.allLines_eq_run]
      simp only [Store.orDefault, htruthy, if_true]
      exact Store.store_run rfl hnumbers hperson
    have hsame : once.2 = σ := by
      show σ.withStore (σ.store.allLines σ.steps v).2 = σ
      rw [hstore]
      rfl
    simp only [again, hsame]
    rfl
  | false =>
    obtain ⟨halike, hsteps⟩ := hσ.alike_allocSettings
    obtain ⟨outcome, honce, hagain, hfault⟩ := Store.allLines_alike
      (Building.extends_allocSettings σ.store) halike hsteps htruthy
    simp only [again, once, answerLines, honce, withStore, hagain]
    rcases outcome with f | lines
    · simp only [Except.map, answer, halike.report_eq (hfault f rfl)]
    · rfl

/-- **A person with an operation of its own.** Telling its full name takes an element from a list. -/
theorem not_reads_only_of_pop :
    let σ := (Session.performAll {} [
      .bind "l" (.list [.int 1, .int 2]),
      .bind "p" (.person [("first_name", .text "A"), ("last_name", .text "B"), ("age", .int 1)]),
      .assign (.named "p") "get_full_name" (.named "l.pop")]).2
    let op : Operation := .fullName (.named "p")
    op.Reads ∧ σ.store.get? 5 = some (.list [.int 1, .int 2]) ∧
      (σ.perform op).2.store.get? 5 = some (.list [.int 1]) ∧
      ¬ KeptBut {a | ∃ s, σ.Sums op s (.ref a)} σ (σ.perform op).2 := by
  intro σ op
  have hold : σ.store.get? 5 = some (.list [.int 1, .int 2]) := by decide +kernel
  have hnew : (σ.perform op).2.store.get? 5 = some (.list [.int 1]) := by decide +kernel
  refine ⟨trivial, hold, hnew, fun hkept => ?_⟩
  rcases hkept.cell 5 _ hold with hsame | ⟨-, it, -, hit, -⟩
  · rw [hnew] at hsame
    cases hsame
  · cases hit

end Session

/-! ### Programs

A program reads as its session does, as long as nothing has been done to a kind of records or to an
operation of them. That the person has no operation of its own for its full name is not enough: its
kind could have been given one.
-/

namespace Program

open Session

/-- **Operations that only read.** Whatever a program has done, as long as it has not changed a kind of
records or one of its operations,

* an operation that only reads leaves the variables, the steps and every object as they are, except
  that iterators move on whose elements are added up. This needs that each person that is asked for
  its full name has not been given anything that can be carried out in place of the operation that
  composes the name;
* the lines of all steps are the same if they are asked for twice, or fail alike, unless the numbers
  of the settings are an iterator, and as long as the same holds of the person. -/
theorem reads_only (before : List Operation) (hbefore : (performAll {} before).2.changes = []) :
    let P := (performAll {} before).2
    let σ := P.session
    (∀ op : Operation, op.Reads → (P.perform op).2.changes = [] →
      (∀ s p, σ.Introduces op s p → s.ComposesName p) →
      KeptBut {a | ∃ s, σ.Sums op s (.ref a)} σ (P.perform op).2.session) ∧
    ∀ v : Value,
      (σ.store.truthy v = true →
        (∀ a, σ.store.lookup v "numbers" = .ok (.ref a) →
          ∀ it, σ.store.get? a ≠ some (.iterator it)) ∧
        ∀ t, Store.Shows (.plain []) σ.steps v .null σ.store t .person →
          ∀ p, t.lookup v "person" = .ok p → t.ComposesName p) →
      let once := σ.answerLines (σ.store.allLines σ.steps v)
      let again := once.2.answerLines (once.2.store.allLines once.2.steps v)
      again.1 = once.1 := by
  intro P σ
  have hσ : σ.Closed := by
    show P.session.Closed
    rw [(performAll_of_unchanged hbefore).2]
    exact closed_initial.performAll before
  refine ⟨fun op hop _ hnames => ?_, fun v => answerLines_twice hσ⟩
  rw [perform_of_unchanged hbefore]
  exact keptBut_perform hop hnames

/-- A run that sums an iterator over a list, and the lines of settings with a list of their own. -/
theorem reads_only_of_iterator :
    let P := (performAll {} [
      .bind "l" (.list [.int 1, .int 2, .int 3]), .bind "i" (.iterator (.named "l")),
      .bind "c" (.settings [("numbers", .named "i")]), .bind "d" (.settings [])]).2
    let σ := P.session
    let op : Operation := .run { settings := some (.named "c"), announced := true }
    let once := σ.answerLines (σ.store.allLines σ.steps (.ref 15))
    P.changes = [] ∧ op.Reads ∧
      KeptBut {a | ∃ s, σ.Sums op s (.ref a)} σ (P.perform op).2.session ∧
      σ.store.get? 6 = some (.iterator (.overList 5 0)) ∧
      (P.perform op).2.session.store.get? 6 = some (.iterator (.finished .listIterator)) ∧
      (once.2.answerLines (once.2.store.allLines once.2.steps (.ref 15))).1 = once.1 := by
  intro P σ op once
  have hchanges : P.changes = [] := by decide +kernel
  let listener : Listener := { progress := some .ok, vars := σ.vars }
  have hlisted : σ.store.listSteps σ.steps = .ok σ.steps :=
    @Store.listSteps_of_pairwise σ.store
      [(1, ⟨.step, 0⟩), (2, ⟨.step, 1⟩), (3, ⟨.step, 2⟩), (4, ⟨.step, 3⟩), (5, ⟨.step, 4⟩)] σ.steps
      rfl (by simp)
  have hselected : σ.store.selectSteps σ.steps .null = .ok σ.steps := hlisted
  -- every store in which a step is started holds the same person
  have hpersons (listener : Listener) {settings p : Value} {r : Record}
      (h : ∀ x ∈ Store.stretches listener σ.steps settings σ.store 0 σ.steps,
        x.store.lookup settings "person" = .ok p ∧ x.store.cell? p = some (.record r) ∧
          x.store.attribute? r fullNameAttribute = none) {t : Store} {v : Value}
      (hshown : Store.Shows listener σ.steps settings .null σ.store t .person)
      (hv : t.lookup settings "person" = .ok v) : t.ComposesName v := by
    obtain ⟨x, hx, rfl, -⟩ := hshown
    rw [Store.started, hselected] at hx
    obtain ⟨hp, hcell, hown⟩ := h x hx
    rw [hp] at hv
    cases hv
    exact Store.composesName_of_attribute? hcell hown
  have hbuilt : (do
      let settings ← σ.buildSettings (some (.named "c"))
      return (settings, ← Literal.null.build σ.vars) : Building (Value × Value)) σ.store =
        .ok ((.ref 10, .null), σ.store) := rfl
  have hperform : (P.perform op).2.session.store =
      (Store.runSteps listener σ.steps (.ref 10) σ.store 0 σ.steps).store := by
    rw [perform_of_unchanged hchanges]
    show (σ.performRun { settings := some (.named "c"), announced := true }).2.store = _
    unfold performRun
    dsimp only
    rw [hbuilt]
    simp only [Store.run, hselected]
    rfl
  obtain ⟨hkept, htwice⟩ := reads_only [
    .bind "l" (.list [.int 1, .int 2, .int 3]), .bind "i" (.iterator (.named "l")),
    .bind "c" (.settings [("numbers", .named "i")]), .bind "d" (.settings [])] hchanges
  refine ⟨hchanges, rfl, hkept op rfl (by decide +kernel) ?_, by decide +kernel, ?_, htwice (.ref 15) fun _ => ⟨?_, ?_⟩⟩
  · intro s v hasked
    change σ.Introduces (.run { settings := some (.named "c"), announced := true }) s v at hasked
    cases hasked with
    | step shown held =>
      cases shown with
      | run built shown =>
        cases hbuilt.symm.trans built
        exact hpersons listener (p := .ref 8) (r := ⟨.person, 7⟩) (by decide +kernel) shown held
  · rw [hperform]
    decide +kernel
  · intro a ha it hit
    have hnumbers : σ.store.lookup (.ref 15) "numbers" = .ok (.ref 11) := by decide +kernel
    have hlist : σ.store.get? 11 = some (.list ([1, 2, 3, 4, 5].map .int)) := by decide +kernel
    cases hnumbers.symm.trans ha
    cases hlist.symm.trans hit
  · exact fun t hshown v => hpersons (.plain []) (p := .ref 13) (r := ⟨.person, 12⟩)
      (by decide +kernel) hshown

end Program

end Walkthrough
