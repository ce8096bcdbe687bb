import Walkthrough.Proofs.Separation

/-!
# What a session has written last

Attributes of objects are set by operations for this purpose, and by runs, while lines are emitted.
Everything else leaves them: building makes objects, sums move iterators, telling names only reads,
appending makes a list longer, and steps have dictionaries of their own. So a record of a session has
under each name what has been written last to it, or what it had before.

This needs that some names are not written: the dictionary of a record, the operation that composes
its full name, and, if there are operations that ask for something to append with, that one.

## Writes are read off the run

What a run writes cannot be told from the request alone: a change is made only if the run gets that
far, and its value is built in the store of that moment. So the writes are defined by following the
run, with the same branches as the run has, and with the store handed on in the same way. That they
are all there is comes out as `Store.Written`, which says of each record and each name what it has
in the end.

Writes add up under composition, by `Written.trans`, and the empty list of writes is what everything
that does not set an attribute comes to. So for most operations there is a lemma that they write
nothing, by one of three reasons: they only make objects, they only move iterators, or they change a
list.

## Names that are not written

The set `B` of names is the same throughout a session. If `__dict__` could be written, a record
could be given the dictionary of another one, and a write to the one would show in the other. If a
person were given something else under the name of its full name, then telling a line about it would
carry that out, whatever it may be; and likewise for what a value has under `append`. That these
names are no fields of any kind matters when a record is made, since it begins with its fields.

## Main definitions

* `Barring` — the names that are not written
* `Store.runWrites` — what a run writes
* `Session.writes`, `Session.allWrites` — what operations write
* `Operation.Spares` — operations that do not write these names

## Main results

* `Store.written_run`, `CommandLine.written_execute` — runs and commands
* `Session.Separate.written_perform` — one operation
* `Session.Separate.written_performAll` — sessions
-/

namespace Walkthrough

/-- Names that are not written: one of them would give a record the dictionary of another one, and
another one an operation in place of the one that composes its full name.

The set is a parameter because it depends on the operations of a session which names are in
question. -/
structure Barring (B : Set String) : Prop where
  dict : "__dict__" ∈ B
  fullName : fullNameAttribute ∈ B
  fields : ∀ name ∈ B, ∀ k : Kind, name ∉ k.fieldNames

namespace Store

variable {B : Set String} {K : Set Addr} {s t : Store} {settings : Value} {steps : List Record}
  {listener : Listener}

/-! ### The writes of a run

The three definitions follow those of making changes, of emitting lines and of going through steps.
They end where these fail.
-/

/-- What is written by making changes to settings one after the other. -/
def mutateWrites (s : Store) (settings : Value) (vars : Bindings) : List Mutation → List Write
  | [] => []
  | m :: rest =>
    match m.value.build vars s with
    | .error _ => []
    | .ok (v, s) =>
      match s.assign settings m.field v with
      | .error _ => []
      | .ok s => ⟨settings, m.field, v⟩ :: s.mutateWrites settings vars rest

/-- What is written while lines are emitted, the first of them as line number `k`. -/
def emitWrites (listener : Listener) (settings : Value) (s : Store) (k : Nat) :
    List String → List Write
  | [] => []
  | _ :: rest =>
    if listener.failAt = some (k : Int) then []
    else
      s.mutateWrites settings listener.vars (listener.mutations.filter (·.moment = k)) ++
        match s.mutate settings listener.vars (listener.mutations.filter (·.moment = k)) with
        | (.error _, _) => []
        | (.ok (), s) => emitWrites listener settings s (k + 1) rest

/-- What is written by going through steps; `k` lines have been emitted before. -/
def runWrites (listener : Listener) (steps : List Record) (settings : Value) (s : Store) (k : Nat) :
    List Record → List Write
  | [] => []
  | e :: rest =>
    match listener.announce s e with
    | .error _ => []
    | .ok _ =>
      match s.linesOfStep steps settings e with
      | (.error _, _) => []
      | (.ok lines, s) =>
        let emitted := emitLines listener settings s k lines
        emitWrites listener settings s k lines ++
          match emitted.outcome with
          | .error _ => []
          | .ok _ => runWrites listener steps settings emitted.store (k + lines.length) rest

theorem emitWrites_eq_nil (h : listener.mutations = []) (s : Store) (k : Nat)
    (lines : List String) : emitWrites listener settings s k lines = [] := by
  induction lines generalizing k with
  | nil => rfl
  | cons line rest ih =>
    rw [emitWrites, h]
    split
    · rfl
    · exact ih (k + 1)

/-- Without changes nothing is written. -/
theorem runWrites_eq_nil (h : listener.mutations = []) (s : Store) (k : Nat)
    (selected : List Record) : runWrites listener steps settings s k selected = [] := by
  induction selected generalizing s k with
  | nil => rfl
  | cons e rest ih =>
    rw [runWrites]
    split
    · rfl
    · split
      · rfl
      · dsimp only
        rw [emitWrites_eq_nil h, List.nil_append]
        split
        · rfl
        · exact ih _ _

/-! ### What the writes come to

Each lemma is by induction on the same list as the definition of the writes it is about.
-/

/-- By induction on the changes. A change that fails ends both the writes and what is done. -/
theorem written_mutate (hB : Barring B) (hs : s.Separate B K) (settings : Value) (vars : Bindings)
    (mutations : List Mutation) (hnames : ∀ m ∈ mutations, m.field ∉ B) :
    Written B K (s.mutateWrites settings vars mutations) s
      (s.mutate settings vars mutations).2 := by
  induction mutations generalizing s with
  | nil => exact .refl hs
  | cons m rest ih =>
    rw [List.forall_mem_cons] at hnames
    simp only [mutateWrites, mutate]
    rcases hbuilt : m.value.build vars s with f | ⟨v, t⟩
    · exact .refl hs
    have hst := ((Literal.growing_build vars m.value).grows_of_ok s v t hbuilt).written hB.fields hs
    dsimp only
    rcases hassign : t.assign settings m.field v with f | u
    · exact hst
    · have htu := hst.separate.written_assign hB.dict hnames.1 hassign
      exact hst.after (htu.trans (ih htu.separate hnames.2))

/-- By induction on the lines. -/
theorem written_emitLines (hB : Barring B) (hs : s.Separate B K)
    (hnames : ∀ m ∈ listener.mutations, m.field ∉ B) (settings : Value) (k : Nat) (lines : List String) :
    Written B K (emitWrites listener settings s k lines) s
      (emitLines listener settings s k lines).store := by
  induction lines generalizing s k with
  | nil => exact .refl hs
  | cons line rest ih =>
    simp only [emitWrites, emitLines]
    split
    · exact .refl hs
    · have hmutated := written_mutate hB hs settings listener.vars
        (listener.mutations.filter (·.moment = k)) fun m hm => hnames m (List.mem_of_mem_filter hm)
      rcases hdone : s.mutate settings listener.vars (listener.mutations.filter (·.moment = k)) with
        ⟨f | _, t⟩ <;> rw [hdone] at hmutated
      · rwa [List.append_nil]
      · exact hmutated.trans (ih hmutated.separate (k + 1))

/-- A person that is a record composes its full name if it has nothing else under that name. -/
theorem Separate.composesName (hs : s.Separate B K) (hB : Barring B) (v : Value) :
    s.ComposesName v := by
  intro r hr w hw
  cases v with
  | ref a =>
    rw [hs.lacks a r hr _ hB.fullName] at hw
    cases hw
  | description d =>
    have hcell : d.cell = .record r := Option.some.inj hr
    unfold Description.cell at hcell
    split at hcell <;> cases hcell
  | _ => cases hr

/-- **A step** writes nothing: at most it moves an iterator along. -/
theorem Separate.written_linesOfStep (hs : s.Separate B K) (hB : Barring B) (steps : List Record)
    (settings : Value) (e : Record) :
    Written B K [] s (s.linesOfStep steps settings e).2 :=
  (movesWithin_linesOfStep fun _ v _ => hs.composesName hB v).written hs

/-- By induction on the steps. What a step writes is what is written while its lines are emitted. -/
theorem written_runSteps (hB : Barring B) (hs : s.Separate B K)
    (hnames : ∀ m ∈ listener.mutations, m.field ∉ B) (steps : List Record) (settings : Value)
    (k : Nat) (selected : List Record) :
    Written B K (runWrites listener steps settings s k selected) s
      (runSteps listener steps settings s k selected).store := by
  induction selected generalizing s k with
  | nil => exact .refl hs
  | cons e rest ih =>
    simp only [runWrites, runSteps]
    rcases listener.announce s e with f | announced
    · exact .refl hs
    have hlines := hs.written_linesOfStep hB steps settings e
    rcases hstep : s.linesOfStep steps settings e with ⟨f | lines, t⟩ <;> rw [hstep] at hlines
    · exact hlines
    have hemitted := written_emitLines hB hlines.separate hnames settings k lines
    dsimp only
    rcases (emitLines listener settings t k lines).outcome with f | done
    · rw [List.append_nil]
      exact hlines.after hemitted
    · exact hlines.after (hemitted.trans (ih hemitted.separate _))

/-- What is written by a run. -/
def writesOfRun (listener : Listener) (steps : List Record) (settings only : Value) (s : Store) :
    List Write :=
  match s.selectSteps steps only with
  | .error _ => []
  | .ok selected => runWrites listener steps settings s 0 selected

/-- **A run** writes what its changes come to. -/
theorem written_run (hB : Barring B) (hs : s.Separate B K)
    (hnames : ∀ m ∈ listener.mutations, m.field ∉ B) (only : Value) :
    Written B K (s.writesOfRun listener steps settings only) s
      (s.run listener steps settings only).store := by
  unfold writesOfRun run
  rcases s.selectSteps steps only with f | selected
  · exact .refl hs
  · exact written_runSteps hB hs hnames steps settings 0 selected

theorem writesOfRun_eq_nil (h : listener.mutations = []) (steps : List Record)
    (settings only : Value) :
    s.writesOfRun listener steps settings only = [] := by
  unfold writesOfRun
  split
  · rfl
  · exact runWrites_eq_nil h s 0 _

/-- A run without changes writes nothing. -/
theorem written_run_of_eq_nil (hB : Barring B) (hs : s.Separate B K)
    (h : listener.mutations = []) (only : Value) :
    Written B K [] s (s.run listener steps settings only).store := by
  rw [← writesOfRun_eq_nil h steps settings only]
  exact written_run hB hs (by rw [h]; exact nofun) only

/-- Settings that do not count as true are replaced by new ones, and these are made. -/
theorem grows_orDefault (s : Store) (settings : Value) : s.Grows (s.orDefault settings).2 := by
  unfold orDefault
  split
  · exact .refl
  · exact Building.growing_allocSettings.grows_of_ok s _ _ rfl

/-- **All lines** are told without anything being written, new settings included. -/
theorem written_allLines (hB : Barring B) (hs : s.Separate B K) (steps : List Record)
    (settings : Value) : Written B K [] s (s.allLines steps settings).2 := by
  rw [allLines_eq_run]
  have hused := (s.grows_orDefault settings).written hB.fields hs
  exact hused.after (written_run_of_eq_nil hB hused.separate rfl .null)

end Store

/-- **A command** writes nothing: it makes its own settings and lets them be run. -/
theorem CommandLine.written_execute {B : Set String} {K : Set Addr} {s : Store} (hB : Barring B)
    (hs : s.Separate B K) (steps : List Record) (arguments : List String) :
    s.Written B K [] (execute s steps arguments).2 := by
  unfold execute
  split
  · exact .refl hs
  · exact .refl hs
  · unfold executeRun
    split
    · exact .refl hs
    · exact .refl hs
    · split
      · exact .refl hs
      · unfold executeKnown
        split
        · exact .refl hs
        · rename_i hbuilt
          have hst := ((Literal.growing_build [] _).grows_of_ok _ _ _ hbuilt).written hB.fields hs
          exact hst.after (Store.written_run_of_eq_nil hB hst.separate rfl _)
  · exact .refl hs

namespace Step

variable {B : Set String} {K : Set Addr} {s t : Store} {vars : Bindings}

/-- **New steps** have dictionaries that belong to no record. -/
theorem separate_buildAll (hB : Barring B) (hs : s.Separate B K)
    {steps : List (List (String × Literal))} {es : List Record}
    (h : Step.buildAll vars steps s = .ok (es, t)) : t.Separate B (dictionariesOf es ∪ K) := by
  induction steps generalizing s es K with
  | nil =>
    cases h
    refine hs.mono ?_
    rintro a (⟨e, he, -⟩ | ha)
    · exact absurd he List.not_mem_nil
    · exact ha
  | cons fields rest ih =>
    obtain ⟨e, u, he, h⟩ := Building.bind_eq_ok h
    obtain ⟨later, w, hlater, h⟩ := Building.bind_eq_ok h
    cases h
    obtain ⟨given, x, hgiven, he⟩ := Building.bind_eq_ok he
    obtain ⟨attributes, y, hattributes, he⟩ := Building.bind_eq_ok he
    cases he
    have hgrows := ((Literal.growing_buildFields vars fields).grows_of_ok s given x hgiven).trans
      ((Building.growing_attributes .step given).grows_of_ok x attributes y hattributes)
    have hmade := (hgrows.separate hB.fields hs).alloc_dict (.ofNames attributes)
    refine (ih hmade hlater).mono ?_
    rintro a (⟨e, he, rfl⟩ | ha)
    · rcases List.mem_cons.1 he with rfl | he
      · exact .inr (Set.mem_insert _ _)
      · exact .inl ⟨e, he, rfl⟩
    · exact .inr (Set.mem_insert_of_mem _ ha)

end Step

/-! ### Appending

An operation that appends asks its target for something to append with, and calls that. For a list
this is the operation of the list. A value of another kind has none, unless it is a record with an
attribute of that name, which is why the name is barred.
-/

/-- What follows on an action that leaves the store as it is. -/
theorem Action.snd_run_bind {α β : Type} {act : Action α} {f : α → Action β} [hact : Still act]
    {s : Store} (h : ∀ x, ((f x).run s).2 = s) : ((act >>= f).run s).2 = s := by
  have hstore := hact.store_eq s
  rw [run_bind]
  rcases hrun : act.run s with ⟨fault | x, t⟩
  · simpa only [hrun] using hstore
  · rw [hrun] at hstore
    cases hstore
    exact h x

namespace Kind

theorem find?_append (k : Kind) :
    k.find? "append" = if k = .list then some (.list, .method) else none := by
  cases k <;> rfl

theorem attribute?_append (k : Kind) :
    k.attribute? "append" = if k = .list then some (.member .list "append") else none := by
  cases k <;> rfl

end Kind

namespace Store

variable {B : Set String} {K : Set Addr} {s t : Store} {v w : Value}

theorem member?_append (s : Store) (v : Value) :
    s.member? v "append" = if s.kind v = .list then some (.operation v "append") else none := by
  unfold member?
  simp only [Kind.find?_append]
  by_cases h : s.kind v = .list
  · simp only [if_pos h]
  · simp only [if_neg h]

theorem recordAttribute?_append (a : Addr) (r : Record) :
    s.recordAttribute? a r "append" =
      (s.attribute? r "append").or
        (match r.kind.find? "append" with
        | some (declarer, .function) => some (.method a declarer "append")
        | _ => s.member? (.ref a) "append") := rfl

/-- What there is to append with: the operation of a list, unless a record has something of its own
under that name. -/
theorem Separate.cases_of_lookup_append (hs : s.Separate B K) (hB : "append" ∈ B)
    (h : s.lookup v "append" = .ok w) :
    w = .member .list "append" ∨ s.kind v = .list ∧ w = .operation v "append" := by
  have hfound : s.lookup? v "append" = some w := by
    unfold lookup at h
    split at h
    · cases h
      assumption
    · split at h <;> cases h
  have hmember {u : Value} (hw : s.member? u "append" = some w) :
      s.kind u = .list ∧ w = .operation u "append" := by
    rw [member?_append] at hw
    split at hw
    · cases hw
      exact ⟨‹_›, rfl⟩
    · cases hw
  unfold lookup? at hfound
  split at hfound
  · rw [Kind.attribute?_append] at hfound
    split at hfound
    · cases hfound
      exact .inl rfl
    · cases hfound
  · rw [Option.or_eq_some_iff] at hfound
    rcases hfound with hmethod | ⟨-, hfunction⟩
    · cases (hmember hmethod).1
    · cases (hmember hfunction).1
  · rename_i a
    split at hfound
    · rename_i r hr
      have hk := hs.isRecord a r hr
      have hkind : s.kind (.ref a) = r.kind := by
        rw [kind, hr]
        rfl
      have hlist : r.kind ≠ .list := by
        intro heq
        rw [heq] at hk
        cases hk
      rw [recordAttribute?_append, hs.lacks a r hr _ hB, Kind.find?_append, if_neg hlist,
        Option.none_or] at hfound
      exact absurd (hkind.symm.trans (hmember hfound).1) hlist
    · exact .inr (hmember hfound)
  · exact .inr (hmember hfound)

/-- A list is one when objects have been made. -/
theorem Extends.kind_eq_list (hst : s.Extends t) (h : s.kind v = .list) : t.kind v = .list := by
  have hne (nature : Option Nature) : Nature.operationKind nature ≠ .list := by
    rcases nature with _ | nature
    · decide
    · cases nature <;> decide
  cases v with
  | ref a =>
    rw [kind] at h ⊢
    rcases ha : s.get? a with _ | c
    · rw [ha] at h
      cases h
    · rwa [hst.get?_of_some ha, ← ha]
  | operation owner name =>
    cases owner with
    | _ => exact absurd h (hne _)
  | _ => exact h

/-- Appending replaces a list by a longer one, or does nothing. -/
theorem snd_call_append (h : s.kind v = .list) (w : Value) :
    (s.call (.operation v "append") [w]).2 = s ∨ ∃ l items, s.get? l = some (.list items) ∧
      (s.call (.operation v "append") [w]).2 = s.put l (.list (items ++ [w])) := by
  by_cases hlist : ∃ l items, v = .ref l ∧ s.get? l = some (.list items)
  · obtain ⟨l, items, rfl, hl⟩ := hlist
    exact .inr ⟨l, items, hl, by rw [call_append hl]⟩
  left
  have hdeclarer : s.declarer v "append" = .list := by
    unfold declarer
    split
    · cases h
    · rw [h]
      rfl
  show ((Action.operate v "append" [w]).run s).2 = s
  unfold Action.operate
  rw [Action.run_read_bind (f := fun s => .ok (s.declarer v "append"))
    (congrArg Except.ok hdeclarer)]
  refine Action.snd_run_bind fun k => Action.snd_run_bind fun _ => ?_
  split
  · cases h
  · show ((Action.performPlain .list v "append" [w]).run s).2 = s
    unfold Action.performPlain
    rw [Action.run_read_bind (f := fun s => .ok (s.cell? v)) rfl]
    split
    all_goals try contradiction
    · rename_i l items _ _ hcell
      exact absurd ⟨l, items, rfl, hcell⟩ hlist
    · rfl
    · rfl

/-- What a list has of its own to append with lacks the list. -/
theorem snd_call_member_append (w : Value) : (s.call (.member .list "append") [w]).2 = s := by
  show ((Action.operateMember .list "append" [w]).run s).2 = s
  unfold Action.operateMember
  refine Action.snd_run_bind fun k => ?_
  split
  · rfl
  · rfl

/-- **Appending** writes no attribute. -/
theorem Separate.written_append (hs : s.Separate B K) (hB : Barring B) (hbar : "append" ∈ B)
    (hw : s.lookup v "append" = .ok w) (hst : s.Grows t) (x : Value) :
    Written B K [] s (t.call w [x]).2 := by
  have hmade := hst.written hB.fields hs
  obtain rfl | ⟨hv, rfl⟩ := hs.cases_of_lookup_append hbar hw
  · rwa [snd_call_member_append]
  · obtain hsame | ⟨l, items, hl, hput⟩ := snd_call_append (hst.extends.kind_eq_list hv) x
    · rwa [hsame]
    · rw [hput]
      exact hmade.after (hmade.separate.written_list hl _)

end Store

/-! ### Sessions

The dictionaries of the steps belong to no record that a value refers to. They are the set `K` of
the statements about stores, and may be written to, since revising a step is no write to an object.
-/

/-- The names of the attributes of objects that an operation writes. -/
def Operation.names : Operation → List String
  | .assign _ field _ => [field]
  | .run request => request.mutations.map (·.field)
  | _ => []

/-- Whether an operation asks a value for its operation `append`. -/
def Operation.Appends : Operation → Prop
  | .append _ _ => True
  | _ => False

/-- An operation writes nothing under names in `B`, and gives no step another dictionary. It asks
for the operation `append` only if that is one of the names. -/
structure Operation.Spares (B : Set String) (op : Operation) : Prop where
  redirects : ¬ op.Redirects
  names : ∀ name ∈ op.names, name ∉ B
  appends : op.Appends → "append" ∈ B

namespace Session

variable {B : Set String} {σ : Session}

/-- What an operation writes to objects. -/
def writes (σ : Session) : Operation → List Write
  | .assign target field v =>
    let parts : Building (Value × Value) := do
      let target ← target.build σ.vars
      return (target, ← v.build σ.vars)
    match parts σ.store with
    | .error _ => []
    | .ok ((target, v), s) =>
      match s.assign target field v with
      | .error _ => []
      | .ok _ => [⟨target, field, v⟩]
  | .run request =>
    let parts : Building (Value × Value) := do
      let settings ← σ.buildSettings request.settings
      return (settings, ← request.only.build σ.vars)
    match parts σ.store with
    | .error _ => []
    | .ok ((settings, only), s) =>
      s.writesOfRun (request.listener σ.vars) σ.steps settings only
  | _ => []

/-- What operations write one after the other. -/
def allWrites (σ : Session) : List Operation → List Write
  | [] => []
  | op :: rest => σ.writes op ++ (σ.perform op).2.allWrites rest

/-- Each record of a session has a dictionary of its own, and so has each step. -/
def Separate (B : Set String) (σ : Session) : Prop :=
  σ.store.Separate B σ.dictionaries

/-- What an operation comes to. -/
def Written (B : Set String) (writes : List Write) (σ τ : Session) : Prop :=
  Store.Written B τ.dictionaries writes σ.store τ.store

/-- What two operations write is what they write together. -/
theorem Written.trans {τ υ : Session} {writes later : List Write} (hστ : Written B writes σ τ)
    (hτυ : Written B later τ υ) : Written B (writes ++ later) σ υ :=
  Store.Written.trans hστ hτυ

/-- Building writes nothing, so all depends on what is done with what has been built. -/
theorem Separate.written_building {α : Type} {Q : α → Prop} {b : Building α}
    {next : α → Session → Answer × Session} (hσ : σ.Separate B) (hB : Barring B)
    (hb : Building.Growing b Q)
    (hnext : ∀ a s, b σ.store = .ok (a, s) → (σ.withStore s).Separate B →
      Written B [] (σ.withStore s) (next a (σ.withStore s)).2) :
    Written B [] σ (σ.building b next).2 := by
  unfold Session.building
  split
  · exact .refl hσ
  · rename_i a s hbuilt
    have hmade : Written B [] σ (σ.withStore s) :=
      (hb.grows_of_ok _ a s hbuilt).written hB.fields hσ
    exact hmade.trans (hnext a s hbuilt hmade.separate)

theorem Separate.written_asking {α : Type} {Q : α → Prop} {b : Building α}
    {question : α → Store → Except Fault Tree} (hσ : σ.Separate B) (hB : Barring B)
    (hb : Building.Growing b Q) : Written B [] σ (σ.asking b question).2 :=
  hσ.written_building hB hb fun _ _ _ hs => .refl hs

/-- **Setting an attribute** of a value that has been built is one write, unless it fails. -/
theorem Separate.written_assign (hσ : σ.Separate B) (hB : Barring B) (target : Literal)
    {field : String} (hfield : field ∉ B) (v : Literal) :
    Written B (σ.writes (.assign target field v)) σ (σ.perform (.assign target field v)).2 := by
  rcases hbuilt : (do
    let target ← target.build σ.vars
    return (target, ← v.build σ.vars) : Building (Value × Value)) σ.store with f | ⟨⟨owner, w⟩, s⟩
  · simp only [perform, building, writes, hbuilt]
    exact .refl hσ
  · simp only [perform, building, writes, hbuilt]
    have hmade := ((Literal.growing_buildTwo σ.vars target v).grows_of_ok _ _ s hbuilt).written
      hB.fields hσ
    dsimp only [withStore]
    rcases hassigned : s.assign owner field w with f | t
    · exact hmade
    · exact hmade.after (hmade.separate.written_assign hB.dict hfield hassigned)

/-- **A run** that is requested, with the changes of its listener. -/
theorem Separate.written_run (hσ : σ.Separate B) (hB : Barring B) {request : RunRequest}
    (hnames : ∀ m ∈ request.mutations, m.field ∉ B) :
    Written B (σ.writes (.run request)) σ (σ.perform (.run request)).2 := by
  rcases hbuilt : (do
    let settings ← σ.buildSettings request.settings
    return (settings, ← request.only.build σ.vars) : Building (Value × Value)) σ.store with
    f | ⟨⟨settings, only⟩, s⟩
  · simp only [perform, performRun, writes, hbuilt]
    exact .refl hσ
  · simp only [perform, performRun, writes, hbuilt]
    have hparts := σ.growing_requested request.settings request.only
    have hmade := (hparts.grows_of_ok _ _ s hbuilt).written hB.fields hσ
    exact hmade.after (Store.written_run hB hmade.separate hnames only)

/-- Appending in a session, with the target and the new element built before. -/
theorem Separate.written_append (hσ : σ.Separate B) (hB : Barring B) (hbar : "append" ∈ B)
    (target v : Literal) : Written B [] σ (σ.perform (.append target v)).2 := by
  simp only [perform, building]
  split
  · exact .refl hσ
  · rename_i parts t hbuilt
    obtain ⟨owner, s, howner, hbuilt⟩ := Building.bind_eq_ok hbuilt
    obtain ⟨operation, u, hread, hbuilt⟩ := Building.bind_eq_ok hbuilt
    obtain ⟨w, t', hw, hbuilt⟩ := Building.bind_eq_ok hbuilt
    cases hbuilt
    have hmade := ((Literal.growing_build σ.vars target).grows_of_ok _ owner s howner).written
      hB.fields hσ
    simp only [Building.read] at hread
    rcases hlookup : s.lookup owner "append" with f | operation' <;> rw [hlookup] at hread <;>
      cases hread
    have hgrows := (Literal.growing_build σ.vars v).grows_of_ok s w t hw
    exact hmade.after (hmade.separate.written_append hB hbar hlookup hgrows w)

/-- New steps get new dictionaries, which belong to no record. -/
theorem Separate.written_replaceSteps (hσ : σ.Separate B) (hB : Barring B)
    (steps : List (List (String × Literal))) :
    Written B [] σ (σ.perform (.replaceSteps steps)).2 := by
  obtain ⟨r, hfailed⟩ | ⟨es, t, hbuilt, hdone⟩ := perform_replaceSteps (σ := σ) steps
  · rw [hfailed]
    exact .refl hσ
  · rw [hdone]
    have hmade := ((Step.growing_buildAll σ.vars steps).grows_of_ok _ es t hbuilt).written
      hB.fields hσ
    exact ⟨(Step.separate_buildAll hB hσ hbuilt).mono Set.subset_union_left, hmade.record⟩

/-- Revising a step writes to its dictionary, or sets its kind in the list of steps. -/
theorem Separate.written_reviseStep (hσ : σ.Separate B) (hB : Barring B) (name : Literal)
    {field : String} (hfield : field ≠ "__dict__") (v : Literal) :
    Written B [] σ (σ.perform (.reviseStep name field v)).2 := by
  refine hσ.written_building hB (σ.growing_revision name v) fun parts s _ hs => ?_
  dsimp only
  split
  · rename_i steps t hrevised
    obtain ⟨before, e, after, e', hsteps, rfl, -, -, hassign⟩ := Store.reviseStep_eq_ok hrevised
    obtain ⟨heq, hcases⟩ := Store.assignRecord_eq_ok hfield hassign
    have he : e.attributes ∈ (σ.withStore s).dictionaries :=
      ⟨e, by rw [show (σ.withStore s).steps = _ from hsteps]; simp, rfl⟩
    have hsubset : dictionariesOf (before ++ e' :: after) ⊆ (σ.withStore s).dictionaries := by
      rw [dictionaries, show (σ.withStore s).steps = _ from hsteps]
      rintro a ⟨d, hd, rfl⟩
      rcases List.mem_append.1 hd with hd | hd
      · exact ⟨d, List.mem_append_left _ hd, rfl⟩
      · rcases List.mem_cons.1 hd with rfl | hd
        · exact ⟨e, by simp, heq.symm⟩
        · exact ⟨d, by simp [hd], rfl⟩
    have hwritten : Store.Written B (σ.withStore s).dictionaries [] s t := by
      obtain ⟨-, -, rfl⟩ | ⟨-, rfl⟩ := hcases
      · exact .refl hs
      · obtain ⟨entries, hentries⟩ := hs.others _ he
        refine Store.Separate.written_putAttribute hs hentries (.inr he) fun a r hr other => ?_
        rw [if_neg fun hboth => hs.apart _ he a r hr hboth.1]
        rfl
    exact ⟨hwritten.separate.mono hsubset, hwritten.record⟩
  · exact .refl hs

/-- **One operation** gives records the attributes that it writes, and no others. -/
theorem Separate.written_perform (hσ : σ.Separate B) (hB : Barring B) {op : Operation}
    (hop : op.Spares B) : Written B (σ.writes op) σ (σ.perform op).2 := by
  have hbuild (l : Literal) := Literal.growing_build σ.vars l
  cases op with
  | greet name greeting => exact hσ.written_asking hB (σ.growing_greeted name _)
  | threshold v | iterations v | findStep v | value v | display v =>
    exact hσ.written_asking hB (hbuild _)
  | defaultPerson => exact hσ.written_asking hB Building.growing_allocPerson
  | equal a b | identical a b => exact hσ.written_asking hB (Literal.growing_buildTwo σ.vars a b)
  | listSteps | clearListed => exact .refl hσ
  | bind name v => exact hσ.written_building hB (hbuild v) fun _ _ _ hs => .refl hs
  | sum numbers =>
    exact hσ.written_building hB (hbuild numbers) fun v s _ hs =>
      (Store.movesWithin_sum s v).written hs
  | fullName person =>
    refine hσ.written_building hB (hbuild person) fun v s _ hs => ?_
    have hs : s.Separate B σ.dictionaries := hs
    show s.Written B σ.dictionaries [] (s.fullName v).2
    rw [Store.snd_fullName (hs.composesName hB v) _]
    exact .refl hs
  | personLine person =>
    refine hσ.written_building hB (hbuild person) fun v s _ hs => ?_
    have hs : s.Separate B σ.dictionaries := hs
    show s.Written B σ.dictionaries [] (s.personLine v).2
    rw [Store.snd_personLine (hs.composesName hB v) _]
    exact .refl hs
  | stepLines name settings =>
    refine hσ.written_building hB (σ.growing_named name settings) fun parts s _ hs => ?_
    exact (Store.movesWithin_stepLines fun _ v _ =>
      Store.Separate.composesName hs hB v).written hs
  | allLines settings =>
    exact hσ.written_building hB (hbuild _) fun v s _ hs => Store.written_allLines hB hs σ.steps v
  | run request =>
    exact hσ.written_run hB fun m hm => hop.names m.field (List.mem_map_of_mem hm)
  | assign target field v =>
    exact hσ.written_assign hB target (hop.names field (List.mem_singleton_self field)) v
  | append target v => exact hσ.written_append hB (hop.appends trivial) target v
  | replaceSteps steps => exact hσ.written_replaceSteps hB steps
  | reviseStep name field v => exact hσ.written_reviseStep hB name hop.redirects v
  | command arguments => exact CommandLine.written_execute hB hσ σ.steps arguments

/-- **A session** gives records the attributes that are written last. By induction on the
operations; the writes of the later ones are those of the session that the first one has left. -/
theorem Separate.written_performAll (hσ : σ.Separate B) (hB : Barring B) {ops : List Operation}
    (hops : ∀ op ∈ ops, op.Spares B) : Written B (σ.allWrites ops) σ (σ.performAll ops).2 := by
  induction ops generalizing σ with
  | nil => exact .refl hσ
  | cons op rest ih =>
    rw [List.forall_mem_cons] at hops
    have hfirst := hσ.written_perform hB hops.1
    rw [performAll_cons]
    exact hfirst.trans (ih hfirst.separate hops.2)

/-- **At the beginning** there are no records but the steps. -/
theorem separate_initial (B : Set String) : Separate B {} := by
  have hdict {a : Addr} {c : Cell} (ha : Store.initial.2.get? a = some c) :
      ∃ entries, c = .dict entries := by
    have hmem : c ∈ Store.initial.2.cells := Array.mem_of_getElem? ha
    rw [Store.cells_initial, List.mem_toArray] at hmem
    obtain ⟨attributes, -, rfl⟩ := List.mem_map.1 hmem
    exact ⟨_, rfl⟩
  have hnone (a : Addr) (r : Record) : Store.initial.2.get? a ≠ some (.record r) := by
    intro hr
    obtain ⟨entries, ⟨⟩⟩ := hdict hr
  refine ⟨fun a r hr => absurd hr (hnone a r), fun a r hr => absurd hr (hnone a r),
    fun a _ r _ hr => absurd hr (hnone a r), fun a r hr => absurd hr (hnone a r), ?_,
    fun _ _ a r hr => absurd hr (hnone a r)⟩
  rintro b ⟨e, he, rfl⟩
  obtain ⟨c, hc⟩ : ∃ c, Store.initial.2.get? e.attributes = some c :=
    ⟨_, Array.getElem?_eq_getElem (closed_initial.attributes_lt he)⟩
  obtain ⟨entries, rfl⟩ := hdict hc
  exact ⟨entries, hc⟩

end Session

end Walkthrough
