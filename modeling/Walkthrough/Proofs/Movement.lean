import Walkthrough.Proofs.Agreement
import Walkthrough.Proofs.Announcement

/-!
# Runs only move iterators

Working out the lines of a step reads the settings and whatever they lead to. Of the objects that
there are, one can change: an iterator over the numbers moves on when they are added up. It does so
when the sum ends in a fault too, and in no other step.

A person may have been given an operation of its own in place of the one that composes its full name,
and telling the name carries it out, whatever it does. So this is said of persons that have not.

## Two ways to change nothing

An action that leaves the store as it is, from any store, is `Still`; this is an instance that is
found along its parts, and it is what telling a full name comes to if the person composes it.
Telling a name is a call, though, and a call may do anything if the person has been given something
of its own. So the statement about full names goes by cases on what is found under the name, in
`cases_of_lookup_fullName`: something that cannot be carried out, or one of three forms of the same
operation.

A sum is not still, and `Store.MovesWithin` is the relation for it. It says of each address that the
object is the same, or that it is an iterator in a set `W` which has moved on.

## From steps to runs

Which step is started in which store is told by the stretches of the run. So what a run does is what
its stretches do, one after the other: `runSteps_induction` carries any relation between stores over
that is reflexive and transitive. It is used for stores in which iterators have moved on, and for
stores that are the same.

## Main definitions

* `Iterator.MovesTo` — an iterator that has moved on
* `Store.MovesWithin` — a store in which iterators have moved on, and nothing else is different
* `Action.Still` — an action that leaves the store as it is
* `Store.ComposesName` — a person without an operation of its own for its full name
* `Store.Shows` — the topics that are demonstrated while a run lasts, and the stores this happens in

## Main results

* `Store.movesWithin_sum` — a sum moves the iterator that is summed
* `Store.snd_personLine` — a line about a person changes nothing
* `Store.runSteps_induction` — what each step does to the store, going through the steps does
* `Store.movesWithin_run` — a run moves the iterators that its steps sum
* `Store.allLines_eq_run` — the lines of all steps are those of a run that is only listened to
-/

namespace Walkthrough

/-- An iterator has moved on: elements have been taken from it, or asking it for one has failed. Only
an iterator over the keys of a dictionary can fail. -/
inductive Iterator.MovesTo (it : Iterator) : Iterator → Prop
  | refl : it.MovesTo it
  | advance {moved : Iterator} (h : it.MovesTo moved) (read : Nat) (ranOff : Bool) :
    it.MovesTo (moved.advance read ranOff)
  | breakOff {moved : Iterator} (h : it.MovesTo moved) (hkind : moved.kind = .keyIterator) :
    it.MovesTo .broken

namespace Iterator

theorem kind_advance (it : Iterator) (read : Nat) (ranOff : Bool) :
    (it.advance read ranOff).kind = it.kind := by
  cases it <;> cases ranOff <;> rfl

/-- Reading ahead fails for an iterator over keys whose dictionary has changed, and for no other. -/
theorem kind_of_ahead {s : Store} {it : Iterator} {f : Fault} (h : it.ahead s = .error f) :
    it.kind = .keyIterator := by
  cases it with
  | overList source next =>
    unfold ahead at h
    dsimp only at h
    split at h <;> cases h
  | overKeys _ _ _ | broken => rfl
  | overRange _ _ _ | overItems _ _ _ | finished _ => cases h

namespace MovesTo

variable {it moved last : Iterator}

theorem trans (h : it.MovesTo moved) (h' : moved.MovesTo last) : it.MovesTo last := by
  induction h' with
  | refl => exact h
  | advance _ read ranOff ih => exact ih.advance read ranOff
  | breakOff _ hkind ih => exact ih.breakOff hkind

/-- An iterator that moves on stays of its kind. -/
theorem kind_eq (h : it.MovesTo moved) : moved.kind = it.kind := by
  induction h with
  | refl => rfl
  | advance _ read ranOff ih => rw [kind_advance, ih]
  | breakOff _ hkind ih => rw [← ih, hkind]; rfl

end MovesTo

end Iterator

namespace Store

variable {W W' : Set Addr} {s t u : Store}

/-- Iterators at the addresses of `W` may have moved on, and nothing else is different.

The set tells which iterators may have moved. It is the set of all that have been summed, and may be
too large, but for an empty set the two stores are the same. -/
structure MovesWithin (W : Set Addr) (s t : Store) : Prop where
  marks_eq : t.marks = s.marks
  size_eq : t.size = s.size
  cell : ∀ a, t.get? a = s.get? a ∨
    a ∈ W ∧ ∃ it moved, s.get? a = some (.iterator it) ∧ t.get? a = some (.iterator moved) ∧
      it.MovesTo moved

namespace MovesWithin

theorem refl (W : Set Addr) (s : Store) : MovesWithin W s s := ⟨rfl, rfl, fun _ => .inl rfl⟩

theorem mono (h : MovesWithin W s t) (hsubset : W ⊆ W') : MovesWithin W' s t :=
  ⟨h.marks_eq, h.size_eq, fun a => (h.cell a).imp_right fun ⟨ha, hmoved⟩ => ⟨hsubset ha, hmoved⟩⟩

theorem trans (hst : MovesWithin W s t) (htu : MovesWithin W t u) : MovesWithin W s u := by
  refine ⟨htu.marks_eq.trans hst.marks_eq, htu.size_eq.trans hst.size_eq, fun a => ?_⟩
  rcases hst.cell a with hsame | ⟨ha, it, moved, hs, ht, hmoved⟩
  · rw [← hsame]
    exact htu.cell a
  · refine .inr ⟨ha, ?_⟩
    rcases htu.cell a with hsame | ⟨-, moved', last, ht', hu, hlast⟩
    · exact ⟨it, moved, hs, hsame.trans ht, hmoved⟩
    · cases ht.symm.trans ht'
      exact ⟨it, last, hs, hu, hmoved.trans hlast⟩

/-- Where there is no iterator that may move, nothing is different. -/
theorem eq_of_forall (h : MovesWithin W s t)
    (hnone : ∀ a ∈ W, ∀ it, s.get? a ≠ some (.iterator it)) : t = s := by
  have hcells : t.cells = s.cells := by
    refine Array.ext_getElem? fun a => ?_
    rcases h.cell a with hsame | ⟨ha, it, -, hs, -⟩
    · exact hsame
    · exact absurd hs (hnone a ha it)
  have hmarks := h.marks_eq
  cases s
  cases t
  cases hcells
  cases hmarks
  rfl

end MovesWithin

/-! ### Sums

A sum reads the elements that are left, and then it moves an iterator by as many. If reading fails,
the iterator is broken off, which can happen to iterators over keys only.
-/

theorem movesWithin_put {a : Addr} {it moved : Iterator} (h : s.get? a = some (.iterator it))
    (hmoved : it.MovesTo moved) (ha : a ∈ W) : MovesWithin W s (s.put a (.iterator moved)) := by
  have hlt : a < s.size := by
    by_contra hle
    rw [get?_eq_none_iff.2 (Nat.not_lt.1 hle)] at h
    cases h
  refine ⟨rfl, size_put s a _, fun b => ?_⟩
  by_cases hb : b = a
  · subst hb
    exact .inr ⟨ha, it, moved, h, get?_put_self hlt _, hmoved⟩
  · exact .inl (get?_put_of_ne hb _)

/-- **A sum** moves the iterator that is summed. -/
theorem movesWithin_sum (s : Store) (v : Value) : MovesWithin {a | v = .ref a} s (s.sum v).2 := by
  unfold sum
  rcases helements : s.elements v with f | items
  · show MovesWithin _ s (s.breakOff v)
    unfold breakOff
    split
    · rename_i a it hcell
      have hahead : it.ahead s = .error f := by
        simpa only [elements, hcell] using helements
      exact movesWithin_put hcell (.breakOff .refl (Iterator.kind_of_ahead hahead)) rfl
    · exact .refl _ s
  · show MovesWithin _ s (s.moveOn v _ _)
    unfold moveOn
    split
    · rename_i a it hcell
      exact movesWithin_put hcell (.advance .refl _ _) rfl
    · exact .refl _ s

theorem movesWithin_sumLine (s : Store) (v : Value) :
    MovesWithin {a | v = .ref a} s (s.sumLine v).2 :=
  movesWithin_sum s v

end Store

/-! ### Full names

A person is asked for its full name through an attribute, and this attribute may be its own.
-/

/-- Whether a value can be carried out. -/
def Value.isCallable : Value → Bool
  | .operation _ _ | .method _ _ _ | .function _ _ | .kind _ | .member _ _ => true
  | _ => false

namespace Kind

theorem find?_fullName (k : Kind) :
    k.find? fullNameAttribute = if k = .person then some (.person, .function) else none := by
  cases k <;> rfl

theorem attribute?_fullName (k : Kind) :
    k.attribute? fullNameAttribute =
      if k = .person then some (.function .person fullNameAttribute) else none := by
  cases k <;> rfl

end Kind

namespace Action

variable {α β : Type}

/-- An action that leaves the store as it is, whether it fails or not.

An action may fail and be still. This is what most of them do here: a person that is no record has
nothing to compose a name from. -/
class Still (act : Action α) : Prop where
  store_eq : ∀ s, (act.run s).2 = s

instance still_pure (x : α) : Still (pure x : Action α) := ⟨fun _ => rfl⟩

instance still_misuse (m : Misuse) : Still (misuse m : Action α) := ⟨fun _ => rfl⟩

instance still_read (f : Store → Except Fault α) : Still (read f) := ⟨fun _ => rfl⟩

instance still_bind {act : Action α} {f : α → Action β} [hact : Still act]
    [hf : ∀ x, Still (f x)] : Still (act >>= f) where
  store_eq s := by
    have hstore := hact.store_eq s
    rw [run_bind]
    rcases hrun : act.run s with ⟨fault | x, t⟩
    · simpa only [hrun] using hstore
    · rw [hrun] at hstore
      cases hstore
      exact (hf x).store_eq _

instance still_ite {p : Prop} [Decidable p] {act other : Action α} [Still act] [Still other] :
    Still (if p then act else other) := by
  split <;> infer_instance

instance still_kindOf (v : Value) : Still (kindOf v) := still_read _

instance still_askedKind (v : Value) : Still (askedKind v) := by
  unfold askedKind
  split <;> infer_instance

instance still_checkArity (declarer asked : Kind) (name : String) (given : Nat) :
    Still (checkArity declarer asked name given) := by
  unfold checkArity
  infer_instance

instance still_checkArguments (k : Kind) (operation : String) (given : Nat) :
    Still (checkArguments k operation given) := by
  unfold checkArguments
  infer_instance

instance still_ofRecord (k : Kind) (args : List Value) (levels : Nat) :
    Still (ofRecord k fullNameAttribute args levels) := by
  unfold ofRecord fullNameAttribute
  refine @still_bind _ _ _ _ _ fun _ => ?_
  split
  · infer_instance
  · contradiction
  · contradiction
  · contradiction
  · infer_instance

/-- A person that is no record has nothing to compose a full name from. -/
instance still_perform (v : Value) : Still (perform .person v fullNameAttribute []) := by
  show Still (performPlain .person v "get_full_name" [])
  unfold performPlain
  refine @still_bind _ _ _ _ _ fun c => ?_
  split
  all_goals try contradiction
  all_goals exact still_pure _

instance still_ofKind (k : Kind) : Still (ofKind k fullNameAttribute []) := still_pure _

end Action

namespace Store

variable {s : Store}

/-- A value has not been given anything that can be carried out in place of the operation that
composes its full name. -/
def ComposesName (s : Store) (v : Value) : Prop :=
  ∀ r, s.cell? v = some (.record r) → ∀ w, s.attribute? r fullNameAttribute = some w →
    w.isCallable = false

/-- A record that has nothing of its own under the name of the operation composes its full name. -/
theorem composesName_of_attribute? {v : Value} {r : Record} (hcell : s.cell? v = some (.record r))
    (hown : s.attribute? r fullNameAttribute = none) : s.ComposesName v := by
  intro q hq w hw
  rw [hcell] at hq
  cases hq
  rw [hown] at hw
  cases hw

/-- What cannot be carried out is refused, and nothing has happened. -/
theorem call_of_not_isCallable {w : Value} (h : w.isCallable = false) (args : List Value)
    {levels : Nat} : (s.call w args levels).2 = s := by
  cases w with
  | operation _ _ | method _ _ _ | function _ _ | kind _ | member _ _ => cases h
  | _ => rfl

/-- By its kind, a value has an operation for a full name if it is a person. -/
theorem member?_fullName (v : Value) :
    s.member? v fullNameAttribute =
      if s.kind v = .person then some (.operation v fullNameAttribute) else none := by
  unfold member?
  simp only [Kind.find?_fullName]
  by_cases h : s.kind v = .person
  · simp only [if_pos h]
  · simp only [if_neg h]

/-- The operation of a person that is no record. -/
def fullNameOperation (v : Value) : Action Value := do
  Action.checkArity .person (← Action.askedKind v) fullNameAttribute 0
  match v with
  | .kind k => Action.ofKind k fullNameAttribute []
  | _ => Action.perform .person v fullNameAttribute []

theorem call_operation {v : Value} (h : s.kind v = .person) {levels : Nat} :
    s.call (.operation v fullNameAttribute) [] levels = (fullNameOperation v).run s := by
  have hdeclarer : s.declarer v fullNameAttribute = .person := by
    unfold declarer
    split
    · cases h
    · rw [h]
      rfl
  have hread : (Action.read fun s => .ok (s.declarer v fullNameAttribute)).run s =
      (.ok .person, s) := by
    rw [← hdeclarer]
    rfl
  show (Action.operate v fullNameAttribute []).run s = _
  unfold Action.operate
  rw [Action.run_bind, hread]
  rfl

instance still_fullNameOperation (v : Value) : Action.Still (fullNameOperation v) := by
  unfold fullNameOperation
  refine @Action.still_bind _ _ _ _ _ fun k => @Action.still_bind _ _ _ _ _ fun _ => ?_
  split <;> infer_instance

/-- An attribute of the record itself comes before what its kind declares. -/
theorem recordAttribute?_fullName (a : Addr) (r : Record) :
    s.recordAttribute? a r fullNameAttribute =
      (s.attribute? r fullNameAttribute).or
        (match r.kind.find? fullNameAttribute with
        | some (declarer, .function) => some (.method a declarer fullNameAttribute)
        | _ => s.member? (.ref a) fullNameAttribute) := rfl

/-- What a person that composes its name has for its full name: something that cannot be carried
out, or the operation of its kind, in one of its forms. -/
theorem cases_of_lookup_fullName {v w : Value} (h : s.ComposesName v)
    (hw : s.lookup v fullNameAttribute = .ok w) :
    w.isCallable = false ∨ (∃ u, s.kind u = .person ∧ w = .operation u fullNameAttribute) ∨
      w = .function .person fullNameAttribute ∨ ∃ a, w = .method a .person fullNameAttribute := by
  have hmember {u : Value} (hw : s.member? u fullNameAttribute = some w) :
      ∃ u, s.kind u = .person ∧ w = .operation u fullNameAttribute := by
    rw [member?_fullName] at hw
    split at hw
    · cases hw
      exact ⟨u, ‹_›, rfl⟩
    · cases hw
  have hfound : s.lookup? v fullNameAttribute = some w := by
    unfold lookup at hw
    split at hw
    · cases hw
      assumption
    · split at hw <;> cases hw
  unfold lookup? at hfound
  split at hfound
  · rw [Kind.attribute?_fullName] at hfound
    split at hfound
    · cases hfound
      exact .inr (.inr (.inl rfl))
    · cases hfound
  · rw [Option.or_eq_some_iff] at hfound
    exact .inr (.inl (hfound.elim hmember fun hfunction => hmember hfunction.2))
  · rename_i a
    split at hfound
    · rename_i r hr
      rw [recordAttribute?_fullName, Option.or_eq_some_iff] at hfound
      rcases hfound with hattribute | ⟨-, hkind⟩
      · exact .inl (h r hr w hattribute)
      · split at hkind
        · rename_i declarer hfind
          cases hkind
          rw [Kind.find?_fullName] at hfind
          split at hfind <;> cases hfind
          exact .inr (.inr (.inr ⟨a, rfl⟩))
        · exact .inr (.inl (hmember hkind))
    · exact .inr (.inl (hmember hfound))
  · exact .inr (.inl (hmember hfound))

/-- **A full name** is told without changing anything, unless the person has been given another
operation for it. -/
theorem snd_fullName {v : Value} (h : s.ComposesName v) (levels : Nat) :
    (s.fullName v levels).2 = s := by
  unfold fullName
  split
  · rfl
  rename_i w hw
  obtain hplain | ⟨u, hu, rfl⟩ | rfl | ⟨a, rfl⟩ := cases_of_lookup_fullName h hw
  · exact call_of_not_isCallable hplain []
  · rw [call_operation hu]
    exact (still_fullNameOperation u).store_eq s
  · exact (Action.still_ofRecord .person [] levels).store_eq s
  · exact (Action.still_ofRecord .person [.ref a] levels).store_eq s

/-- **A line about a person** changes nothing either. -/
theorem snd_personLine {v : Value} (h : s.ComposesName v) (levels : Nat) :
    (s.personLine v levels).2 = s := by
  have hname := snd_fullName h (levels - 1)
  unfold personLine
  split
  · rename_i hfull
    rwa [hfull] at hname
  · rename_i hfull
    rwa [hfull] at hname

/-! ### Steps

A step is demonstrated by its topic. There is none if the step has been renamed to something that is
no topic, and then it fails without doing anything.
-/

/-- The topic of the step of a name: the catalogue must have a step of the name, and the name be that
of a topic. -/
def topicOf? (s : Store) (steps : List Record) (name : Value) : Option Topic :=
  match s.findStep name steps with
  | .ok (some _) => name.topic?
  | _ => none

/-- The topic of a step, by the name that it has now. -/
def topicOfStep? (s : Store) (steps : List Record) (e : Record) : Option Topic :=
  match s.field e "name" with
  | .ok name => s.topicOf? steps name
  | .error _ => none

/-- The numbers that are added up if a topic is demonstrated. -/
def summed (s : Store) (settings : Value) (topic : Option Topic) : Set Addr :=
  {a | topic = some .sum ∧ s.lookup settings "numbers" = .ok (.ref a)}

/-- If a topic is demonstrated that asks a person for its full name, the person composes it. -/
def Introducible (s : Store) (settings : Value) (topic : Option Topic) : Prop :=
  topic = some .person → ∀ v, s.lookup settings "person" = .ok v → s.ComposesName v

variable {steps : List Record} {settings : Value}

theorem stepLines_of_topicOf? {name : Value} {topic : Topic}
    (h : s.topicOf? steps name = some topic) :
    s.stepLines steps name settings = s.topicLines settings topic := by
  unfold topicOf? at h
  split at h
  · rename_i e hfound
    simp only [stepLines, hfound, h]
  · cases h

theorem snd_stepLines_of_topicOf? {name : Value} (h : s.topicOf? steps name = none) :
    (s.stepLines steps name settings).2 = s := by
  unfold topicOf? at h
  unfold stepLines
  split
  · rfl
  · rfl
  · rename_i e hfound
    rw [hfound] at h
    simp only [h]

/-- **The lines of a topic** move the numbers on, if these are summed. -/
theorem movesWithin_topicLines {topic : Topic} (h : s.Introducible settings (some topic)) :
    MovesWithin (s.summed settings (some topic)) s (s.topicLines settings topic).2 := by
  cases topic with
  | greeting | threshold | loop => exact .refl _ s
  | sum =>
    unfold topicLines
    dsimp only
    split
    · exact .refl _ s
    · rename_i numbers hnumbers
      refine (movesWithin_sumLine s numbers).mono fun a ha => ⟨rfl, ?_⟩
      have ha : numbers = .ref a := ha
      rw [hnumbers, ha]
  | person =>
    unfold topicLines
    dsimp only
    split
    · exact .refl _ s
    · rename_i person hperson
      show MovesWithin _ s (s.personLine person).2
      rw [snd_personLine (h rfl person hperson) _]
      exact .refl _ s

/-- The lines of a step are those of a topic, or there are none and nothing moves. -/
theorem movesWithin_stepLines {name : Value}
    (h : s.Introducible settings (s.topicOf? steps name)) :
    MovesWithin (s.summed settings (s.topicOf? steps name)) s
      (s.stepLines steps name settings).2 := by
  rcases htopic : s.topicOf? steps name with _ | topic
  · rw [snd_stepLines_of_topicOf? htopic]
    exact .refl _ s
  · rw [htopic] at h
    rw [stepLines_of_topicOf? htopic]
    exact movesWithin_topicLines h

/-- **A step** moves the numbers on if it is that of sums. -/
theorem movesWithin_linesOfStep {e : Record}
    (h : s.Introducible settings (s.topicOfStep? steps e)) :
    MovesWithin (s.summed settings (s.topicOfStep? steps e)) s
      (s.linesOfStep steps settings e).2 := by
  unfold topicOfStep? at h ⊢
  unfold linesOfStep
  rcases hname : s.field e "name" with f | name
  · exact .refl _ s
  · rw [hname] at h
    exact movesWithin_stepLines h

/-! ### Runs

A run that is only listened to alternates between steps and lines, and emitting lines does nothing
to the store.
-/

variable {listener : Listener}

/-- A listener that makes no changes leaves the store as it is. -/
theorem store_emitLines (h : listener.mutations = []) (s : Store) (k : Nat) (lines : List String) :
    (emitLines listener settings s k lines).store = s := by
  induction lines generalizing k with
  | nil => rfl
  | cons line rest ih =>
    rw [emitLines, h]
    split
    · rfl
    · exact ih (k + 1)

/-- What the lines of each step that is started do to the store, going through the steps does, if it
can be done any number of times. -/
theorem runSteps_induction {R : Store → Store → Prop} (hrefl : ∀ s, R s s)
    (htrans : ∀ s t u, R s t → R t u → R s u) (hmutations : listener.mutations = []) (s : Store)
    (k : Nat) (selected : List Record)
    (h : ∀ x ∈ stretches listener steps settings s k selected,
      R x.store (x.store.linesOfStep steps settings x.step).2) :
    R s (runSteps listener steps settings s k selected).store := by
  induction selected generalizing s k with
  | nil => exact hrefl s
  | cons e rest ih =>
    simp only [stretches, runSteps] at h ⊢
    rcases hannounced : listener.announce s e with f | announced
    · exact hrefl s
    simp only [hannounced] at h ⊢
    rcases hlines : s.linesOfStep steps settings e with ⟨f | lines, t⟩
    · simpa only [hlines, List.forall_mem_singleton] using h
    · simp only [hlines, List.forall_mem_cons, store_emitLines hmutations] at h ⊢
      obtain ⟨hfirst, hlater⟩ := h
      rcases hemitted : (emitLines listener settings t k lines).outcome with f | done
      · exact hfirst
      · rw [hemitted] at hlater
        exact htrans s t _ hfirst (ih t _ hlater)

/-- **Going through steps** moves the numbers on that the steps sum when they are started. -/
theorem movesWithin_runSteps (hmutations : listener.mutations = []) (s : Store) (k : Nat)
    (selected : List Record)
    (h : ∀ x ∈ stretches listener steps settings s k selected,
      x.store.Introducible settings (x.store.topicOfStep? steps x.step)) :
    MovesWithin {a | ∃ x ∈ stretches listener steps settings s k selected,
        a ∈ x.store.summed settings (x.store.topicOfStep? steps x.step)} s
      (runSteps listener steps settings s k selected).store := by
  refine runSteps_induction (.refl _) (fun _ _ _ => .trans) hmutations s k selected fun x hx => ?_
  exact (movesWithin_linesOfStep (h x hx)).mono fun a ha => ⟨x, hx, ha⟩

/-- The same without an iterator to move: the steps are started in the store that there is, and leave
it as it is. -/
theorem store_runSteps (hmutations : listener.mutations = []) (s : Store) (k : Nat)
    (selected : List Record)
    (hnumbers : ∀ a, s.lookup settings "numbers" = .ok (.ref a) → ∀ it, s.get? a ≠ some (.iterator it))
    (h : ∀ x ∈ stretches listener steps settings s k selected,
      x.store.Introducible settings (x.store.topicOfStep? steps x.step)) :
    (runSteps listener steps settings s k selected).store = s := by
  refine @runSteps_induction steps settings listener (fun t u => t = s → u = s) (fun _ => id)
    (fun _ _ _ htu huv ht => huv (htu ht)) hmutations s k selected (fun x hx hsame => ?_) rfl
  have hmoved := movesWithin_linesOfStep (h x hx)
  rw [hsame] at hmoved ⊢
  exact hmoved.eq_of_forall fun a ha => hnumbers a ha.2

/-- While a run lasts, a topic is demonstrated in the store `t`: this is what a step comes to that
is started there.

A topic may be demonstrated several times while a run lasts, each time in another store. The
settings are read when a step is started, so these stores are what later statements have to speak
of. -/
def Shows (listener : Listener) (steps : List Record) (settings only : Value) (s t : Store)
    (topic : Topic) : Prop :=
  ∃ x ∈ s.started listener steps settings only, x.store = t ∧
    t.topicOfStep? steps x.step = some topic

variable {only : Value}

/-- **A run** moves the numbers on that are summed while it lasts. -/
theorem movesWithin_run (hmutations : listener.mutations = [])
    (h : ∀ t, Shows listener steps settings only s t .person →
      ∀ v, t.lookup settings "person" = .ok v → t.ComposesName v) :
    MovesWithin {a | ∃ t, Shows listener steps settings only s t .sum ∧
        t.lookup settings "numbers" = .ok (.ref a)} s
      (s.run listener steps settings only).store := by
  unfold Shows started at h ⊢
  unfold run
  rcases hselected : s.selectSteps steps only with f | selected
  · exact .refl _ s
  rw [hselected] at h
  refine (movesWithin_runSteps hmutations s 0 selected fun x hx htopic => ?_).mono ?_
  · exact h x.store ⟨x, hx, rfl, htopic⟩
  · rintro a ⟨x, hx, htopic, hnumbers⟩
    exact ⟨x.store, ⟨x, hx, rfl, htopic⟩, hnumbers⟩

/-- **A run without an iterator to move** leaves the store as it is. -/
theorem store_run (hmutations : listener.mutations = [])
    (hnumbers : ∀ a, s.lookup settings "numbers" = .ok (.ref a) → ∀ it, s.get? a ≠ some (.iterator it))
    (h : ∀ t, Shows listener steps settings only s t .person →
      ∀ v, t.lookup settings "person" = .ok v → t.ComposesName v) :
    (s.run listener steps settings only).store = s := by
  unfold Shows started at h
  unfold run
  rcases hselected : s.selectSteps steps only with f | selected
  · rfl
  rw [hselected] at h
  exact store_runSteps hmutations s 0 selected hnumbers fun x hx htopic =>
    h x.store ⟨x, hx, rfl, htopic⟩

/-! ### The lines of all steps

Asking for all lines goes through the steps as a run does, without a listener.
-/

/-- Settings that count as true, or new default ones in place of others. -/
def orDefault (s : Store) (settings : Value) : Value × Store :=
  if s.truthy settings then (settings, s) else s.allocSettings

/-- Settings that are used are there already, or have just been made. -/
theorem extends_orDefault (s : Store) (settings : Value) :
    s.Extends (s.orDefault settings).2 := by
  unfold orDefault
  split
  · exact .refl s
  · exact Building.extends_allocSettings s

theorem allLines_eq (s : Store) (steps : List Record) (settings : Value) :
    s.allLines steps settings =
      match (s.orDefault settings).2.listSteps steps with
      | .error f => (.error f, (s.orDefault settings).2)
      | .ok listed => (s.orDefault settings).2.linesOf steps (s.orDefault settings).1 listed := rfl

/-- The lines of all steps are those of a run that is only listened to. -/
theorem allLines_eq_run (s : Store) (steps : List Record) (settings : Value) :
    let used := s.orDefault settings
    let trace := used.2.run (.plain []) steps used.1 .null
    s.allLines steps settings = (trace.outcome, trace.store) := by
  intro used trace
  rw [allLines_eq]
  rcases hlisted : used.2.listSteps steps with f | listed
  · have htrace : trace = ⟨[], .error f, used.2⟩ := by
      simp only [trace, run, selectSteps, truthy, Bool.false_eq_true, if_false, hlisted]
    rw [htrace]
  · obtain ⟨houtcome, hstore, -⟩ := @runSteps_plain [] steps used.1 used.2 0 listed
    rw [show trace = _ from run_plain_null hlisted, houtcome, hstore]

end Store

end Walkthrough
