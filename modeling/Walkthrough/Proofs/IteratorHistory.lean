import Walkthrough.Proofs.Reading
import Walkthrough.Proofs.SettingsChange
import Walkthrough.Proofs.SumOfIterator

/-!
# An iterator over whole sessions

An iterator over a list is summed by an operation that is asked for it, and by each step that sums the
numbers of settings that hold it, in a run and out of one. In between, the list may get further
elements. However these alternate, each element of the list is summed once at most, from the first on
and without gaps, and once a sum has come to the end of the list all later ones are zero.

A session can do other things to a list or an iterator. A person may have been given an operation of
one of them in place of the one that composes its full name, and then a line about the person takes
an element, or empties the list. So this is said of operations that do nothing to them but append to
the list and sum the iterator.

## Histories

A history is a sequence of sums, with things in between that do nothing to the list but append to
it, and nothing to the iterator. That every element is summed once at most is shown of histories.
What is left for this module is that a session is one: each operation is a history by itself, and
histories may be put one behind the other.

The sums of an operation are listed by the stores in which they are made, since that is all that a
sum depends on. For a run these are the stores in which the steps of sums are started. As for its
writes, this cannot be told from the request, and is read off the run.

## What may be done in between

Almost everything leaves a list and an iterator alone. The exceptions are calls, which may do
anything to either, and setting attributes, which writes to the object in which a record keeps them;
that this is a dictionary has to be said. So the condition is stated for what an operation really
does, as `Session.Interleaves`, and there is a sufficient condition about persons that is easier to
see.

## Main definitions

* `Store.sumsOf`, `Session.sums`, `Session.allSums` — the sums of an iterator that are made, in their
  sequence
* `Store.Undisturbed` — a topic that does nothing else to the list and the iterator
* `Session.Interleaves`, `Session.Interleaved` — operations that append to the list and sum the
  iterator, at most

## Main results

* `Session.mem_sums_iff` — which sums an operation makes
* `Session.Interleaves.run_of_composesName` — runs in which persons compose their names
* `Session.history_perform`, `Session.history_performAll` — sessions are histories
* `Session.summed_once` — every element is summed once at most
-/

namespace Walkthrough

namespace Action

variable {α β : Type}

/-- What follows on reading the store. -/
theorem run_read_bind {f : Store → Except Fault α} {s : Store} {x : α} (h : f s = .ok x)
    (g : α → Action β) : (read f >>= g).run s = (g x).run s := by
  have hread : (read f).run s = (.ok x, s) := by
    rw [← h]
    rfl
  rw [run_bind, hread]

end Action

/-- Mentioning a variable makes nothing. -/
theorem Literal.build_named {vars : Bindings} {name : String} {v : Value}
    (hname : pathNames name = [name]) (h : vars.get? name = some v) (s : Store) :
    (Literal.named name).build vars s = .ok (v, s) := by
  rw [Literal.build, Building.read, Store.resolve, hname]
  simp only [h]
  rfl

namespace Store

variable {s t u : Store} {l a : Addr} {items : List Value} {it : Iterator} {settings : Value}
  {steps : List Record}

/-! ### Appending

What is called is looked up at the list, and the new element is put behind the others.
-/

theorem kind_of_list (h : s.get? l = some (.list items)) : s.kind (.ref l) = .list := by
  rw [kind, h]
  rfl

/-- A list has an operation to append with, and it is its own. -/
theorem lookup_append (h : s.get? l = some (.list items)) :
    s.lookup (.ref l) "append" = .ok (.operation (.ref l) "append") := by
  have hfind : Kind.list.find? "append" = some (.list, .method) := rfl
  simp only [lookup, lookup?, h, member?, kind_of_list h, hfind]

/-- **A list that is appended to** has one more element. -/
theorem call_append (h : s.get? l = some (.list items)) (w : Value) :
    s.call (.operation (.ref l) "append") [w] = (.ok .null, s.put l (.list (items ++ [w]))) := by
  have hkind := kind_of_list h
  have hdeclarer : s.declarer (.ref l) "append" = .list := by
    simp only [declarer, hkind]
    rfl
  have hcell : s.cell? (.ref l) = some (.list items) := h
  show (Action.operate (.ref l) "append" [w]).run s = _
  unfold Action.operate
  rw [Action.run_read_bind (f := fun s => .ok (s.declarer (.ref l) "append"))
    (congrArg Except.ok hdeclarer)]
  show ((Action.kindOf (.ref l)) >>= _).run s = _
  unfold Action.kindOf
  rw [Action.run_read_bind (f := fun s => .ok (s.kind (.ref l))) (congrArg Except.ok hkind)]
  show (Action.performPlain .list (.ref l) "append" [w]).run s = _
  unfold Action.performPlain
  rw [Action.run_read_bind (f := fun s => .ok (s.cell? (.ref l))) (congrArg Except.ok hcell)]
  rfl

/-! ### Steps

The topic of sums is the only one that moves an iterator, and that of the person the only one that
calls something.
-/

/-- The list and the iterator are as they were. -/
def Leaves (l a : Addr) (s t : Store) : Prop := t.get? l = s.get? l ∧ t.get? a = s.get? a

theorem Leaves.refl (l a : Addr) (s : Store) : Leaves l a s s := ⟨rfl, rfl⟩

/-- Where nothing happens to the two there is a history without sums. -/
theorem Leaves.history (h : Leaves l a s t) : History l a s [] t := .aside .refl h.1 h.2

theorem Extends.leaves (hst : s.Extends t) (hl : s.get? l = some (.list items))
    (ha : s.get? a = some (.iterator it)) : Leaves l a s t :=
  ⟨(hst.get?_of_some hl).trans hl.symm, (hst.get?_of_some ha).trans ha.symm⟩

/-- The sum that is made of an iterator when a topic is demonstrated, if it is made: it is the topic
of sums, and the numbers are this iterator. -/
def sumsIn (a : Addr) (s : Store) (settings : Value) (topic : Option Topic) : List Store :=
  if topic = some .sum ∧ s.lookup settings "numbers" = .ok (.ref a) then [s] else []

theorem mem_sumsIn {topic : Option Topic} :
    t ∈ s.sumsIn a settings topic ↔
      t = s ∧ topic = some .sum ∧ s.lookup settings "numbers" = .ok (.ref a) := by
  rw [sumsIn]
  split
  · rename_i h
    simp [h]
  · rename_i h
    simp [h]

/-- Without a sum, the list and the iterator are left. -/
theorem Leaves.history_sumsIn (h : Leaves l a s t) {topic : Option Topic}
    (htopic : topic ≠ some .sum) : History l a s (s.sumsIn a settings topic) t := by
  rw [sumsIn, if_neg fun hsum => htopic hsum.1]
  exact h.history

/-- The sums of an iterator that started steps make. -/
def sumsOf (a : Addr) (steps : List Record) (settings : Value) (started : List Stretch) :
    List Store :=
  started.flatMap fun x => x.store.sumsIn a settings (x.store.topicOfStep? steps x.step)

/-- Demonstrating a topic does nothing to the list and the iterator but sum the iterator. Only telling
a full name can do something else, by an operation that a person has been given for it. -/
def Undisturbed (l a : Addr) (s : Store) (settings : Value) (topic : Topic) : Prop :=
  topic = .person → Leaves l a s (s.topicLines settings .person).2

/-- A sum of another value leaves the list and the iterator. -/
theorem leaves_sum {v : Value} (hl : s.get? l = some (.list items)) (hv : v ≠ .ref a) :
    Leaves l a s (s.sum v).2 := by
  have hmoved := movesWithin_sum s v
  constructor
  · rcases hmoved.cell l with hsame | ⟨-, it, moved, hit, -⟩
    · exact hsame
    · rw [hl] at hit
      cases hit
  · rcases hmoved.cell a with hsame | ⟨ha, -⟩
    · exact hsame
    · exact absurd ha hv

/-- **The lines of a topic.** -/
theorem history_topicLines (hl : s.get? l = some (.list items)) {topic : Topic}
    (h : s.Undisturbed l a settings topic) :
    History l a s (s.sumsIn a settings (some topic)) (s.topicLines settings topic).2 := by
  cases topic with
  | greeting | threshold | loop => exact (Leaves.refl l a s).history_sumsIn nofun
  | person => exact (h rfl).history_sumsIn nofun
  | sum =>
    rw [topicLines]
    rcases hnumbers : s.lookup settings "numbers" with f | v
    · rw [sumsIn, hnumbers, if_neg (by simp)]
      exact .refl
    by_cases hv : v = .ref a
    · subst hv
      rw [sumsIn, hnumbers, if_pos ⟨rfl, rfl⟩]
      exact .single l a s
    · rw [sumsIn, hnumbers, if_neg (by simp [hv])]
      exact (leaves_sum hl hv).history

/-- A name that is that of no topic has no lines, and nothing happens. -/
theorem history_stepLines (hl : s.get? l = some (.list items)) {name : Value}
    (h : ∀ topic, s.topicOf? steps name = some topic → s.Undisturbed l a settings topic) :
    History l a s (s.sumsIn a settings (s.topicOf? steps name))
      (s.stepLines steps name settings).2 := by
  rcases htopic : s.topicOf? steps name with _ | topic
  · rw [snd_stepLines_of_topicOf? htopic]
    exact (Leaves.refl l a s).history_sumsIn nofun
  · rw [stepLines_of_topicOf? htopic]
    exact history_topicLines hl (h topic htopic)

/-- **A step** is a history, with a sum at most. -/
theorem history_linesOfStep (hl : s.get? l = some (.list items)) {e : Record}
    (h : ∀ topic, s.topicOfStep? steps e = some topic → s.Undisturbed l a settings topic) :
    History l a s (s.sumsIn a settings (s.topicOfStep? steps e))
      (s.linesOfStep steps settings e).2 := by
  rw [topicOfStep?] at h ⊢
  rw [linesOfStep]
  rcases hname : s.field e "name" with f | name
  · exact (Leaves.refl l a s).history_sumsIn (by rintro ⟨⟩)
  · rw [hname] at h
    exact history_stepLines hl h

/-- The topic of a step is that of the lines that it gives. -/
theorem linesOfStep_of_topicOfStep? {e : Record} {topic : Topic}
    (h : s.topicOfStep? steps e = some topic) :
    s.linesOfStep steps settings e = s.topicLines settings topic := by
  rw [topicOfStep?] at h
  rw [linesOfStep]
  rcases hname : s.field e "name" with f | name
  · rw [hname] at h
    cases h
  · rw [hname] at h
    exact stepLines_of_topicOf? h

/-- A step that has lines demonstrates a topic. -/
theorem exists_topic_of_lines {e : Record} {lines : List String}
    (h : s.linesOfStep steps settings e = (.ok lines, t)) :
    ∃ topic, s.topicOfStep? steps e = some topic := by
  rw [linesOfStep] at h
  rw [topicOfStep?]
  split at h
  · cases h
  · rename_i name hname
    rw [stepLines] at h
    rw [hname]
    dsimp only
    rw [topicOf?]
    split at h
    · cases h
    · cases h
    · rename_i hfound
      rw [hfound]
      split at h
      · cases h
      · rename_i topic htopic
        exact ⟨topic, htopic⟩

/-! ### Runs

A run is put together from its stretches. Where a listener changes the settings, the dictionary of
the settings is written to, and this is neither the list nor the iterator.
-/

variable {listener : Listener}

/-- Emitting lines leaves the list and the iterator: there are no changes to be made, or these are
made to a record with a dictionary. -/
theorem leaves_emitLines (hl : s.get? l = some (.list items))
    (ha : s.get? a = some (.iterator it))
    (h : listener.mutations ≠ [] → s.KeepsAttributes settings) (k : Nat) (lines : List String) :
    Leaves l a s (emitLines listener settings s k lines).store := by
  by_cases hmutations : listener.mutations = []
  · rw [store_emitLines hmutations]
    exact ⟨rfl, rfl⟩
  · have hchanged := (@changesAttributes_emitLines s settings listener (h hmutations) k lines).get?_eq
    exact ⟨(hchanged l _ hl rfl).trans hl.symm, (hchanged a _ ha rfl).trans ha.symm⟩

/-- **Going through steps.** The list and the iterator are left alone beside the sums, if this holds
of each step that is started. -/
theorem history_runSteps (hl : s.get? l = some (.list items)) (ha : s.get? a = some (.iterator it))
    (k : Nat) (selected : List Record)
    (h : ∀ x ∈ stretches listener steps settings s k selected, ∀ topic,
      x.store.topicOfStep? steps x.step = some topic →
        x.store.Undisturbed l a settings topic ∧
          (listener.mutations ≠ [] →
            (x.store.topicLines settings topic).2.KeepsAttributes settings)) :
    History l a s (sumsOf a steps settings (stretches listener steps settings s k selected))
      (runSteps listener steps settings s k selected).store := by
  have hne := ne_of_list_of_iterator hl ha
  induction selected generalizing s k items it with
  | nil => exact .refl
  | cons e rest ih =>
    rw [stretches, runSteps]
    rw [stretches] at h
    rcases hannounced : listener.announce s e with f | announced
    · exact .refl
    simp only [hannounced] at h ⊢
    have hfirst (htopics : ∀ topic, s.topicOfStep? steps e = some topic →
        s.Undisturbed l a settings topic) := history_linesOfStep hl htopics
    rcases hlines : s.linesOfStep steps settings e with ⟨f | lines, t⟩
    · simp only [hlines, List.forall_mem_singleton] at h
      rw [hlines] at hfirst
      simpa only [sumsOf, List.flatMap_singleton] using hfirst fun topic ht => (h topic ht).1
    simp only [hlines, List.forall_mem_cons] at h ⊢
    obtain ⟨hstep, hlater⟩ := h
    rw [hlines] at hfirst
    have hst := hfirst fun topic ht => (hstep topic ht).1
    obtain ⟨longer, hlonger, -⟩ := hst.exists_list hl hne
    obtain ⟨moved, hmoved⟩ := hst.exists_iterator ha
    have hkeeps (hmutations : listener.mutations ≠ []) : t.KeepsAttributes settings := by
      obtain ⟨topic, htopic⟩ := exists_topic_of_lines hlines
      have hkept := (hstep topic htopic).2 hmutations
      rwa [← linesOfStep_of_topicOfStep? htopic, hlines] at hkept
    have hleaves := leaves_emitLines hlonger hmoved hkeeps k lines
    have hemitted := hst.aside hleaves.1 hleaves.2
    rcases houtcome : (emitLines listener settings t k lines).outcome with f | done
    · simpa only [sumsOf, List.flatMap_singleton] using hemitted
    · rw [houtcome] at hlater
      exact hemitted.trans (ih (hleaves.1.trans hlonger) (hleaves.2.trans hmoved) _ hlater)

/-- **A run** is a history, with the sums of the steps that it has started. -/
theorem history_run (hl : s.get? l = some (.list items)) (ha : s.get? a = some (.iterator it))
    {only : Value}
    (h : ∀ t topic, Shows listener steps settings only s t topic →
      t.Undisturbed l a settings topic ∧
        (listener.mutations ≠ [] → (t.topicLines settings topic).2.KeepsAttributes settings)) :
    History l a s (sumsOf a steps settings (s.started listener steps settings only))
      (s.run listener steps settings only).store := by
  simp only [Shows, started] at h
  rw [started, run]
  rcases hselected : s.selectSteps steps only with f | selected
  · exact .refl
  · rw [hselected] at h
    exact history_runSteps hl ha 0 selected fun x hx topic htopic =>
      h x.store topic ⟨x, hx, rfl, htopic⟩

/-! ### Persons that compose their names

If all persons compose their names then telling a line about one changes nothing, and the condition
on topics is met.
-/

/-- A person that composes its name changes nothing, and any other topic is undisturbed anyway. -/
theorem undisturbed_of_composesName
    (h : ∀ p, s.lookup settings "person" = .ok p → s.ComposesName p) (topic : Topic) :
    s.Undisturbed l a settings topic := by
  intro _
  rw [topicLines]
  rcases hperson : s.lookup settings "person" with f | p
  · exact .refl l a s
  · have hstore := snd_personLine (h p hperson) callLevels
    show Leaves l a s (s.personLine p).2
    rw [hstore]
    exact .refl l a s

/-- Iterators that move change no attributes. -/
theorem MovesWithin.keepsAttributes {W : Set Addr} (h : s.MovesWithin W t)
    (hs : s.KeepsAttributes settings) : t.KeepsAttributes settings := by
  obtain ⟨b, r, entries, rfl, hr, hentries⟩ := hs
  have hsame {b : Addr} {c : Cell} (hb : s.get? b = some c) (hc : ∀ it, c ≠ .iterator it) :
      t.get? b = some c := by
    rcases h.cell b with hsame | ⟨-, it, -, hit, -⟩
    · exact hsame.trans hb
    · exact absurd (Option.some.inj (hb.symm.trans hit)) (hc it)
  exact ⟨b, r, entries, rfl, hsame hr fun _ => nofun, hsame hentries fun _ => nofun⟩

/-- Settings that keep their attributes in a dictionary do so whenever a step has been started. -/
theorem keepsAttributes_of_mem_stretches (hs : s.KeepsAttributes settings) (k : Nat)
    (selected : List Record)
    (h : ∀ x ∈ stretches listener steps settings s k selected,
      x.store.Introducible settings (x.store.topicOfStep? steps x.step)) :
    ∀ x ∈ stretches listener steps settings s k selected,
      (x.store.linesOfStep steps settings x.step).2.KeepsAttributes settings := by
  induction selected generalizing s k with
  | nil => exact List.forall_mem_nil _
  | cons e rest ih =>
    rw [stretches] at h ⊢
    rcases hannounced : listener.announce s e with f | announced
    · exact List.forall_mem_nil _
    simp only [hannounced] at h ⊢
    rcases hlines : s.linesOfStep steps settings e with ⟨f | lines, t⟩
    · simp only [hlines, List.forall_mem_singleton] at h ⊢
      have honly := (movesWithin_linesOfStep h).keepsAttributes hs
      rwa [hlines] at honly
    simp only [hlines, List.forall_mem_cons] at h ⊢
    have hfirst := (movesWithin_linesOfStep h.1).keepsAttributes hs
    rw [hlines] at hfirst
    refine ⟨hfirst, ?_⟩
    have hemitted := (@changesAttributes_emitLines t settings listener hfirst k lines).keeps
    rcases houtcome : (emitLines listener settings t k lines).outcome with f | done
    · exact List.forall_mem_nil _
    · rw [houtcome] at h
      exact ih hemitted _ h.2

theorem mem_sumsOf {started : List Stretch} :
    t ∈ sumsOf a steps settings started ↔
      ∃ x ∈ started, x.store = t ∧ t.topicOfStep? steps x.step = some .sum ∧
        t.lookup settings "numbers" = .ok (.ref a) := by
  rw [sumsOf, List.mem_flatMap]
  refine exists_congr fun x => and_congr_right fun _ => ?_
  rw [mem_sumsIn]
  constructor
  · rintro ⟨rfl, htopic⟩
    exact ⟨rfl, htopic⟩
  · rintro ⟨rfl, htopic⟩
    exact ⟨rfl, htopic⟩

end Store

namespace Session

variable {σ : Session} {l a : Addr} {items : List Value} {it : Iterator}

/-! ### Operations

By cases on the operation. What it builds first is out of the way, because the list and the iterator
are there already.
-/

/-- The sums of an iterator that an operation makes, in their sequence. They are listed by the stores
in which they are made. -/
def sums (σ : Session) (a : Addr) : Operation → List Store
  | .sum numbers =>
    match numbers.build σ.vars σ.store with
    | .ok (v, s) => if v = .ref a then [s] else []
    | .error _ => []
  | .stepLines name settings =>
    let parts : Building (Value × Value) := do
      let name ← name.build σ.vars
      return (name, ← σ.buildSettings settings)
    match parts σ.store with
    | .ok ((v, w), s) => s.sumsIn a w (s.topicOf? σ.steps v)
    | .error _ => []
  | .allLines settings =>
    match (settings.getD .null).build σ.vars σ.store with
    | .ok (v, s) =>
      let used := s.orDefault v
      Store.sumsOf a σ.steps used.1 (used.2.started (.plain []) σ.steps used.1 .null)
    | .error _ => []
  | .run request =>
    let parts : Building (Value × Value) := do
      let settings ← σ.buildSettings request.settings
      return (settings, ← request.only.build σ.vars)
    match parts σ.store with
    | .ok ((settings, only), s) =>
      Store.sumsOf a σ.steps settings
        (s.started (request.listener σ.vars) σ.steps settings only)
    | .error _ => []
  | _ => []

/-- The sums that operations make one after the other. -/
def allSums (σ : Session) (a : Addr) : List Operation → List Store
  | [] => []
  | op :: rest => σ.sums a op ++ (σ.perform op).2.allSums a rest

/-- **The sums of an operation** are those of the values that it adds up, if these are the
iterator. -/
theorem mem_sums_iff {op : Operation} {s : Store} : s ∈ σ.sums a op ↔ σ.Sums op s (.ref a) := by
  constructor
  · intro h
    cases op with
    | sum numbers =>
      simp only [sums] at h
      split at h
      · rename_i v t hbuilt
        split at h
        · rename_i hv
          subst hv
          cases List.mem_singleton.1 h
          exact .sum hbuilt
        · cases h
      · cases h
    | stepLines name settings =>
      simp only [sums] at h
      split at h
      · rename_i v w t hbuilt
        obtain ⟨rfl, htopic, hnumbers⟩ := Store.mem_sumsIn.1 h
        exact .step (.stepLines hbuilt htopic) hnumbers
      · cases h
    | allLines settings =>
      simp only [sums] at h
      split at h
      · rename_i v t hbuilt
        obtain ⟨x, hx, hstore, htopic, hnumbers⟩ := Store.mem_sumsOf.1 h
        exact .step (.allLines hbuilt ⟨x, hx, hstore, htopic⟩) hnumbers
      · cases h
    | run request =>
      simp only [sums] at h
      split at h
      · rename_i settings only t hbuilt
        obtain ⟨x, hx, hstore, htopic, hnumbers⟩ := Store.mem_sumsOf.1 h
        exact .step (.run hbuilt ⟨x, hx, hstore, htopic⟩) hnumbers
      · cases h
    | _ => cases h
  · intro h
    cases h with
    | sum hbuilt => simp only [sums, hbuilt, if_true, List.mem_singleton]
    | step hshown hnumbers =>
      cases hshown with
      | stepLines hbuilt htopic =>
        simp only [sums, hbuilt]
        exact Store.mem_sumsIn.2 ⟨rfl, htopic, hnumbers⟩
      | allLines hbuilt hshown =>
        obtain ⟨x, hx, hstore, htopic⟩ := hshown
        simp only [sums, hbuilt]
        exact Store.mem_sumsOf.2 ⟨x, hx, hstore, htopic, hnumbers⟩
      | run hbuilt hshown =>
        obtain ⟨x, hx, hstore, htopic⟩ := hshown
        simp only [sums, hbuilt]
        exact Store.mem_sumsOf.2 ⟨x, hx, hstore, htopic, hnumbers⟩

/-- An operation that does nothing to a list and an iterator but append to the list and sum the
iterator.

* The list may be appended to, and anything may be summed.
* Steps may be demonstrated, with changes of the settings or without, as long as telling a full name
  leaves the list and the iterator as they are. If there are changes to be made, the settings keep
  their attributes in a dictionary.
* Anything else may be done that leaves both as they are. -/
inductive Interleaves (l a : Addr) (σ : Session) : Operation → Prop
  | append {target v : Literal} {s : Store}
    (built : target.build σ.vars σ.store = .ok (.ref l, s)) : Interleaves l a σ (.append target v)
  | sum (numbers : Literal) : Interleaves l a σ (.sum numbers)
  | stepLines {name : Literal} {settings : Option Literal}
    (undisturbed : ∀ s w topic, σ.Demonstrates (.stepLines name settings) s w topic →
      s.Undisturbed l a w topic) : Interleaves l a σ (.stepLines name settings)
  | allLines {settings : Option Literal}
    (undisturbed : ∀ s w topic, σ.Demonstrates (.allLines settings) s w topic →
      s.Undisturbed l a w topic) : Interleaves l a σ (.allLines settings)
  | run {request : RunRequest}
    (undisturbed : ∀ s w topic, σ.Demonstrates (.run request) s w topic → s.Undisturbed l a w topic)
    (keeps : request.mutations ≠ [] → ∀ s w topic, σ.Demonstrates (.run request) s w topic →
      (s.topicLines w topic).2.KeepsAttributes w) : Interleaves l a σ (.run request)
  | aside {op : Operation} (nothing : σ.sums a op = [])
    (leaves : Store.Leaves l a σ.store (σ.perform op).2.store) : Interleaves l a σ op

/-- A run in which persons compose their names does nothing else to a list and an iterator. -/
theorem Interleaves.run_of_composesName {request : RunRequest}
    (hpersons : ∀ s p, σ.Introduces (.run request) s p → s.ComposesName p)
    (hkeeps : request.mutations ≠ [] → ∀ settings only s, (do
      let settings ← σ.buildSettings request.settings
      return (settings, ← request.only.build σ.vars) : Building (Value × Value)) σ.store =
        .ok ((settings, only), s) → s.KeepsAttributes settings) :
    σ.Interleaves l a (.run request) := by
  refine .run (fun s w topic hshown hperson => ?_) fun hmutations s w topic hshown => ?_
  · subst hperson
    exact Store.undisturbed_of_composesName (fun p hp => hpersons s p (.step hshown hp)) .person rfl
  · cases hshown with
    | @run _ _ only u _ _ built shown =>
      obtain ⟨x, hx, rfl, htopic⟩ := shown
      rw [← Store.linesOfStep_of_topicOfStep? htopic]
      have hkept := hkeeps hmutations w only u built
      have hpersons (y : Stretch) (hy : y ∈ u.started (request.listener σ.vars) σ.steps w only) :
          y.store.Introducible w (y.store.topicOfStep? σ.steps y.step) := by
        intro htopic p hp
        exact hpersons y.store p (.step (.run built ⟨y, hy, rfl, htopic⟩) hp)
      rw [Store.started] at hx hpersons
      split at hx
      · cases hx
      · rename_i selected hselected
        rw [hselected] at hpersons
        exact Store.keepsAttributes_of_mem_stretches hkept 0 selected hpersons x hx

/-- The same of operations one after the other. -/
def Interleaved (l a : Addr) (σ : Session) : List Operation → Prop
  | [] => True
  | op :: rest => σ.Interleaves l a op ∧ (σ.perform op).2.Interleaved l a rest

section History

open Store (History)

variable (hl : σ.store.get? l = some (.list items)) (ha : σ.store.get? a = some (.iterator it))

include hl ha

/-- What is built is out of the way. -/
theorem history_of_extends {s t : Store} (hmade : σ.store.Extends s) {sums : List Store}
    (h : s.get? l = some (.list items) → s.get? a = some (.iterator it) → History l a s sums t) :
    History l a σ.store sums t := by
  have hs := (hmade.leaves hl ha).history
  exact hs.trans (h (hmade.get?_of_some hl) (hmade.get?_of_some ha))

/-- The one operation that makes the list longer. -/
theorem history_append {target v : Literal} {s : Store}
    (hbuilt : target.build σ.vars σ.store = .ok (.ref l, s)) :
    History l a σ.store [] (σ.perform (.append target v)).2.store := by
  have hparts := @confined_append σ target v
  simp only [perform, building]
  split
  · exact .refl
  · rename_i parts t hok
    obtain ⟨operation, w⟩ := parts
    have hst := hparts.extends_of_ok _ _ t hok
    obtain ⟨v', s', hbuilt', hok⟩ := Building.bind_eq_ok hok
    cases hbuilt.symm.trans hbuilt'
    obtain ⟨operation', s'', hread, hok⟩ := Building.bind_eq_ok hok
    obtain ⟨w', t', hw, hok⟩ := Building.bind_eq_ok hok
    cases hok
    have hlist : s.get? l = some (.list items) :=
      ((Literal.confined_build (P := fun K => Referring.Avoids K σ.vars) (fun _ hK => hK)
        target).extends_of_ok _ _ s hbuilt).get?_of_some hl
    have hoperation : operation = .operation (.ref l) "append" := by
      simp only [Building.read, Store.lookup_append hlist] at hread
      cases hread
      rfl
    subst hoperation
    refine history_of_extends hl ha hst fun hl ha => ?_
    have hcalled := Store.call_append hl w
    have hne := Store.ne_of_list_of_iterator hl ha
    show History l a t [] (t.call _ [w]).2
    rw [hcalled]
    exact .append .refl hl (Store.get?_put_self (Store.lt_of_get? hl) _)
      (Store.get?_put_of_ne hne.symm _)

/-- **One operation** is a history of the list and the iterator, with the sums that it makes. By
cases on how the operation interleaves with them. -/
theorem history_perform {op : Operation} (h : σ.Interleaves l a op) :
    History l a σ.store (σ.sums a op) (σ.perform op).2.store := by
  have hbuild (n : Literal) := Literal.confined_build (P := fun K => Referring.Avoids K σ.vars)
    (fun _ hK => hK) n
  cases h with
  | append built => exact history_append hl ha built
  | aside nothing leaves =>
    rw [nothing]
    exact leaves.history
  | sum numbers =>
    simp only [perform, building, sums]
    rcases hbuilt : numbers.build σ.vars σ.store with f | ⟨v, s⟩
    · exact .refl
    refine history_of_extends hl ha ((hbuild numbers).extends_of_ok _ v s hbuilt) fun hl _ => ?_
    by_cases hv : v = .ref a
    · simp only [if_pos hv]
      subst hv
      exact .single l a s
    · simp only [if_neg hv]
      exact (Store.leaves_sum hl hv).history
  | @stepLines name settings undisturbed =>
    simp only [perform, building, sums]
    split
    · rename_i v w s hbuilt
      rw [hbuilt]
      refine history_of_extends hl ha ((confined_named name settings).extends_of_ok _ _ s hbuilt)
        fun hl _ => ?_
      exact Store.history_stepLines hl fun topic htopic =>
        undisturbed s w topic (.stepLines hbuilt htopic)
    · rename_i f hfails
      rw [hfails]
      exact .refl
  | @allLines settings undisturbed =>
    simp only [perform, building, sums]
    rcases hbuilt : (settings.getD .null).build σ.vars σ.store with f | ⟨v, s⟩
    · exact .refl
    have hmade := ((hbuild _).extends_of_ok _ v s hbuilt).trans (s.extends_orDefault v)
    refine history_of_extends hl ha hmade fun hl ha => ?_
    show History l a _ _ (s.allLines σ.steps v).2
    rw [Store.allLines_eq_run]
    exact Store.history_run hl ha fun t topic hshown =>
      ⟨undisturbed t _ topic (.allLines hbuilt hshown), fun hchanges => absurd rfl hchanges⟩
  | @run request undisturbed keeps =>
    simp only [perform, performRun, sums]
    split
    · rename_i settings only s hbuilt
      rw [hbuilt]
      have hmade := (confined_requested request.settings request.only).extends_of_ok _ _ s hbuilt
      refine history_of_extends hl ha hmade fun hl ha => ?_
      exact Store.history_run hl ha fun t topic hshown =>
        ⟨undisturbed t settings topic (.run hbuilt hshown), fun hchanges =>
          keeps hchanges t settings topic (.run hbuilt hshown)⟩
    · rename_i f hfails
      rw [hfails]
      exact .refl

/-- **A session** is a history of the list and the iterator. By induction on the operations: the
list and the iterator are where they were when the next one is carried out, as histories take
neither away. -/
theorem history_performAll {ops : List Operation} (h : σ.Interleaved l a ops) :
    History l a σ.store (σ.allSums a ops) (σ.performAll ops).2.store := by
  have hne := Store.ne_of_list_of_iterator hl ha
  induction ops generalizing σ items it with
  | nil => exact .refl
  | cons op rest ih =>
    have hfirst := history_perform hl ha h.1
    obtain ⟨longer, hlonger, -⟩ := hfirst.exists_list hl hne
    obtain ⟨moved, hmoved⟩ := hfirst.exists_iterator ha
    exact hfirst.trans (ih hlonger hmoved h.2)

end History

open Store (History)

/-- **Each element is summed once at most.** Let a session have a list and a new iterator over it, and
let its operations do nothing to them but append to the list and sum the iterator. Then the list only
gets longer, and what sums have taken from the iterator, one after the other, is a beginning of it.

Of each sum it is known, with those before and behind it and the list as it is then, that

* what has been taken before, and what the sum takes then, is a beginning of the list;
* if the sum fails, then it has taken the elements up to the one that could not be added, and that
  one last;
* if it does not, then it is the sum of what it has taken. This is all that was left, if it is the
  first such sum. All later ones take nothing and are zero. -/
theorem summed_once (σ : Session) (ops : List Operation) (l a : Addr) (items : List Value)
    (hlist : σ.store.get? l = some (.list items))
    (hiterator : σ.store.get? a = some (.iterator (.overList l 0)))
    (hops : σ.Interleaved l a ops) :
    let sums := σ.allSums a ops
    ∃ longer, (σ.performAll ops).2.store.get? l = some (.list longer) ∧ items <+: longer ∧
      History.took a sums <+: longer ∧
      ∀ before c after, sums = before ++ c :: after → ∃ now, c.get? l = some (.list now) ∧
        now <+: longer ∧ History.took a before ++ c.taken (.ref a) <+: now ∧
        (∀ f, (c.sum (.ref a)).1 = .error f → c.FailsAt (c.taken (.ref a)) f) ∧
        ∀ n, (c.sum (.ref a)).1 = .ok n →
          c.sumFrom (.int 0) (c.taken (.ref a)) = .ok n ∧
          ((∀ d ∈ before, ∃ f, (d.sum (.ref a)).1 = .error f) →
            History.took a before ++ c.taken (.ref a) = now) ∧
          ∀ d ∈ after, (d.sum (.ref a)).1 = .ok (.int 0) ∧ d.taken (.ref a) = [] := by
  intro sums
  have hhistory := history_performAll hlist hiterator hops
  obtain ⟨longer, hlonger, hprefix, htook, -⟩ := hhistory.takes hlist hiterator
  refine ⟨longer, hlonger, hprefix, htook, fun before c after hsums => ?_⟩
  have hcut := hhistory
  rw [show σ.allSums a ops = before ++ c :: after from hsums] at hcut
  obtain ⟨now, hnow, hlater, hcall⟩ := hcut.call hlist hiterator
  exact ⟨now, hnow, hlater longer hlonger, hcall⟩

/-- A list that is appended to three times. The first sum fails at a text. The second one, in a run that
changes the settings, comes to the end, and the last one finds nothing although the list has got
another element. -/
theorem summed_once_of_text :
    let σ := (Session.performAll {} [
      .bind "l" (.list [.int 1, .text "a", .int 2]), .bind "i" (.iterator (.named "l")),
      .bind "c" (.settings [("numbers", .named "i")])]).2
    let request : RunRequest :=
      { settings := some (.named "c"), only := .text "sum", mutations := [⟨0, "count", .int 3⟩] }
    let ops : List Operation :=
      [.append (.named "l") (.int 3), .sum (.named "i"), .append (.named "l") (.bool true),
        .run request, .append (.named "l") (.int 4), .sum (.named "i")]
    let sums := σ.allSums 6 ops
    sums.map (fun s => (s.sum (.ref 6)).1) =
        [.error (.notAddable .int .text), .ok (.int 6), .ok (.int 0)] ∧
      sums.map (fun s => s.taken (.ref 6)) =
        [[.int 1, .text "a"], [.int 2, .int 3, .bool true], []] ∧
      ∃ longer, (σ.performAll ops).2.store.get? 5 = some (.list longer) ∧
        History.took 6 sums <+: longer := by
  intro σ request ops sums
  have hlist (τ : Session) (h : τ.vars.get? "l" = some (.ref 5)) (v : Literal) :
      τ.Interleaves 5 6 (.append (.named "l") v) :=
    .append (Literal.build_named rfl h τ.store)
  have hrun : (((σ.perform (.append (.named "l") (.int 3))).2.perform
      (.sum (.named "i"))).2.perform (.append (.named "l") (.bool true))).2.Interleaves 5 6
      (.run request) := by
    generalize hτ : (((σ.perform (.append (.named "l") (.int 3))).2.perform
      (.sum (.named "i"))).2.perform (.append (.named "l") (.bool true))).2 = τ
    have hvars : τ.vars.get? "c" = some (.ref 10) := by
      rw [← hτ]
      decide +kernel
    have htopics : ∀ x ∈ τ.store.started (request.listener τ.vars) τ.steps (.ref 10) (.text "sum"),
        x.store.topicOfStep? τ.steps x.step = some .sum := by
      rw [← hτ]
      decide +kernel
    have hrecord : τ.store.get? 10 = some (.record ⟨.settings, 9⟩) := by
      rw [← hτ]
      decide +kernel
    have hentries : τ.store.get? 9 =
        some (.dict (.ofNames (Settings.withDefaults (.ref 6) (.ref 8)))) := by
      rw [← hτ]
      decide +kernel
    have hparts {settings only : Value} {s : Store} (hbuilt : (do
        let settings ← τ.buildSettings request.settings
        return (settings, ← request.only.build τ.vars) : Building (Value × Value)) τ.store =
          .ok ((settings, only), s)) : settings = .ref 10 ∧ only = .text "sum" ∧ s = τ.store := by
      obtain ⟨v, t, hv, hbuilt⟩ := Building.bind_eq_ok hbuilt
      cases (Literal.build_named rfl hvars τ.store).symm.trans hv
      cases hbuilt
      exact ⟨rfl, rfl, rfl⟩
    refine .run_of_composesName (fun s p hasked => ?_) fun _ settings only s hbuilt => ?_
    · cases hasked with
      | step shown _ =>
        cases shown with
        | run built shown =>
          obtain ⟨rfl, rfl, rfl⟩ := hparts built
          obtain ⟨x, hx, rfl, htopic⟩ := shown
          cases (htopics x hx).symm.trans htopic
    · obtain ⟨rfl, -, rfl⟩ := hparts hbuilt
      exact ⟨10, _, _, rfl, hrecord, hentries⟩
  obtain ⟨longer, hlonger, -, htook, -⟩ := summed_once σ ops 5 6 [.int 1, .text "a", .int 2]
    (by decide +kernel) (by decide +kernel)
    ⟨hlist _ rfl _, .sum _, hlist _ (by decide +kernel) _, hrun, hlist _ (by decide +kernel) _, .sum _, trivial⟩
  exact ⟨by decide +kernel, by decide +kernel, longer, hlonger, htook⟩

end Session

end Walkthrough
