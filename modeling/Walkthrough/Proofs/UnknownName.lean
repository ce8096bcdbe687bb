import Walkthrough.Proofs.CatalogueIntegrity
import Walkthrough.Proofs.InitialCatalogue
import Walkthrough.Proofs.Movement

/-!
# Unknown names

A step is asked for by a name. The name is unknown if no step of the catalogue has it, and also if a
step has it but nothing is demonstrated under it. Then this is reported, with the name, and nothing
has been read from the settings.

That an unknown name is reported in no other case is the larger part of this module: everything that
a topic does is gone through, and none of it fails for a name. There are two exceptions, and they are
the reason why the statements have the shape that they have. A person may have been given an
operation of its own for its full name, and that operation may look for a name in vain, such as a
key in a dictionary. And looking for the step may itself come to nothing, as a step may have lost
its name, and names may hold each other too deep to be compared; that is a fault of its own, before
anything is read from the settings, and not an unknown name.

## How the cases are kept apart

That an outcome is no unknown name is a property of one outcome, and is closed under doing one thing
after another. It is the condition on faults that `Agree` carries, with the same outcome on both
sides, so that what has been shown about questions in two stores applies here as well, with the
store compared with itself.

Apart from looking up the lines of a step, an unknown name can come from a call only, which looks
for something else in vain. So a full name is spoken of by equivalences: a line about a person fails
for a name if and only if its full name does.

## Main definitions

* `Nameless` — an outcome that is no unknown name
* `Action.Nameless` — an action that never comes to one
* `Store.Misses`, `Store.Hits` — the name is that of no step, or of one
* `Listener.Nameless` — a listener that does not fail for a name

## Main results

* `Store.nameless_fullName` — a person that composes its name
* `Store.stepLines_eq_unknownName_iff` — when a name is unknown
* `Store.stepLines_of_unusable` — and that nothing is read from the settings then
* `Store.nameless_run` — runs
-/

namespace Walkthrough

variable {α β : Type}

/-! ### Faults that tell no name

The category of a fault is known from its constructor, and one of them has the category of names.
-/

/-- A misuse of an operation is of another category. -/
theorem Misuse.category_ne_name (m : Misuse) : m.category ≠ .name := by
  have hformat (f : Misformat) : f.category ≠ .name := by
    cases f <;> exact nofun
  cases m with
  | format f => exact hformat f
  | notFinite isNan _ => cases isNan <;> exact nofun
  | _ => exact nofun

/-- Among the sorts of mistakes, unknown names are one of their own. -/
theorem Fault.category_eq_name_iff {f : Fault} :
    f.category = .name ↔ ∃ name, f = .unknownName name := by
  constructor
  · intro h
    cases f with
    | unknownName name => exact ⟨name, rfl⟩
    | misuse m => exact absurd h m.category_ne_name
    | _ => cases h
  · rintro ⟨name, rfl⟩
    rfl

/-- An outcome that is no unknown name. -/
abbrev Nameless (x : Except Fault α) : Prop := Agree Fault.Nameless x x

theorem Nameless.ne {x : Except Fault α} (h : Nameless x) (name : Value) :
    x ≠ .error (.unknownName name) := h.fault _

theorem nameless_of_ne {x : Except Fault α} (h : ∀ name, x ≠ .error (.unknownName name)) :
    Nameless x := by
  refine ⟨rfl, fun f hf => ?_⟩
  cases f with
  | unknownName name => exact h name hf
  | _ => trivial

theorem Nameless.map {x : Except Fault α} (h : Nameless x) (f : α → β) : Nameless (x.map f) := by
  cases x with
  | error fault => exact .error (h.fault fault rfl)
  | ok a => exact .ok (f a)

namespace Number

theorem nameless_toFloat (a : Number) : Nameless a.toFloat := by
  cases a with
  | int n =>
    unfold toFloat
    dsimp only
    split
    · exact .ok _
    · exact .error trivial
  | real x => exact .ok x

theorem nameless_add (a b : Number) : Nameless (a.add b) := by
  have hreal : Nameless (do return real ((← a.toFloat) + (← b.toFloat)) : Except Fault Number) :=
    a.nameless_toFloat.bind fun _ _ => b.nameless_toFloat.bind fun _ _ => .ok _
  cases a <;> cases b
  · exact .ok _
  all_goals exact hreal

theorem nameless_sentence (n : Number) : Nameless n.sentence := by
  cases n with
  | int n => exact displayInt_agree n
  | real x => exact .ok _

end Number

namespace Store

variable {s : Store}

/-- A store is like itself, so that questions can be asked about a single one. -/
theorem alike_self (s : Store) : Alike ∅ s s := ⟨Referring.avoids_empty s, fun _ _ => rfl⟩

theorem nameless_field (r : Record) (name : String) : Nameless (s.field r name) :=
  s.alike_self.field_agree (Referring.avoids_empty r) name

/-- Looking for a step may come to nothing or fail, but it does not report an unknown name by
itself. -/
theorem nameless_findStep (name : Value) (steps : List Record) :
    Nameless (s.findStep name steps) :=
  s.alike_self.findStep_agree (Referring.avoids_empty name) (Referring.avoids_empty steps)

theorem nameless_sentence (v : Value) (levels : Nat) : Nameless (s.sentence v levels) := by
  unfold sentence
  split
  · exact .ok _
  · exact s.alike_self.display_agree (Referring.avoids_empty v)

theorem nameless_lookup (v : Value) (name : String) : Nameless (s.lookup v name) := by
  unfold lookup
  split
  · exact .ok _
  · split <;> exact .error trivial

theorem nameless_integer (v : Value) : Nameless (s.integer v) := by
  unfold integer
  split
  · exact .ok _
  · exact .ok _
  · exact .error trivial

/-! ### Sums

Adding up reads elements and adds numbers. What may go wrong is of other sorts.
-/

theorem nameless_ahead (it : Iterator) : Nameless (it.ahead s) := by
  cases it with
  | broken => exact .error trivial
  | overList source next =>
    unfold Iterator.ahead
    dsimp only
    split <;> exact .ok _
  | overKeys source size next =>
    unfold Iterator.ahead
    dsimp only
    split
    · split
      · exact .ok _
      · exact .error trivial
    · exact .ok _
  | overRange _ _ _ | overItems _ _ _ | finished _ => exact .ok _

theorem nameless_elements (v : Value) : Nameless (s.elements v) := by
  unfold elements
  split
  · exact .ok _
  · exact .ok _
  · split
    · exact .ok _
    · exact .ok _
    · exact .ok _
    · exact nameless_ahead _
    · exact .error trivial

theorem nameless_sumFrom (total : Number) (items : List Value) :
    Nameless (s.sumFrom total items) := by
  induction items generalizing total with
  | nil => exact .ok total
  | cons v rest ih =>
    have hadd : Nameless (s.addElement total v) := by
      unfold addElement
      split
      · exact total.nameless_add _
      · exact .error trivial
    rw [sumFrom]
    split
    · exact ih _
    · rename_i f hf
      exact .error (hadd.fault f hf)

/-- **Sums** do not fail for a name. -/
theorem nameless_sumLine (v : Value) : Nameless (s.sumLine v).1 := by
  have hsum : Nameless (s.sum v).1 := by
    unfold sum
    split
    · rename_i f hf
      exact .error ((nameless_elements v).fault f hf)
    · exact nameless_sumFrom _ _
  exact hsum.bind fun n _ => n.nameless_sentence.map _

end Store

/-! ### Full names

As for stillness, actions that never come to an unknown name are an instance, found along their
parts.
-/

namespace Action

/-- An action that comes to no unknown name. It is about all stores, as the instances are found
without knowing in which one the action is carried out. -/
class Nameless (act : Action α) : Prop where
  nameless : ∀ s, Walkthrough.Nameless (act.run s).1

instance nameless_pure (x : α) : Nameless (pure x : Action α) := ⟨fun _ => .ok x⟩

instance nameless_misuse (m : Misuse) : Nameless (misuse m : Action α) := ⟨fun _ => .error trivial⟩

theorem nameless_read {f : Store → Except Fault α} (h : ∀ s, Walkthrough.Nameless (f s)) :
    Nameless (read f) := ⟨h⟩

instance nameless_bind {act : Action α} {f : α → Action β} [hact : Nameless act]
    [hf : ∀ x, Nameless (f x)] : Nameless (act >>= f) where
  nameless s := by
    have hfault := hact.nameless s
    rw [run_bind]
    rcases hrun : act.run s with ⟨fault | x, t⟩
    · rw [hrun] at hfault
      exact .error (hfault.fault fault rfl)
    · exact (hf x).nameless t

instance nameless_ite {p : Prop} [Decidable p] {act other : Action α} [Nameless act]
    [Nameless other] : Nameless (if p then act else other) := by
  split <;> infer_instance

instance nameless_kindOf (v : Value) : Nameless (kindOf v) := nameless_read fun _ => .ok _

instance nameless_askedKind (v : Value) : Nameless (askedKind v) := by
  unfold askedKind
  split <;> infer_instance

instance nameless_checkArity (declarer asked : Kind) (name : String) (given : Nat) :
    Nameless (checkArity declarer asked name given) := by
  unfold checkArity
  infer_instance

instance nameless_checkArguments (k : Kind) (operation : String) (given : Nat) :
    Nameless (checkArguments k operation given) := by
  unfold checkArguments
  infer_instance

instance nameless_ofRecord (k : Kind) (args : List Value) (levels : Nat) :
    Nameless (ofRecord k fullNameAttribute args levels) := by
  have hcompose (v : Value) : Nameless (read fun s => s.composeFullName v levels) :=
    nameless_read fun s => (s.nameless_lookup v _).bind fun _ _ => (s.nameless_sentence _ _).bind
      fun _ _ => (s.nameless_lookup v _).bind fun _ _ => (s.nameless_sentence _ _).bind
      fun _ _ => .ok _
  unfold ofRecord fullNameAttribute
  refine @nameless_bind _ _ _ _ _ fun _ => ?_
  split
  · infer_instance
  · contradiction
  · contradiction
  · contradiction
  · infer_instance

/-- A person that is no record has nothing to compose a full name from. -/
instance nameless_perform (v : Value) : Nameless (perform .person v fullNameAttribute []) := by
  show Nameless (performPlain .person v "get_full_name" [])
  unfold performPlain
  refine @nameless_bind _ _ _ _ (nameless_read fun _ => .ok _) fun c => ?_
  split
  all_goals try contradiction
  all_goals exact nameless_pure _

instance nameless_ofKind (k : Kind) : Nameless (ofKind k fullNameAttribute []) := nameless_pure _

/-- Only composing a full name goes by the levels that are left. -/
theorem ofRecord_eq_of_ne {operation : String} (h : operation ≠ fullNameAttribute) (k : Kind)
    (args : List Value) (levels levels' : Nat) :
    ofRecord k operation args levels = ofRecord k operation args levels' := by
  unfold ofRecord
  congr 1
  funext _
  split
  · exact absurd rfl h
  all_goals rfl

theorem ofRecord_eq_unknownName_iff {k : Kind} {operation : String} {args : List Value} {s : Store}
    {n : Value} (levels levels' : Nat) :
    ((ofRecord k operation args levels).run s).1 = .error (.unknownName n) ↔
      ((ofRecord k operation args levels').run s).1 = .error (.unknownName n) := by
  by_cases h : operation = fullNameAttribute
  · subst h
    exact iff_of_false (((nameless_ofRecord k args levels).nameless s).ne n)
      (((nameless_ofRecord k args levels').nameless s).ne n)
  · rw [ofRecord_eq_of_ne h k args levels levels']

/-- Whether a call fails for a name does not depend on how many levels are left. By induction on how
deep calls of calls go. -/
theorem callWithin_eq_unknownName_iff {callee : Value} {args : List Value} {s : Store} {n : Value}
    (fuel levels levels' : Nat) :
    ((callWithin fuel levels callee args).run s).1 = .error (.unknownName n) ↔
      ((callWithin fuel levels' callee args).run s).1 = .error (.unknownName n) := by
  induction fuel generalizing levels levels' callee args with
  | zero => rfl
  | succ fuel ih =>
    unfold callWithin
    split
    · exact ofRecord_eq_unknownName_iff _ _
    · exact ofRecord_eq_unknownName_iff _ _
    · rfl
    · exact ih _ _
    · rfl
    · cases args with
      | nil => rfl
      | cons v args =>
        have hkind : (kindOf v).run s = (.ok (s.kind v), s) := rfl
        simp only [run_bind, hkind]
        split
        · exact ih _ _
        · rfl
    · rfl
    · rfl

end Action

namespace Store

variable {s : Store}

theorem nameless_call_of_not_isCallable {w : Value} (h : w.isCallable = false)
    (args : List Value) : Nameless (s.call w args).1 := by
  cases w with
  | operation _ _ | method _ _ _ | function _ _ | kind _ | member _ _ => cases h
  | _ => exact .error trivial

instance nameless_fullNameOperation (v : Value) : Action.Nameless (fullNameOperation v) := by
  unfold fullNameOperation
  refine @Action.nameless_bind _ _ _ _ _ fun k => @Action.nameless_bind _ _ _ _ _ fun _ => ?_
  split <;> infer_instance

/-- **A full name** is told without looking for another name, unless the person has been given
another operation for it. -/
theorem nameless_fullName {v : Value} (h : s.ComposesName v) : Nameless (s.fullName v).1 := by
  have hlookup : Nameless (s.lookup v fullNameAttribute) := nameless_lookup v _
  unfold fullName
  split
  · rename_i f hf
    exact .error (hlookup.fault f hf)
  rename_i w hw
  obtain hplain | ⟨u, hu, rfl⟩ | rfl | ⟨a, rfl⟩ := cases_of_lookup_fullName h hw
  · exact nameless_call_of_not_isCallable hplain []
  · rw [call_operation hu]
    exact (nameless_fullNameOperation u).nameless s
  · exact (Action.nameless_ofRecord .person [] callLevels).nameless s
  · exact (Action.nameless_ofRecord .person [.ref a] callLevels).nameless s

/-- Whether a full name fails for a name does not depend on how many levels are left. -/
theorem fullName_eq_unknownName_iff {v n : Value} (levels levels' : Nat) :
    (s.fullName v levels).1 = .error (.unknownName n) ↔
      (s.fullName v levels').1 = .error (.unknownName n) := by
  unfold fullName
  split
  · rfl
  · exact Action.callWithin_eq_unknownName_iff _ levels levels'

/-- A line about a person fails for a name if its full name does. -/
theorem personLine_eq_unknownName_iff {v n : Value} :
    (s.personLine v).1 = .error (.unknownName n) ↔
      (s.fullName v).1 = .error (.unknownName n) := by
  rw [fullName_eq_unknownName_iff callLevels (callLevels - 1)]
  unfold personLine
  rcases s.fullName v (callLevels - 1) with ⟨f | name, t⟩
  · constructor <;> intro h <;> cases h <;> rfl
  · have hline : Nameless (do
        let name ← t.sentence name (callLevels - 1)
        let age ← t.lookup v "age"
        return name ++ " is " ++ (← t.sentence age (callLevels - 1)) ++ " years old.") :=
      (nameless_sentence _ _).bind fun _ _ => (nameless_lookup v _).bind fun _ _ =>
        (nameless_sentence _ _).bind fun _ _ => .ok _
    exact ⟨fun h => absurd h (hline.ne n), nofun⟩

/-! ### Topics

All topics but one ask no person, and are gone through.
-/

variable {settings : Value}

/-- The topics that ask no person for its full name do not fail for a name. -/
theorem nameless_topicLines {topic : Topic} (h : topic ≠ .person) :
    Nameless (s.topicLines settings topic).1 := by
  cases topic with
  | greeting =>
    exact (nameless_lookup settings _).bind fun _ _ => (nameless_lookup settings _).bind fun _ _ =>
      .bind ((nameless_sentence _ _).bind fun _ _ => (nameless_sentence _ _).bind fun _ _ => .ok _)
        fun _ _ => .ok _
  | sum =>
    have hlookup : Nameless (s.lookup settings "numbers") := nameless_lookup settings _
    unfold topicLines
    dsimp only
    split
    · rename_i f hf
      exact .error (hlookup.fault f hf)
    · exact (nameless_sumLine _).map _
  | threshold =>
    refine (nameless_lookup settings _).bind fun count _ => .bind ?_ fun _ _ => .ok _
    unfold thresholdLine
    split
    · exact .ok _
    · exact .error trivial
  | loop =>
    exact (nameless_lookup settings _).bind fun _ _ => (nameless_integer _).bind fun _ _ => .ok _
  | person => exact absurd rfl h

/-- **The lines of a topic** fail for a name only if a person is asked for its full name, and this
does. -/
theorem topicLines_eq_unknownName_iff {topic : Topic} {n : Value} :
    (s.topicLines settings topic).1 = .error (.unknownName n) ↔
      topic = .person ∧ ∃ v, s.lookup settings "person" = .ok v ∧
        (s.fullName v).1 = .error (.unknownName n) := by
  by_cases htopic : topic = .person
  · subst htopic
    have hlookup : Nameless (s.lookup settings "person") := nameless_lookup settings _
    unfold topicLines
    dsimp only
    cases hperson : s.lookup settings "person" with
    | error f =>
      refine ⟨fun h => ?_, fun ⟨_, _, hv, _⟩ => nomatch hv⟩
      cases h
      exact absurd hperson (hlookup.ne n)
    | ok v =>
      have hline : (s.personLine v).1.map ([·]) = .error (.unknownName n) ↔
          (s.personLine v).1 = .error (.unknownName n) := by
        rcases s.personLine v with ⟨f | line, t⟩
        · constructor <;> intro h <;> cases h <;> rfl
        · exact ⟨nofun, nofun⟩
      rw [hline, personLine_eq_unknownName_iff]
      constructor
      · intro h
        exact ⟨rfl, v, rfl, h⟩
      · rintro ⟨-, w, hw, h⟩
        cases hw
        exact h
  · exact ⟨fun h => absurd h ((nameless_topicLines htopic).ne n), fun h => absurd h.1 htopic⟩

/-! ### Names of steps

A name misses a catalogue or hits a step of it, or it is a third case that a step has no name or one
that cannot be compared. The first two exclude each other.
-/

variable {steps : List Record} {name : Value}

/-- The name is that of no step: all steps have names, and these are different. -/
def Misses (s : Store) (name : Value) (steps : List Record) : Prop :=
  ∀ e ∈ steps, ∃ v, s.field e "name" = .ok v ∧ s.equal v name = .ok false

/-- The name is that of a step, and it is not that of the steps before. -/
def Hits (s : Store) (name : Value) (steps : List Record) : Prop :=
  ∃ before e after, steps = before ++ e :: after ∧ s.Misses name before ∧
    ∃ v, s.field e "name" = .ok v ∧ s.equal v name = .ok true

/-- The name is that of no step, or of one that demonstrates nothing under it. In both cases the
lines of the step are refused by the same fault, which tells the name that was asked for. -/
def Unusable (s : Store) (name : Value) (steps : List Record) : Prop :=
  s.Misses name steps ∨ s.Hits name steps ∧ ∀ topic : Topic, name ≠ .text topic.name

/-- No step is found if the name misses all of them. -/
theorem findStep_eq_none_iff : s.findStep name steps = .ok none ↔ s.Misses name steps := by
  induction steps with
  | nil => exact ⟨fun _ => nofun, fun _ => rfl⟩
  | cons e rest ih =>
    rw [Misses, List.forall_mem_cons, findStep]
    constructor
    · intro h
      obtain ⟨v, hv, h⟩ := Sorting.bind_eq_ok.1 h
      obtain ⟨found, hfound, h⟩ := Sorting.bind_eq_ok.1 h
      cases found with
      | true => cases h
      | false => exact ⟨⟨v, hv, hfound⟩, ih.1 h⟩
    · rintro ⟨⟨v, hv, hfound⟩, hrest⟩
      simp only [hv, bind, Except.bind, hfound]
      exact ih.2 hrest

/-- A step is found if the name hits one. -/
theorem hits_iff : s.Hits name steps ↔ ∃ e, s.findStep name steps = .ok (some e) := by
  constructor
  · rintro ⟨before, e, after, rfl, hbefore, he⟩
    exact ⟨e, findStep_append hbefore he⟩
  · rintro ⟨e, he⟩
    obtain ⟨before, after, hsplit, hbefore, hname⟩ := findStep_eq_some he
    exact ⟨before, e, after, hsplit, hbefore, hname⟩

/-- Whether a text is the name of a step can always be told, as long as all steps have names. -/
theorem misses_or_hits_text {t : String} (h : ∀ e ∈ steps, ∃ v, s.field e "name" = .ok v) :
    s.Misses (.text t) steps ∨ s.Hits (.text t) steps := by
  rw [← findStep_eq_none_iff, hits_iff]
  induction steps with
  | nil => exact .inl rfl
  | cons e rest ih =>
    rw [List.forall_mem_cons] at h
    obtain ⟨v, hv⟩ := h.1
    simp only [findStep, hv, bind, Except.bind, equal_to_text]
    by_cases hname : v = .text t
    · rw [decide_eq_true hname]
      exact .inr ⟨e, rfl⟩
    · rw [decide_eq_false hname]
      exact ih h.2

/-- Nothing is demonstrated under a name unless it is the text that a topic goes by. -/
theorem topic?_eq_none_iff : name.topic? = none ↔ ∀ topic : Topic, name ≠ .text topic.name := by
  cases name with
  | text t => simp only [Value.topic?, Topic.ofName?_eq_none_iff, ne_eq, Value.text.injEq]
  | _ => exact ⟨by rintro - topic ⟨⟩, fun _ => rfl⟩

theorem eq_text_of_topic? {topic : Topic} (h : name.topic? = some topic) :
    name = .text topic.name := by
  cases name with
  | text t => rw [Topic.eq_name_of_ofName? h]
  | _ => cases h

/-! ### The lines of a step -/

/-- **Unknown names** are reported whatever the settings are, and nothing has changed. -/
theorem stepLines_of_unusable (h : s.Unusable name steps) (settings : Value) :
    s.stepLines steps name settings = (.error (.unknownName name), s) := by
  obtain hmisses | ⟨hhits, htopic⟩ := h
  · simp only [stepLines, findStep_eq_none_iff.2 hmisses]
  · obtain ⟨e, he⟩ := hits_iff.1 hhits
    simp only [stepLines, he, topic?_eq_none_iff.2 htopic]

/-- **If looking for the step comes to nothing**, that is reported, and it is no unknown name. -/
theorem stepLines_of_not_hits (hmisses : ¬ s.Misses name steps) (hhits : ¬ s.Hits name steps) :
    ∃ f : Fault, f.category ≠ .name ∧ ∀ settings, s.stepLines steps name settings = (.error f, s) := by
  cases hfound : s.findStep name steps with
  | ok found =>
    cases found with
    | none => exact absurd (findStep_eq_none_iff.1 hfound) hmisses
    | some e => exact absurd (hits_iff.2 ⟨e, hfound⟩) hhits
  | error f =>
    refine ⟨f, fun hf => ?_, fun settings => by simp only [stepLines, hfound]⟩
    obtain ⟨n, rfl⟩ := Fault.category_eq_name_iff.1 hf
    exact (nameless_findStep name steps).ne n hfound

/-- **When a name is unknown.** Asking for the lines of a step fails for a name if the name of the
step is unusable; and it fails for another one only if a person that is asked for its full name
does. -/
theorem stepLines_eq_unknownName_iff {n : Value} :
    (s.stepLines steps name settings).1 = .error (.unknownName n) ↔
      n = name ∧ s.Unusable name steps ∨
        s.Hits name steps ∧ name = .text Topic.person.name ∧
          ∃ v, s.lookup settings "person" = .ok v ∧
            (s.fullName v).1 = .error (.unknownName n) := by
  constructor
  · intro h
    by_cases hunusable : s.Unusable name steps
    · rw [stepLines_of_unusable hunusable] at h
      cases h
      exact .inl ⟨rfl, hunusable⟩
    rw [Unusable, not_or, not_and] at hunusable
    obtain ⟨hmisses, htopic⟩ := hunusable
    by_cases hhits : s.Hits name steps
    · rw [← topic?_eq_none_iff] at htopic
      obtain ⟨topic, htopic⟩ := Option.ne_none_iff_exists'.1 (htopic hhits)
      obtain ⟨e, he⟩ := hits_iff.1 hhits
      simp only [stepLines, he, htopic] at h
      obtain ⟨rfl, hperson⟩ := topicLines_eq_unknownName_iff.1 h
      exact .inr ⟨hhits, eq_text_of_topic? htopic, hperson⟩
    · obtain ⟨f, hf, hlines⟩ := stepLines_of_not_hits hmisses hhits
      rw [hlines] at h
      cases h
      exact absurd rfl hf
  · rintro (⟨rfl, hunusable⟩ | ⟨hhits, rfl, hperson⟩)
    · rw [stepLines_of_unusable hunusable]
    · obtain ⟨e, he⟩ := hits_iff.1 hhits
      simp only [stepLines, he, Value.topic?, Topic.ofName?_name]
      exact topicLines_eq_unknownName_iff.2 ⟨rfl, hperson⟩

end Store

/-! ### Runs -/

/-- A listener that does not fail for a name, neither in printing an announcement nor in changing
the settings. -/
structure Listener.Nameless (listener : Listener) (settings : Value) : Prop where
  print : ∀ print ∈ listener.progress, ∀ text, Walkthrough.Nameless (print text)
  mutate : ∀ (s : Store) (changes : List Mutation), (∀ m ∈ changes, m ∈ listener.mutations) →
    Walkthrough.Nameless (s.mutate settings listener.vars changes).1

/-- A listener that changes nothing and wants no announcements is one. -/
theorem Listener.nameless_plain (vars : Bindings) (settings : Value) :
    (Listener.plain vars).Nameless settings where
  print := nofun
  mutate s changes h := by
    rw [List.eq_nil_iff_forall_not_mem.2 fun m hm => List.not_mem_nil (h m hm)]
    exact .ok _

namespace Store

variable {s : Store} {listener : Listener} {steps : List Record} {settings only : Value}

theorem nameless_announce (h : listener.Nameless settings) (e : Record) :
    Nameless (listener.announce s e) := by
  unfold Listener.announce
  cases hprint : listener.progress with
  | none => exact .ok _
  | some print =>
    have hannouncement : Nameless (s.announcement e) :=
      (nameless_field e _).bind fun _ _ => (nameless_sentence _ _).bind fun _ _ =>
        (nameless_field e _).bind fun _ _ => (nameless_sentence _ _).bind fun _ _ =>
        (nameless_field e _).bind fun _ _ => (nameless_sentence _ _).bind fun _ _ => .ok _
    exact hannouncement.bind fun _ _ => (h.print print hprint _).bind fun _ _ => .ok _

/-- Emitting lines does not fail for a name if the changes of the listener do not. -/
theorem nameless_emitLines (h : listener.Nameless settings) (s : Store) (k : Nat)
    (lines : List String) : Nameless (emitLines listener settings s k lines).outcome := by
  induction lines generalizing s k with
  | nil => exact .ok _
  | cons line rest ih =>
    rw [emitLines]
    split
    · exact .error trivial
    · have hmutate := h.mutate s (listener.mutations.filter (·.moment = k))
        fun m hm => (List.mem_filter.1 hm).1
      split
      · rename_i f t heq
        rw [heq] at hmutate
        exact .error (hmutate.fault f rfl)
      · exact (ih _ _).map _

/-- A name that counts as true and that no step has is reported before anything else happens. -/
theorem run_of_misses (htruthy : s.truthy only = true) (h : s.Misses only steps) :
    s.run listener steps settings only = ⟨[], .error (.unknownName only), s⟩ := by
  simp only [run, selectSteps, htruthy, if_true, findStep_eq_none_iff.2 h]
  rfl

/-- A text is equal to nothing but itself. -/
theorem eq_of_text_equal {t : String} {v : Value} (h : s.equal (.text t) v = .ok true) :
    v = .text t := by
  unfold equal callLevels equalWithin at h
  dsimp only [cell?, Value.number?] at h
  exact (of_decide_eq_true (Except.ok.inj h)).symm

/-- **A run of the step that demonstrates a topic** does not fail for a name, unless a person or the
listener does. -/
theorem nameless_run {e : Record} {topic : Topic} (htruthy : s.truthy only = true)
    (he : s.findStep only steps = .ok (some e))
    (htopic : s.field e "name" = .ok (.text topic.name)) (hlistener : listener.Nameless settings)
    (hperson : topic = .person → ∀ v, s.lookup settings "person" = .ok v →
      Nameless (s.fullName v).1) :
    Nameless (s.run listener steps settings only).outcome := by
  obtain ⟨-, -, -, -, u, hu, hequal⟩ := findStep_eq_some he
  cases htopic.symm.trans hu
  obtain rfl := eq_of_text_equal hequal
  have hlines : s.linesOfStep steps settings e = s.topicLines settings topic := by
    simp only [linesOfStep, htopic, stepLines, he, Value.topic?, Topic.ofName?_name]
  have htopicLines : Nameless (s.topicLines settings topic).1 := by
    refine nameless_of_ne fun n hn => ?_
    obtain ⟨htopic, v, hv, hfull⟩ := topicLines_eq_unknownName_iff.1 hn
    exact (hperson htopic v hv).ne n hfull
  have hannounce := nameless_announce (s := s) hlistener e
  have hselected : s.selectSteps steps (.text topic.name) = .ok [e] := by
    simp only [selectSteps, htruthy, if_true, he]
    rfl
  rw [run, hselected]
  simp only [runSteps, hlines]
  cases hannounced : listener.announce s e with
  | error f =>
    rw [hannounced] at hannounce
    exact .error (hannounce.fault f rfl)
  | ok announced =>
    rcases hproduced : s.topicLines settings topic with ⟨f | lines, t⟩
    · rw [hproduced] at htopicLines
      exact .error (htopicLines.fault f rfl)
    · have hemitted := nameless_emitLines hlistener t 0 lines
      dsimp only
      cases houtcome : (emitLines listener settings t 0 lines).outcome with
      | error f =>
        rw [houtcome] at hemitted
        exact .error (hemitted.fault f rfl)
      | ok done => exact .ok _

/-- **Unknown names, and nothing else, are reported as such.** Asking for the lines of a step fails
for a name in two cases: the name is that of no step, or of one that demonstrates nothing under it,
and it is told; or a person is asked for its full name, and this fails for a name. A person that has
been given no operation of its own for its full name never does. In the first case nothing is read
from the settings, whatever they are, and nothing changes.

If looking for the step comes to nothing, as a step has no name or names cannot be compared, it is a
fault of another sort, and nothing is read from the settings either. This is not so for a text as
long as all steps have names.

A run that is asked for one step fails at once if no step has the name. If the step that is found
goes by the name of a topic, then the run does not fail for a name, unless a person or the listener
does. -/
theorem unknown_names (s : Store) (steps : List Record) :
    (∀ name settings n : Value,
      (s.stepLines steps name settings).1 = .error (.unknownName n) ↔
        n = name ∧ s.Unusable name steps ∨
          s.Hits name steps ∧ name = .text "person" ∧
            ∃ v, s.lookup settings "person" = .ok v ∧
              (s.fullName v).1 = .error (.unknownName n)) ∧
      (∀ v n, s.ComposesName v → (s.fullName v).1 ≠ .error (.unknownName n)) ∧
      (∀ name, s.Unusable name steps → ∀ settings,
        s.stepLines steps name settings = (.error (.unknownName name), s)) ∧
      (∀ name, ¬ s.Misses name steps → ¬ s.Hits name steps → ∃ f : Fault, f.category ≠ .name ∧
        ∀ settings, s.stepLines steps name settings = (.error f, s)) ∧
      (∀ t : String, (∀ e ∈ steps, ∃ v, s.field e "name" = .ok v) →
        s.Misses (.text t) steps ∨ s.Hits (.text t) steps) ∧
      (∀ (listener : Listener) (settings only : Value), s.truthy only = true →
        (s.Misses only steps →
          s.run listener steps settings only = ⟨[], .error (.unknownName only), s⟩) ∧
        ∀ (e : Record) (topic : Topic), s.findStep only steps = .ok (some e) →
          s.field e "name" = .ok (.text topic.name) → listener.Nameless settings →
          (topic = .person → ∀ v n, s.lookup settings "person" = .ok v →
            (s.fullName v).1 ≠ .error (.unknownName n)) →
          ∀ n, (s.run listener steps settings only).outcome ≠ .error (.unknownName n)) := by
  refine ⟨fun _ _ _ => stepLines_eq_unknownName_iff, fun v n h => (nameless_fullName h).ne n,
    fun _ => stepLines_of_unusable, fun _ => stepLines_of_not_hits, fun _ => misses_or_hits_text,
    fun listener settings only htruthy => ⟨run_of_misses htruthy, ?_⟩⟩
  intro e topic he htopic hlistener hperson n
  refine (nameless_run htruthy he htopic hlistener fun h v hv => ?_).ne n
  exact nameless_of_ne fun n => hperson h v n hv

/-- Both exceptions. The person of the first settings takes the last entry of an empty dictionary for
its full name, so that a usable name seems unknown; and in the second catalogue no step has the name,
but the first step that might have it has lost its own. -/
theorem unknown_names_exceptions :
    (∃ (s : Store) (steps : List Record) (settings : Value),
      s.Hits (.text "person") steps ∧ (s.stepLines steps (.text "person") settings).1 =
        .error (.unknownName (.text "popitem(): dictionary is empty"))) ∧
      ∃ (s : Store) (steps : List Record),
        (¬ ∃ e ∈ steps, ∃ v, s.field e "name" = .ok v ∧ s.equal v (.text "nope") = .ok true) ∧
          ∀ settings n, (s.stepLines steps (.text "nope") settings).1 ≠ .error (.unknownName n) := by
  constructor
  · let person : Bindings :=
      Person.default ++ [(fullNameAttribute, .operation (.ref 1) "popitem")]
    let s : Store :=
      { cells :=
          #[.dict (.ofNames (Step.make "person" "" 1)), .dict [], .dict (.ofNames person),
            .record ⟨.person, 2⟩, .dict (.ofNames [("person", .ref 3)]), .record ⟨.settings, 4⟩] }
    exact ⟨s, [⟨.step, 0⟩], .ref 5, ⟨[], ⟨.step, 0⟩, [], rfl, nofun, _, rfl, by decide⟩, rfl⟩
  · let s : Store := { cells := #[.dict []] }
    have hfield : s.field ⟨.step, 0⟩ "name" = .error (.noAttribute .step "name") := rfl
    refine ⟨s, [⟨.step, 0⟩], ?_, fun settings n => nofun⟩
    rintro ⟨e, he, v, hv, -⟩
    rw [List.mem_singleton.1 he, hfield] at hv
    cases hv

end Store

end Walkthrough
