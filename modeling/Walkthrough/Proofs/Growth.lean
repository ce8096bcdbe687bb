import Walkthrough.Session
import Walkthrough.Proofs.BuildingConfinement

/-!
# What building makes

Building makes one object after the other. A record is made together with a dictionary, which is its
own, and which holds values of the fields of its kind and nothing else. All other objects are made by
themselves.

## What this adds to confinement

That building changes nothing is known from elsewhere. What is followed here is the shape of what is
made, and it matters for records: a record that is made has a dictionary of its own, so that there
is no other record that could be changed through it, and the dictionary has fields of the kind of
the record for its keys, so that a name which is no field is not among them.

`Store.Grows` is an inductive relation and not a statement about two stores, since the order in
which things are made is what it is about. The dictionary of a record is made right before the
record. If the two were spoken of as any two objects, it would have to be said again that nothing
else has got hold of the dictionary in between.

## Main definitions

* `Store.Grows` — objects have been made in this way
* `Building.Growing` — building that makes objects in this way, with a condition on what it gives

## Main results

* `Literal.growing_build` — literals, by induction
* `Step.growing_buildAll` — entries of a step catalogue
-/

namespace Walkthrough

/-- Objects have been made: records that begin with some of the fields of their kind, each with a
dictionary of its own, and objects that are no records. -/
inductive Store.Grows (s : Store) : Store → Prop
  | refl : s.Grows s
  | mark {t : Store} (h : s.Grows t) (marks : Nat) : s.Grows { t with marks }
  | object {t : Store} (h : s.Grows t) {c : Cell} (hc : ∀ r, c ≠ .record r) :
    s.Grows (t.alloc c).2
  | record {t : Store} (h : s.Grows t) {k : Kind} {attributes : Bindings} (hk : k.isRecord = true)
    (hnames : ∀ binding ∈ attributes, binding.1 ∈ k.fieldNames) :
    s.Grows (t.allocRecord k attributes).2

/-- By induction on how the second store has grown. -/
theorem Store.Grows.trans {s t u : Store} (hst : s.Grows t) (htu : t.Grows u) : s.Grows u := by
  induction htu with
  | refl => exact hst
  | mark _ marks ih => exact ih.mark marks
  | object _ hc ih => exact ih.object hc
  | record _ hk hnames ih => exact ih.record hk hnames

/-- Giving a key a value adds no other key. -/
theorem Table.forall_mem_put {α : Type} [DecidableEq α] {P : α → Prop} {bs : Table α} {key : α}
    (hkey : P key) (hbs : ∀ entry ∈ bs, P entry.1) (v : Value) :
    ∀ entry ∈ bs.put key v, P entry.1 := by
  induction bs with
  | nil => exact List.forall_mem_cons.2 ⟨hkey, nofun⟩
  | cons entry rest ih =>
    rw [List.forall_mem_cons] at hbs
    unfold put
    split
    · exact List.forall_mem_cons.2 hbs
    · exact List.forall_mem_cons.2 ⟨hbs.1, ih hbs.2⟩

theorem Table.forall_mem_foldl_put {α : Type} [DecidableEq α] {P : α → Prop} {fields bs : Table α}
    (hfields : ∀ field ∈ fields, P field.1) (hbs : ∀ entry ∈ bs, P entry.1) :
    ∀ entry ∈ fields.foldl (fun bs field => bs.put field.1 field.2) bs, P entry.1 := by
  induction fields generalizing bs with
  | nil => exact hbs
  | cons field rest ih =>
    rw [List.forall_mem_cons] at hfields
    exact ih hfields.2 (forall_mem_put hfields.1 hbs field.2)

namespace Building

variable {α β : Type} {Q : α → Prop} {R : β → Prop}

/-- Building that makes objects, and gives something that is subject to `Q`.

Building that fails is not spoken of, since no store comes out of it. -/
structure Growing (b : Building α) (Q : α → Prop) : Prop where
  grows_of_ok : ∀ s x t, b s = .ok (x, t) → s.Grows t
  gives : ∀ s x t, b s = .ok (x, t) → Q x

namespace Growing

/-- **One part after the other.** -/
theorem bind {b : Building α} {f : α → Building β} (hb : Growing b Q)
    (hf : ∀ x, Q x → Growing (f x) R) : Growing (b >>= f) R where
  grows_of_ok s y u h := by
    obtain ⟨x, t, hfirst, hsecond⟩ := bind_eq_ok h
    have hx := hb.gives s x t hfirst
    exact (hb.grows_of_ok s x t hfirst).trans ((hf x hx).grows_of_ok t y u hsecond)
  gives s y u h := by
    obtain ⟨x, t, hfirst, hsecond⟩ := bind_eq_ok h
    exact (hf x (hb.gives s x t hfirst)).gives t y u hsecond

theorem pure {x : α} (h : Q x) : Growing (pure x) Q where
  grows_of_ok _ _ _ hok := by
    cases hok
    exact .refl
  gives _ _ _ hok := by
    cases hok
    exact h

theorem throw (f : Fault) : Growing (throw f : Building α) Q where
  grows_of_ok _ _ _ hok := by cases hok
  gives _ _ _ hok := by cases hok

theorem read {f : Store → Except Fault α} (h : ∀ s x, f s = .ok x → Q x) :
    Growing (read f) Q := by
  have hread {s t : Store} {x : α} (hok : Building.read f s = .ok (x, t)) :
      f s = .ok x ∧ t = s := by
    unfold Building.read at hok
    rcases hf : f s with fault | y <;> rw [hf] at hok <;> cases hok
    exact ⟨rfl, rfl⟩
  constructor
  · intro s x t hok
    obtain ⟨-, rfl⟩ := hread hok
    exact .refl
  · intro s x t hok
    exact h s x (hread hok).1

/-- Something that always succeeds, by how it changes the store. -/
theorem of_change {g : Store → α × Store} (hgrows : ∀ s : Store, s.Grows (g s).2) :
    Growing (fun s => .ok (g s)) fun _ => True where
  grows_of_ok s x t hok := by
    have hst := hgrows s
    rcases hg : g s with ⟨y, u⟩
    rw [hg] at hst hok
    cases hok
    exact hst
  gives _ _ _ _ := trivial

end Growing

/-! ### Records

Each record is made in one step, by `Store.Grows.record`. All there is to show is that the names of
its attributes are fields of its kind.
-/

theorem growing_make {c : Cell} (hc : ∀ r, c ≠ .record r) : Growing (make c) fun _ => True :=
  .of_change fun _ => Store.Grows.refl.object hc

/-- A record with attributes under names of its fields. -/
theorem growing_allocRecord {k : Kind} {attributes : Bindings} (hk : k.isRecord = true)
    (hnames : ∀ binding ∈ attributes, binding.1 ∈ k.fieldNames) :
    Growing (fun s => .ok (s.allocRecord k attributes)) fun _ => True :=
  .of_change fun _ => Store.Grows.refl.record hk hnames

theorem growing_allocNumbers : Growing (fun s => .ok s.allocNumbers) fun _ => True :=
  growing_make nofun

theorem growing_allocPerson : Growing (fun s => .ok s.allocPerson) fun _ => True :=
  growing_allocRecord rfl (by decide)

theorem names_withDefaults (numbers person : Value) :
    ∀ binding ∈ Settings.withDefaults numbers person, binding.1 ∈ Kind.settings.fieldNames := by
  have hnames : (Settings.withDefaults numbers person).map (·.1) =
      ["greeting", "name", "count", "iterations", "numbers", "person", "is_active"] := rfl
  intro binding hbinding
  have hmem := List.mem_map_of_mem (f := fun binding => binding.1) hbinding
  rw [hnames] at hmem
  exact hmem

theorem growing_allocSettings : Growing (fun s => .ok s.allocSettings) fun _ => True :=
  .of_change fun _ =>
    have hnumbers := Store.Grows.refl.object (c := .list (Settings.defaultNumbers.map .int)) nofun
    (hnumbers.record rfl (by decide)).record rfl (names_withDefaults _ _)

/-- Fields are given to a record only if its kind has them. -/
theorem growing_attributes (k : Kind) (fields : Bindings) :
    Growing (attributes k fields) fun attributes =>
      ∀ binding ∈ attributes, binding.1 ∈ k.fieldNames := by
  have hgiven {name : String} {make : Store → Value × Store}
      (hmake : Growing (fun s => .ok (make s)) fun _ => True) :
      Growing (given fields name make) fun _ => True := by
    unfold given
    split
    · exact .pure trivial
    · exact hmake
  refine .bind (Q := fun _ => ∀ field ∈ fields, field.1 ∈ k.fieldNames)
    (.read fun _ _ hchecked => ?_) fun _ hfields => ?_
  · unfold Kind.checkFields at hchecked
    split at hchecked
    · cases hchecked
    · rename_i hfind
      simpa only [List.find?_eq_none, decide_not, Bool.not_eq_eq_eq_not, Bool.not_true,
        decide_eq_false_iff_not, Decidable.not_not] using hfind
  split
  · refine .bind (hgiven growing_allocNumbers) fun numbers _ => ?_
    refine .bind (hgiven growing_allocPerson) fun person _ => .pure ?_
    exact Table.forall_mem_foldl_put hfields (names_withDefaults numbers person)
  · refine .pure fun binding hbinding => ?_
    obtain ⟨name, hname, hfield⟩ := List.mem_filterMap.1 hbinding
    obtain ⟨v, -, rfl⟩ := Option.map_eq_some_iff.1 hfield
    exact hname

/-- A record of a kind that is one of records, from fields that are given under any names. -/
theorem growing_record {k : Kind} (hk : k.isRecord = true) (fields : Bindings) :
    Growing (record k fields) fun _ => True :=
  .bind (growing_attributes k fields) fun _ hnames => growing_allocRecord hk hnames

/-- A walk makes an iterator, if anything. -/
theorem growing_walk (v : Value) : Growing (fun s => s.walk v) fun _ => True where
  grows_of_ok s w t hok := by
    obtain ⟨-, rfl⟩ | ⟨it, -, rfl, -⟩ := Action.walk_eq_ok hok
    · exact .refl
    · exact Store.Grows.refl.object nofun
  gives _ _ _ _ := trivial

end Building

open Building (Growing)

/-! ### Literals

By recursion on the literal, in the same form as for confinement.
-/

mutual

/-- **Literals** make objects. -/
theorem Literal.growing_build (vars : Bindings) (l : Literal) :
    Growing (l.build vars) fun _ => True := by
  cases l with
  | null | bool b | int n | text t =>
    rw [Literal.build]
    exact .pure trivial
  | real numeral =>
    rw [Literal.build]
    split
    · exact .of_change fun s => Store.Grows.refl.mark (s.marks + 1)
    · exact .throw _
  | list items | tuple items =>
    rw [Literal.build]
    exact .bind (Literal.growing_buildItems vars items) fun _ _ =>
      Building.growing_make nofun
  | dict entries =>
    rw [Literal.build]
    exact .bind (Literal.growing_buildEntries vars [] entries) fun _ _ =>
      Building.growing_make nofun
  | range bounds =>
    rw [Literal.build]
    exact .bind (Literal.growing_buildItems vars bounds) fun _ _ =>
      .bind (.read fun _ _ _ => trivial) fun _ _ => .pure trivial
  | iterator source =>
    rw [Literal.build]
    exact .bind (Literal.growing_build vars source) fun v _ => Building.growing_walk v
  | person fields | settings fields =>
    rw [Literal.build]
    exact .bind (Literal.growing_buildFields vars fields) fun given _ =>
      Building.growing_record rfl given
  | named path =>
    rw [Literal.build]
    exact .read fun _ _ _ => trivial

theorem Literal.growing_buildItems (vars : Bindings) (items : List Literal) :
    Growing (Literal.buildItems vars items) fun _ => True := by
  cases items with
  | nil => rw [Literal.buildItems]; exact .pure trivial
  | cons item rest =>
    rw [Literal.buildItems]
    exact .bind (Literal.growing_build vars item) fun _ _ =>
      .bind (Literal.growing_buildItems vars rest) fun _ _ => .pure trivial

theorem Literal.growing_buildEntries (vars : Bindings) (done : Table Value)
    (entries : List (Literal × Literal)) :
    Growing (Literal.buildEntries vars done entries) fun _ => True := by
  match entries with
  | [] => rw [Literal.buildEntries]; exact .pure trivial
  | (key, value) :: rest =>
    rw [Literal.buildEntries]
    exact .bind (Literal.growing_build vars key) fun _ _ =>
      .bind (Literal.growing_build vars value) fun _ _ =>
        .bind (.read fun _ _ _ => trivial) fun added _ =>
          Literal.growing_buildEntries vars added rest

theorem Literal.growing_buildFields (vars : Bindings) (fields : List (String × Literal)) :
    Growing (Literal.buildFields vars fields) fun _ => True := by
  match fields with
  | [] => rw [Literal.buildFields]; exact .pure trivial
  | (name, value) :: rest =>
    rw [Literal.buildFields]
    exact .bind (Literal.growing_build vars value) fun _ _ =>
      .bind (Literal.growing_buildFields vars rest) fun _ _ => .pure trivial

end

/-- **Entries of a step catalogue** are made as dictionaries. -/
theorem Step.growing_buildAll (vars : Bindings) (steps : List (List (String × Literal))) :
    Growing (Step.buildAll vars steps) fun _ => True := by
  induction steps with
  | nil => exact .pure trivial
  | cons fields rest ih =>
    have hstep : Growing (Step.build vars fields) fun _ => True :=
      .bind (Literal.growing_buildFields vars fields) fun given _ =>
        .bind (Building.growing_attributes .step given) fun attributes _ =>
          .of_change fun _ => Store.Grows.refl.object (c := .dict (.ofNames attributes)) nofun
    exact .bind hstep fun _ _ => .bind ih fun _ _ => .pure trivial

/-! ### The parts of operations

What an operation of a session builds before it does anything: some literals, with settings among
them at times.
-/

theorem Literal.growing_buildTwo (vars : Bindings) (l m : Literal) :
    Growing (do
      let v ← l.build vars
      return (v, ← m.build vars)) fun _ => True :=
  .bind (Literal.growing_build vars l) fun _ _ =>
    .bind (Literal.growing_build vars m) fun _ _ => .pure trivial

namespace Session

variable (σ : Session)

theorem growing_buildSettings (settings : Option Literal) :
    Growing (σ.buildSettings settings) fun _ => True := by
  cases settings with
  | none => exact Building.growing_allocSettings
  | some l => exact Literal.growing_build σ.vars l

theorem growing_greeted (name : Option Literal) (greeting : Literal) :
    Growing (do
      let name ← name.mapM (·.build σ.vars)
      return (name, ← greeting.build σ.vars)) fun _ => True := by
  have hname : Growing (name.mapM (·.build σ.vars)) fun _ => True := by
    cases name with
    | none => exact .pure trivial
    | some l => exact .bind (Literal.growing_build σ.vars l) fun _ _ => .pure trivial
  exact .bind hname fun _ _ =>
    .bind (Literal.growing_build σ.vars greeting) fun _ _ => .pure trivial

theorem growing_requested (settings : Option Literal) (only : Literal) :
    Growing (do
      let settings ← σ.buildSettings settings
      return (settings, ← only.build σ.vars)) fun _ => True :=
  .bind (σ.growing_buildSettings settings) fun _ _ =>
    .bind (Literal.growing_build σ.vars only) fun _ _ => .pure trivial

theorem growing_named (name : Literal) (settings : Option Literal) :
    Growing (do
      let name ← name.build σ.vars
      return (name, ← σ.buildSettings settings)) fun _ => True :=
  .bind (Literal.growing_build σ.vars name) fun _ _ =>
    .bind (σ.growing_buildSettings settings) fun _ _ => .pure trivial

theorem growing_revision (name v : Literal) :
    Growing (do
      let name ← name.build σ.vars
      let _ ← Building.read fun s => s.findStep name σ.steps
      return (name, ← v.build σ.vars)) fun _ => True :=
  .bind (Literal.growing_build σ.vars name) fun _ _ =>
    .bind (.read fun _ _ _ => trivial) fun _ _ =>
      .bind (Literal.growing_build σ.vars v) fun _ _ => .pure trivial

end Session

end Walkthrough
