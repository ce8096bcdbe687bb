import Walkthrough.Literal
import Walkthrough.Proofs.CallConfinement

/-!
# Building changes nothing

What a literal builds is new, or was there before and is reached from a variable. Building makes
objects and changes none, and what it makes refers to nothing that is not reached from the
variables.

## Building and carrying out

Building is simpler than carrying out operations: a literal makes objects and never writes to one.
So `Building.Confined` says more than `Action.Confined`. The objects that there are stay as they
are, whatever set is spoken of, and a set has to be mentioned only to say what the new objects refer
to. Building that fails leaves the store that was there before, so that nothing needs to be said of
it.

## The induction

Literals are nested: a list of literals, a dictionary of them, a record with literals for some of
its fields. There is one lemma for each of these forms, by mutual recursion along the literal, and
each is a chain of `Confined.bind`. Along such a chain the condition on the set grows, since what is
built later may refer to what has been built before. The steps of a catalogue are lists of fields,
and come last.

## Main definitions

* `Store.Extends` — objects have been made, and none has been changed
* `Building.Confined` — building that makes objects only, with a condition on the sets that it
  spares, and what it gives

## Main results

* `Literal.confined_build` — literals, by induction
* `Step.confined_buildAll` — entries of a step catalogue
-/

namespace Walkthrough

open Referring (Avoids)
open Sorting (bind_eq_ok)

namespace Store

/-! ### Stores that are extended -/

/-- The objects of the first store are in the second one as they were.

Everything that is known about an object of the first store can be carried over along this, and most
statements about a literal that is built need nothing else. -/
structure Extends (s t : Store) : Prop where
  size_le : s.size ≤ t.size
  get?_eq : ∀ a < s.size, t.get? a = s.get? a

variable {K : Set Addr} {s t u : Store}

theorem Extends.refl (s : Store) : Extends s s := ⟨Nat.le_refl _, fun _ _ => rfl⟩

theorem Extends.trans (hst : Extends s t) (htu : Extends t u) : Extends s u :=
  ⟨hst.size_le.trans htu.size_le, fun a ha =>
    (htu.get?_eq a (Nat.lt_of_lt_of_le ha hst.size_le)).trans (hst.get?_eq a ha)⟩

/-- There is something only at the addresses that have been given out. -/
theorem lt_of_get? {a : Addr} {c : Cell} (h : s.get? a = some c) : a < s.size := by
  by_contra hle
  rw [get?_eq_none_iff.2 (Nat.not_lt.1 hle)] at h
  cases h

theorem Extends.get?_of_some (hst : Extends s t) {a : Addr} {c : Cell} (h : s.get? a = some c) :
    t.get? a = some c :=
  (hst.get?_eq a (lt_of_get? h)).trans h

theorem extends_alloc (s : Store) (c : Cell) : Extends s (s.alloc c).2 :=
  ⟨by simp, fun _ ha => get?_alloc_of_lt ha c⟩

/-- A record without an address is made with its dictionary alone. -/
theorem extends_newRecord (s : Store) (k : Kind) (attributes : Bindings) :
    Extends s (s.newRecord k attributes).2 :=
  extends_alloc s _

theorem extends_allocRecord (s : Store) (k : Kind) (attributes : Bindings) :
    Extends s (s.allocRecord k attributes).2 :=
  (extends_newRecord s k attributes).trans (extends_alloc _ _)

/-- So a dictionary that was there has the same entries. -/
theorem Extends.attributesAt_eq (h : Extends s t) {a : Addr} (ha : a < s.size) :
    t.attributesAt a = s.attributesAt a := by
  rw [attributesAt, attributesAt, h.get?_eq a ha]

/-- The objects that a set is about are spared if the store is only extended. New objects may refer
to anything but to them. -/
theorem Extends.spares (h : Extends s t) (ht : Avoids K t) (hheld : Withholds K s t) :
    Spares K s t := by
  refine ⟨ht, fun a ha => ?_⟩
  by_cases hlt : a < s.size
  · exact h.get?_eq a hlt
  · have hle := Nat.not_lt.1 hlt
    rw [get?_eq_none_iff.2 hle, get?_eq_none_iff.2 (hheld a ha hle)]

end Store

namespace Building

open Store (Extends Withholds)

variable {α β : Type} {P : Set Addr → Prop} {Q : Set Addr → α → Prop}
  {R : Set Addr → β → Prop}

/-- Building in two parts succeeds if both do, and then the store goes from the one to the other. -/
theorem bind_eq_ok {b : Building α} {f : α → Building β} {s u : Store} {y : β}
    (h : (b >>= f) s = .ok (y, u)) : ∃ x t, b s = .ok (x, t) ∧ f x t = .ok (y, u) := by
  obtain ⟨⟨x, t⟩, hb, hf⟩ := Sorting.bind_eq_ok.1 h
  exact ⟨x, t, hb, hf⟩

/-- Building that makes objects and changes none. If the store avoids a set `K` with `P K`, then so
it does afterwards, and what is built is subject to `Q K`. The tuples that are made hold what there
was.

In contrast to actions, building that fails hands no store on. So all three clauses are about
building that succeeds. -/
structure Confined (P : Set Addr → Prop) (b : Building α) (Q : Set Addr → α → Prop) : Prop where
  extends_of_ok : ∀ s x t, b s = .ok (x, t) → Extends s t
  avoids : ∀ K s x t, P K → Avoids K s → b s = .ok (x, t) → Withholds K s t →
    Avoids K t ∧ Q K x
  tuples : ∀ s x t, s.Settled P → s.TuplesHoldOlder → b s = .ok (x, t) → t.TuplesHoldOlder

namespace Confined

/-- **One part after the other.** The second one may rely on what the first one gives. -/
theorem bind {b : Building α} {f : α → Building β} (hb : Confined P b Q)
    (hf : ∀ x, Confined (fun K => P K ∧ Q K x) (f x) R) : Confined P (b >>= f) R where
  extends_of_ok s y u h := by
    obtain ⟨x, t, hfirst, hsecond⟩ := bind_eq_ok h
    exact (hb.extends_of_ok s x t hfirst).trans ((hf x).extends_of_ok t y u hsecond)
  avoids K s y u hK hs h hheld := by
    obtain ⟨x, t, hfirst, hsecond⟩ := bind_eq_ok h
    have hst := hb.extends_of_ok s x t hfirst
    have htu := (hf x).extends_of_ok t y u hsecond
    obtain ⟨hbefore, hafter⟩ := hheld.before hst.size_le htu.size_le
    obtain ⟨ht, hx⟩ := hb.avoids K s x t hK hs hfirst hbefore
    exact (hf x).avoids K t y u ⟨hK, hx⟩ ht hsecond hafter
  tuples s y u hs hold h := by
    obtain ⟨x, t, hfirst, hsecond⟩ := bind_eq_ok h
    have hle := (hb.extends_of_ok s x t hfirst).size_le
    refine (hf x).tuples t y u (Store.Spares.settled hs hle fun K hK hsK hheld => ?_)
      (hb.tuples s x t hs hold hfirst) hsecond
    obtain ⟨ht, hx⟩ := hb.avoids K s x t hK hsK hfirst hheld
    exact ⟨⟨hK, hx⟩, ht⟩

theorem pure {x : α} (h : ∀ K, P K → Q K x) : Confined P (pure x) Q where
  extends_of_ok s _ _ hok := by
    cases hok
    exact .refl s
  avoids K s _ _ hK hs hok _ := by
    cases hok
    exact ⟨hs, h K hK⟩
  tuples _ _ _ _ hold hok := by
    cases hok
    exact hold

theorem throw (f : Fault) : Confined P (throw f : Building α) Q where
  extends_of_ok _ _ _ hok := by cases hok
  avoids _ _ _ _ _ _ hok _ := by cases hok
  tuples _ _ _ _ _ hok := by cases hok

theorem read {f : Store → Except Fault α} (h : ∀ K s x, P K → Avoids K s → f s = .ok x → Q K x) :
    Confined P (read f) Q := by
  have hread {s t : Store} {x : α} (hok : Building.read f s = .ok (x, t)) :
      f s = .ok x ∧ t = s := by
    unfold Building.read at hok
    rcases hf : f s with fault | y <;> rw [hf] at hok <;> cases hok
    exact ⟨rfl, rfl⟩
  constructor
  · intro s x t hok
    obtain ⟨-, rfl⟩ := hread hok
    exact .refl t
  · intro K s x t hK hs hok _
    obtain ⟨hx, rfl⟩ := hread hok
    exact ⟨hs, h K t x hK hs hx⟩
  · intro s x t _ hold hok
    obtain ⟨-, rfl⟩ := hread hok
    exact hold

theorem make {c : Cell} (h : ∀ K, P K → Avoids K c) : Confined P (make c) Avoids where
  extends_of_ok s _ _ hok := by
    cases hok
    exact Store.extends_alloc s c
  avoids K s _ _ hK hs hok hheld := by
    cases hok
    obtain ⟨hspares, hfree⟩ := Store.spares_alloc hs (h K hK) hheld
    exact ⟨hspares.avoids, hfree⟩
  tuples _ _ _ hs hold hok := by
    cases hok
    exact Store.tuplesHoldOlder_alloc hold (h _ (hs _ fun _ ha => ha).1)

/-- Something that always succeeds, by how it changes the store. -/
theorem of_change {g : Store → α × Store} (hextends : ∀ s, Extends s (g s).2)
    (havoids : ∀ K s, P K → Avoids K s → Withholds K s (g s).2 →
      Avoids K (g s).2 ∧ Q K (g s).1)
    (htuples : ∀ s : Store, s.TuplesHoldOlder → (g s).2.TuplesHoldOlder) :
    Confined P (fun s => .ok (g s)) Q where
  extends_of_ok s x t hok := by
    cases hg : g s
    have := hextends s
    rw [hg] at this hok
    cases hok
    exact this
  avoids K s x t hK hs hok hheld := by
    have := havoids K s hK hs
    rcases hg : g s with ⟨y, u⟩
    rw [hg] at this hok
    cases hok
    exact this hheld
  tuples s x t _ hold hok := by
    have := htuples s hold
    rcases hg : g s with ⟨y, u⟩
    rw [hg] at this hok
    cases hok
    exact this

end Confined

/-! ### Records

A record is made in two parts, its dictionary and itself. The fields that it has no value for get
their defaults, and some of these are made for the record: the numbers and the person of settings.
-/

theorem confined_newRecord {k : Kind} {attributes : Bindings}
    (h : ∀ K, P K → Avoids K attributes) :
    Confined P (fun s => .ok (s.newRecord k attributes)) Avoids :=
  .of_change (fun s => Store.extends_newRecord s k attributes) (fun K s hK hs hheld => by
    obtain ⟨hspares, hr⟩ := Store.spares_newRecord hs (h K hK) hheld
    exact ⟨hspares.avoids, hr⟩) fun _ hold => Store.tuplesHoldOlder_object hold fun _ => nofun

theorem confined_allocRecord {k : Kind} {attributes : Bindings}
    (h : ∀ K, P K → Avoids K attributes) :
    Confined P (fun s => .ok (s.allocRecord k attributes)) Avoids :=
  .of_change (fun s => Store.extends_allocRecord s k attributes) (fun K s hK hs hheld => by
    obtain ⟨hspares, hv⟩ := Store.spares_allocRecord hs (h K hK) hheld
    exact ⟨hspares.avoids, hv⟩) fun _ hold => Store.tuplesHoldOlder_allocRecord hold

theorem confined_allocNumbers : Confined P (fun s => .ok s.allocNumbers) Avoids :=
  .make (c := .list (Settings.defaultNumbers.map .int)) fun _ _ => by
    simp [Settings.defaultNumbers]

theorem confined_allocPerson : Confined P (fun s => .ok s.allocPerson) Avoids :=
  confined_allocRecord fun _ _ => by simp [Person.default, Person.make]

theorem avoids_withDefaults {K : Set Addr} {numbers person : Value} (hnumbers : Avoids K numbers)
    (hperson : Avoids K person) : Avoids K (Settings.withDefaults numbers person) := by
  simp [Settings.withDefaults, hnumbers, hperson]

theorem confined_allocSettings : Confined P (fun s => .ok s.allocSettings) Avoids :=
  .bind confined_allocNumbers fun _ => .bind confined_allocPerson fun _ =>
    confined_allocRecord fun _ hK => avoids_withDefaults hK.1.2 hK.2

/-- Settings are made together with their numbers and their person, and nothing is changed. -/
theorem extends_allocSettings (s : Store) : Extends s s.allocSettings.2 :=
  (confined_allocSettings (P := fun _ => True)).extends_of_ok s _ _ rfl

/-- A field that must be there: what is given for it, or what is made instead. -/
theorem confined_given {fields : Bindings} (hfields : ∀ K, P K → Avoids K fields) (name : String)
    {make : Store → Value × Store} (hmake : Confined P (fun s => .ok (make s)) Avoids) :
    Confined P (given fields name make) Avoids := by
  unfold given
  split
  · exact .pure fun K hK => avoids_of_get? (hfields K hK) ‹_›
  · exact hmake

theorem avoids_foldl_put {K : Set Addr} {fields bs : Bindings} (hfields : Avoids K fields)
    (hbs : Avoids K bs) :
    Avoids K (fields.foldl (fun bs field => bs.put field.1 field.2) bs) := by
  induction fields generalizing bs with
  | nil => exact hbs
  | cons field rest ih =>
    rw [avoids_cons] at hfields
    exact ih hfields.2 (avoids_put hbs avoids_of_ground hfields.1.2)

theorem avoids_filterMap_get? {K : Set Addr} {fields : Bindings} (hfields : Avoids K fields)
    (names : List String) :
    Avoids K (names.filterMap fun name => (fields.get? name).map (name, ·)) := by
  intro binding hbinding
  obtain ⟨name, -, hname⟩ := List.mem_filterMap.1 hbinding
  obtain ⟨v, hv, rfl⟩ := Option.map_eq_some_iff.1 hname
  exact ⟨avoids_of_ground, avoids_of_get? hfields hv⟩

/-- The attributes of a record are what it is given, or new. -/
theorem confined_attributes {fields : Bindings} (hfields : ∀ K, P K → Avoids K fields) (k : Kind) :
    Confined P (attributes k fields) Avoids := by
  refine .bind (Q := fun _ _ => True) (.read fun _ _ _ _ _ _ => trivial) fun _ => ?_
  split
  · refine .bind (confined_given (fun K hK => hfields K hK.1) _ confined_allocNumbers) fun _ => ?_
    refine .bind (confined_given (fun K hK => hfields K hK.1.1) _ confined_allocPerson) fun _ => ?_
    exact .pure fun K hK =>
      avoids_foldl_put (hfields K hK.1.1.1) (avoids_withDefaults hK.1.2 hK.2)
  · exact .pure fun K hK => avoids_filterMap_get? (hfields K hK.1) _

/-- **A record** refers to what its fields are given, and to what has been made for it. -/
theorem confined_record {fields : Bindings} (hfields : ∀ K, P K → Avoids K fields) (k : Kind) :
    Confined P (record k fields) Avoids :=
  .bind (confined_attributes hfields k) fun _ => confined_allocRecord fun _ hK => hK.2

/-! ### Walks and variables

A path begins with a variable and goes on through attributes, so it ends at something that is
reached from the variable.
-/

/-- A walk that is begun is an iterator that is made, or the value itself. -/
theorem confined_walk {v : Value} (h : ∀ K, P K → Avoids K v) :
    Confined P (fun s => s.walk v) Avoids where
  extends_of_ok s w t hok := by
    obtain ⟨-, rfl⟩ | ⟨it, -, rfl, -⟩ := Action.walk_eq_ok hok
    · exact .refl _
    · exact Store.extends_alloc s _
  avoids K s w t hK hs hok hheld := by
    obtain ⟨rfl, rfl⟩ | ⟨it, rfl, rfl, hit⟩ := Action.walk_eq_ok hok
    · exact ⟨hs, h K hK⟩
    · obtain ⟨hspares, hfree⟩ := Store.spares_alloc hs (hit K hs (h K hK)) hheld
      exact ⟨hspares.avoids, hfree⟩
  tuples s w t _ hold hok := by
    obtain ⟨-, rfl⟩ | ⟨it, -, rfl, -⟩ := Action.walk_eq_ok hok
    · exact hold
    · exact Store.tuplesHoldOlder_object hold fun _ => nofun

/-- By recursion on the names of a path. -/
theorem avoids_of_follow {K : Set Addr} {s : Store} {v w : Value} {names : List String}
    (hs : Avoids K s) (hv : Avoids K v) (h : s.follow v names = .ok w) : Avoids K w := by
  induction names generalizing v with
  | nil =>
    cases h
    exact hv
  | cons name rest ih =>
    unfold Store.follow at h
    rw [List.foldlM_cons] at h
    obtain ⟨u, hu, h⟩ := Sorting.bind_eq_ok.1 h
    exact ih (Store.avoids_of_lookup hs hv hu) h

theorem avoids_of_resolve {K : Set Addr} {s : Store} {vars : Bindings} {path : String} {v : Value}
    (hs : Avoids K s) (hvars : Avoids K vars) (h : s.resolve vars path = .ok v) : Avoids K v := by
  unfold Store.resolve at h
  split at h
  · cases h
  · split at h
    · exact avoids_of_follow hs (avoids_of_get? hvars ‹_›) h
    · cases h

end Building

open Building (Confined)

/-! ### Literals

By recursion on the literal. Nothing is known of the variables but that they avoid the set.
-/

mutual

/-- **Literals** build what is new, or reached from a variable. -/
theorem Literal.confined_build {P : Set Addr → Prop} {vars : Bindings}
    (hvars : ∀ K, P K → Avoids K vars) (l : Literal) : Confined P (l.build vars) Avoids := by
  cases l with
  | null | bool b | int n | text t =>
    rw [Literal.build]
    exact .pure fun _ _ => avoids_of_ground
  | real numeral =>
    rw [Literal.build]
    split
    · exact .of_change (fun s => ⟨Nat.le_refl _, fun _ _ => rfl⟩)
        (fun K s _ hs _ => ⟨hs, avoids_of_ground⟩) fun _ hold => hold
    · exact .throw _
  | list items | tuple items =>
    rw [Literal.build]
    exact .bind (Literal.confined_buildItems hvars items) fun _ => .make fun K hK => hK.2
  | dict entries =>
    rw [Literal.build]
    exact .bind (Literal.confined_buildEntries hvars (fun _ _ => avoids_nil) entries) fun _ =>
      .make fun K hK => hK.2
  | range bounds =>
    rw [Literal.build]
    refine .bind (Literal.confined_buildItems hvars bounds) fun _ => ?_
    exact .bind (Q := fun _ _ => True) (.read fun _ _ _ _ _ _ => trivial) fun _ =>
      .pure fun _ _ => avoids_of_ground
  | iterator source =>
    rw [Literal.build]
    exact .bind (Literal.confined_build hvars source) fun _ => Building.confined_walk fun K hK => hK.2
  | person fields | settings fields =>
    rw [Literal.build]
    exact .bind (Literal.confined_buildFields hvars fields) fun _ =>
      Building.confined_record (fun K hK => hK.2) _
  | named path =>
    rw [Literal.build]
    exact .read fun K s v hK hs hv => Building.avoids_of_resolve hs (hvars K hK) hv

/-- Elements are built one after the other. -/
theorem Literal.confined_buildItems {P : Set Addr → Prop} {vars : Bindings}
    (hvars : ∀ K, P K → Avoids K vars) (items : List Literal) :
    Confined P (Literal.buildItems vars items) Avoids := by
  cases items with
  | nil => rw [Literal.buildItems]; exact .pure fun _ _ => avoids_nil
  | cons item rest =>
    rw [Literal.buildItems]
    refine .bind (Literal.confined_build hvars item) fun _ => ?_
    refine .bind (Literal.confined_buildItems (fun K hK => hvars K hK.1) rest) fun _ => ?_
    exact .pure fun K hK => avoids_cons.2 ⟨hK.1.2, hK.2⟩

/-- Entries are added to those that are done. A key that is there already keeps its place, and gets
the new value. -/
theorem Literal.confined_buildEntries {P : Set Addr → Prop} {vars : Bindings} {done : Table Value}
    (hvars : ∀ K, P K → Avoids K vars) (hdone : ∀ K, P K → Avoids K done)
    (entries : List (Literal × Literal)) :
    Confined P (Literal.buildEntries vars done entries) Avoids := by
  match entries with
  | [] => rw [Literal.buildEntries]; exact .pure hdone
  | (key, value) :: rest =>
    rw [Literal.buildEntries]
    refine .bind (Literal.confined_build hvars key) fun k => ?_
    refine .bind (Literal.confined_build (fun K hK => hvars K hK.1) value) fun v => ?_
    refine .bind (Q := Avoids) (.read fun K s added hK _ hadded => ?_) fun added => ?_
    · exact Store.avoids_of_addEntry (hdone K hK.1.1) hK.1.2 hK.2 hadded
    · exact Literal.confined_buildEntries (fun K hK => hvars K hK.1.1.1) (fun K hK => hK.2) rest

/-- Fields are built one after the other, under the names that are written. -/
theorem Literal.confined_buildFields {P : Set Addr → Prop} {vars : Bindings}
    (hvars : ∀ K, P K → Avoids K vars) (fields : List (String × Literal)) :
    Confined P (Literal.buildFields vars fields) Avoids := by
  match fields with
  | [] => rw [Literal.buildFields]; exact .pure fun _ _ => avoids_nil
  | (name, value) :: rest =>
    rw [Literal.buildFields]
    refine .bind (Literal.confined_build hvars value) fun _ => ?_
    refine .bind (Literal.confined_buildFields (fun K hK => hvars K hK.1) rest) fun _ => ?_
    exact .pure fun K hK => avoids_cons.2 ⟨⟨avoids_of_ground, hK.1.2⟩, hK.2⟩

end

/-! ### Entries of a catalogue -/

namespace Step

variable {P : Set Addr → Prop} {vars : Bindings}

/-- A step is built from its fields, with a dictionary of its own and no address. -/
theorem confined_build (hvars : ∀ K, P K → Avoids K vars) (fields : List (String × Literal)) :
    Confined P (Step.build vars fields) Avoids := by
  refine .bind (Literal.confined_buildFields hvars fields) fun given => ?_
  refine .bind (Building.confined_attributes (fun K hK => hK.2) .step) fun attributes => ?_
  exact Building.confined_newRecord fun K hK => hK.2

/-- **Entries of a step catalogue** refer to attributes of their own. -/
theorem confined_buildAll (hvars : ∀ K, P K → Avoids K vars)
    (steps : List (List (String × Literal))) :
    Confined P (Step.buildAll vars steps) Avoids := by
  induction steps generalizing P with
  | nil => exact .pure fun _ _ => avoids_nil
  | cons fields rest ih =>
    refine .bind (confined_build hvars fields) fun e => ?_
    refine .bind (ih fun K hK => hvars K hK.1) fun es => ?_
    exact .pure fun K hK => avoids_cons.2 ⟨hK.1.2, hK.2⟩

end Step

end Walkthrough
