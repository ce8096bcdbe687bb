import Mathlib.Data.Set.Basic
import Walkthrough.Call.Action
import Walkthrough.Proofs.Sorting.Permutation

/-!
# What refers to what

Objects refer to each other by address, so what can be reached from a variable is a matter of which
addresses occur where. Something avoids a set `K` of addresses if none of them occurs in it. A store
that avoids `K` may have objects at the addresses of `K`, and these may refer to anything; no other
object refers to them.

Reading leads from what avoids `K` to what avoids `K`: an attribute, an item, an element of a value
that avoids `K` is found without looking into `K`. This module says so for every way of reading.

## Why sets of addresses

What is to be shown in the end is that an object which a variable does not lead to is left alone,
and the natural notion for that is reachability. But reachability is a closure, and it changes with
every write, so that each step of an operation would have to argue about paths. A set `K` that
nothing outside refers to is given once and for all: it may be what is not reached from anything at
hand, it may be the addresses that are free, or those that are not older than a certain object. All
that a step has to show is local, that the values it deals with do not occur in `K`.

The empty set is always avoided. So a statement for all sets that are subject to some condition can
be used also where there is nothing to be said about any set in particular.

## How the statements are made

What a question needs of a value `v` is always `Avoids K v`, and what it gives avoids `K` again.
Constants of the program, and what is put together from numbers and texts, avoid every set; this is
`Ground`, a class, so that it is found without being asked for.

## Main definitions

* `Referring.Avoids` — no address of a set occurs
* `Ground` — no address occurs at all

## Main results

* `Store.avoids_of_cell?` — the object that a value refers to
* `Store.avoids_of_lookup` — attributes
* `Store.avoids_of_item`, `Store.avoids_of_elements` — items and elements
-/

namespace Walkthrough

/-! ### Definitions -/

/-- Data in which addresses may occur.

Each type says for itself where addresses may occur in it. A class is used so that a pair, a list or
an option of such data need not be defined again, and so that one name serves for values, objects
and stores. -/
class Referring (α : Type) where
  /-- No address of `K` occurs in `x`. -/
  Avoids (K : Set Addr) (x : α) : Prop
  avoids_empty (x : α) : Avoids ∅ x

open Referring (Avoids)
open Sorting (bind_eq_ok)

/-- No address of `K` occurs in a value. -/
def Value.AvoidsRefs (K : Set Addr) : Value → Prop
  | .ref a => a ∉ K
  | .method a _ _ => a ∉ K
  | .operation owner _ => owner.AvoidsRefs K
  | _ => True

theorem Value.avoidsRefs_empty (v : Value) : v.AvoidsRefs ∅ := by
  induction v with
  | ref a => exact Set.notMem_empty a
  | method a k name => exact Set.notMem_empty a
  | operation owner name ih => exact ih
  | _ => trivial

instance : Referring Value := ⟨Value.AvoidsRefs, Value.avoidsRefs_empty⟩

section Containers

variable {α β : Type} [Referring α] [Referring β]

instance : Referring (List α) :=
  ⟨fun K xs => ∀ x ∈ xs, Avoids K x, fun _ x _ => Referring.avoids_empty x⟩

instance : Referring (Option α) :=
  ⟨fun K o => ∀ x ∈ o, Avoids K x, fun _ x _ => Referring.avoids_empty x⟩

instance : Referring (α × β) :=
  ⟨fun K p => Avoids K p.1 ∧ Avoids K p.2,
    fun p => ⟨Referring.avoids_empty p.1, Referring.avoids_empty p.2⟩⟩

end Containers

instance : Referring Unit := ⟨fun _ _ => True, fun _ => trivial⟩
instance : Referring Bool := ⟨fun _ _ => True, fun _ => trivial⟩
instance : Referring Nat := ⟨fun _ _ => True, fun _ => trivial⟩
instance : Referring Int := ⟨fun _ _ => True, fun _ => trivial⟩
instance : Referring Float := ⟨fun _ _ => True, fun _ => trivial⟩
instance : Referring Char := ⟨fun _ _ => True, fun _ => trivial⟩
instance : Referring String := ⟨fun _ _ => True, fun _ => trivial⟩
instance : Referring Kind := ⟨fun _ _ => True, fun _ => trivial⟩

instance : Referring Record := ⟨fun K r => r.attributes ∉ K, fun _ => Set.notMem_empty _⟩

instance : Referring Iterator where
  Avoids K
    | .overList source _ => source ∉ K
    | .overKeys source _ _ => source ∉ K
    | .overItems items _ _ => Avoids K items
    | _ => True
  avoids_empty
    | .overList source _ => Set.notMem_empty source
    | .overKeys source _ _ => Set.notMem_empty source
    | .overItems items _ _ => Referring.avoids_empty items
    | .overRange _ _ _ => trivial
    | .broken => trivial
    | .finished _ => trivial

instance : Referring Cell where
  Avoids K
    | .list items => Avoids K items
    | .tuple items => Avoids K items
    | .dict entries => Avoids K entries
    | .record r => Avoids K r
    | .iterator it => Avoids K it
  avoids_empty
    | .list items => Referring.avoids_empty items
    | .tuple items => Referring.avoids_empty items
    | .dict entries => Referring.avoids_empty entries
    | .record r => Referring.avoids_empty r
    | .iterator it => Referring.avoids_empty it

/-- The objects at the addresses of `K` may refer to anything; the others must not refer to them. -/
instance : Referring Store :=
  ⟨fun K s => ∀ a c, a ∉ K → s.get? a = some c → Avoids K c,
    fun _ _ c _ _ => Referring.avoids_empty c⟩

/-- Data in which no address occurs. Instances are found along the way in which something is put
together, so that constants of any size need no proof. -/
class Ground {α : Type} [Referring α] (x : α) : Prop where
  avoids : ∀ K, Avoids K x

/-! ### Values

A value refers to an object in one of three ways: it is a reference, it is an operation of a record,
or it is an operation of a value that refers to one.
-/

section Values

variable {K : Set Addr}

@[simp] theorem avoids_ref {a : Addr} : Avoids K (Value.ref a) ↔ a ∉ K := Iff.rfl

@[simp] theorem avoids_method {a : Addr} {k : Kind} {name : String} :
    Avoids K (Value.method a k name) ↔ a ∉ K := Iff.rfl

@[simp] theorem avoids_operation {owner : Value} {name : String} :
    Avoids K (Value.operation owner name) ↔ Avoids K owner := Iff.rfl

instance : Ground Value.null := ⟨fun _ => trivial⟩
instance (b : Bool) : Ground (Value.bool b) := ⟨fun _ => trivial⟩
instance (n : Int) : Ground (Value.int n) := ⟨fun _ => trivial⟩
instance (x : Float) (mark : Nat) : Ground (Value.real x mark) := ⟨fun _ => trivial⟩
instance (t : String) : Ground (Value.text t) := ⟨fun _ => trivial⟩
instance (r : Progression) : Ground (Value.range r) := ⟨fun _ => trivial⟩
instance (k : Kind) (name : String) : Ground (Value.function k name) := ⟨fun _ => trivial⟩
instance (k : Kind) : Ground (Value.kind k) := ⟨fun _ => trivial⟩
instance (k : Kind) (name : String) : Ground (Value.member k name) := ⟨fun _ => trivial⟩
instance (d : Description) : Ground (Value.description d) := ⟨fun _ => trivial⟩
instance (k : Kind) (text : String) : Ground (Value.shown k text) := ⟨fun _ => trivial⟩
instance (owner : Value) (name : String) [h : Ground owner] : Ground (Value.operation owner name) :=
  ⟨h.avoids⟩
instance : Ground Value.notImplemented := inferInstanceAs (Ground (Value.shown _ _))

@[simp] theorem avoids_of_ground {α : Type} [Referring α] {x : α} [h : Ground x] : Avoids K x :=
  h.avoids K

instance (u : Unit) : Ground u := ⟨fun _ => trivial⟩
instance (b : Bool) : Ground b := ⟨fun _ => trivial⟩
instance (n : Nat) : Ground n := ⟨fun _ => trivial⟩
instance (n : Int) : Ground n := ⟨fun _ => trivial⟩
instance (x : Float) : Ground x := ⟨fun _ => trivial⟩
instance (c : Char) : Ground c := ⟨fun _ => trivial⟩
instance (t : String) : Ground t := ⟨fun _ => trivial⟩
instance (k : Kind) : Ground k := ⟨fun _ => trivial⟩

/-! ### Containers

What is in a list or a table refers to what its elements refer to. Most operations on sequences
select from them, and `avoids_of_subset` is all there is to say about these.
-/

variable {α β : Type} [Referring α] [Referring β]

@[simp] theorem avoids_nil : Avoids K ([] : List α) := by
  intro x hx
  cases hx

@[simp] theorem avoids_cons {x : α} {xs : List α} :
    Avoids K (x :: xs) ↔ Avoids K x ∧ Avoids K xs :=
  List.forall_mem_cons

@[simp] theorem avoids_append {xs ys : List α} :
    Avoids K (xs ++ ys) ↔ Avoids K xs ∧ Avoids K ys :=
  List.forall_mem_append

@[simp] theorem avoids_none : Avoids K (none : Option α) := by
  intro x hx
  cases hx

@[simp] theorem avoids_some {x : α} : Avoids K (some x) ↔ Avoids K x := by
  constructor
  · intro h
    exact h x rfl
  · rintro h y ⟨⟩
    exact h

@[simp] theorem avoids_pair {x : α} {y : β} : Avoids K (x, y) ↔ Avoids K x ∧ Avoids K y := Iff.rfl

/-- What is chosen from a list avoids what the list avoids. -/
theorem avoids_of_subset {xs ys : List α} (h : Avoids K xs) (hys : ys ⊆ xs) : Avoids K ys :=
  fun x hx => h x (hys hx)

theorem avoids_getD {vs : List Value} (h : Avoids K vs) (n : Nat) :
    Avoids K (vs.getD n .null) := by
  rw [List.getD_eq_getElem?_getD]
  rcases hget : vs[n]? with _ | w
  · exact avoids_of_ground (x := Value.null)
  · exact h w (List.mem_of_getElem? hget)

theorem avoids_flatten_replicate {xs : List α} (h : Avoids K xs) (n : Nat) :
    Avoids K (List.replicate n xs).flatten := by
  intro x hx
  obtain ⟨ys, hys, hx⟩ := List.mem_flatten.1 hx
  rw [List.eq_of_mem_replicate hys] at hx
  exact h x hx

theorem avoids_map_fst {entries : List (α × β)} (h : Avoids K entries) :
    Avoids K (entries.map (·.1)) := by
  intro x hx
  obtain ⟨entry, hentry, rfl⟩ := List.mem_map.1 hx
  exact (h entry hentry).1

instance (xs : List α) [h : ∀ x : α, Ground x] : Ground xs := ⟨fun K x _ => (h x).avoids K⟩
instance (o : Option α) [h : ∀ x : α, Ground x] : Ground o := ⟨fun K x _ => (h x).avoids K⟩
instance (p : α × β) [h : Ground p.1] [h' : Ground p.2] : Ground p :=
  ⟨fun K => ⟨h.avoids K, h'.avoids K⟩⟩
instance {γ : Type} (f : γ → α) [h : ∀ x, Ground (f x)] (xs : List γ) : Ground (xs.map f) where
  avoids K y hy := by
    obtain ⟨x, -, rfl⟩ := List.mem_map.1 hy
    exact (h x).avoids K

instance (xs : List α) (ys : List β) [hxs : Ground xs] [hys : Ground ys] : Ground (xs.zip ys) where
  avoids K _ hp := ⟨hxs.avoids K _ (List.of_mem_zip hp).1, hys.avoids K _ (List.of_mem_zip hp).2⟩

instance (xs ys : List α) [hxs : Ground xs] [hys : Ground ys] : Ground (xs ++ ys) :=
  ⟨fun K => avoids_append.2 ⟨hxs.avoids K, hys.avoids K⟩⟩

instance (p : Prop) [Decidable p] (x y : α) [hx : Ground x] [hy : Ground y] :
    Ground (if p then x else y) := by
  split <;> infer_instance

instance : Ground ([] : List α) := ⟨fun _ => avoids_nil⟩

instance (x : α) (xs : List α) [hx : Ground x] [hxs : Ground xs] : Ground (x :: xs) :=
  ⟨fun K => avoids_cons.2 ⟨hx.avoids K, hxs.avoids K⟩⟩

/-- A value that is found in a table, and the key that it is found by. -/
theorem avoids_of_get? {κ : Type} [DecidableEq κ] [Referring κ] {t : Table κ} {key : κ} {v : Value}
    (ht : Avoids K t) (h : t.get? key = some v) : Avoids K v := by
  induction t with
  | nil => cases h
  | cons entry rest ih =>
    rw [avoids_cons] at ht
    rw [Table.get?, List.lookup_cons] at h
    split at h
    · cases h
      exact ht.1.2
    · exact ih ht.2 h

/-- An entry that is put into a table brings a key and a value with it, and nothing else. -/
theorem avoids_put {κ : Type} [DecidableEq κ] [Referring κ] {t : Table κ} {key : κ} {v : Value}
    (ht : Avoids K t) (hkey : Avoids K key) (hv : Avoids K v) : Avoids K (t.put key v) := by
  induction t with
  | nil => exact avoids_cons.2 ⟨⟨hkey, hv⟩, avoids_nil⟩
  | cons entry rest ih =>
    obtain ⟨k, w⟩ := entry
    rw [avoids_cons] at ht
    rw [Table.put]
    split
    · exact avoids_cons.2 ⟨⟨ht.1.1, hv⟩, ht.2⟩
    · exact avoids_cons.2 ⟨ht.1, ih ht.2⟩

/-! ### Objects

An object refers to what it holds. A record holds nothing but the address of its dictionary; its
attributes are in there.
-/

@[simp] theorem avoids_list {items : List Value} : Avoids K (Cell.list items) ↔ Avoids K items :=
  Iff.rfl

@[simp] theorem avoids_tuple {items : List Value} : Avoids K (Cell.tuple items) ↔ Avoids K items :=
  Iff.rfl

@[simp] theorem avoids_dict {entries : Table Value} :
    Avoids K (Cell.dict entries) ↔ Avoids K entries := Iff.rfl

@[simp] theorem avoids_record {r : Record} : Avoids K (Cell.record r) ↔ Avoids K r := Iff.rfl

@[simp] theorem avoids_attributes {r : Record} : Avoids K r ↔ r.attributes ∉ K := Iff.rfl

@[simp] theorem avoids_iterator {it : Iterator} : Avoids K (Cell.iterator it) ↔ Avoids K it :=
  Iff.rfl

end Values

/-! ### What belongs to a kind

Descriptions of kinds and operations are texts and tuples of texts, which are the same in every
store.
-/

instance {α : Type} [Referring α] : Ground (none : Option α) := ⟨fun _ => avoids_none⟩

instance {α : Type} [Referring α] (x : α) [h : Ground x] : Ground (some x) :=
  ⟨fun K => avoids_some.2 (h.avoids K)⟩

instance {α γ : Type} [Referring α] (f : γ → α) [h : ∀ x, Ground (f x)] (o : Option γ) :
    Ground (o.map f) where
  avoids K y hy := by
    obtain ⟨x, -, rfl⟩ := Option.map_eq_some_iff.1 hy
    exact (h x).avoids K

instance (o : Option Value) (d : Value) [ho : Ground o] [hd : Ground d] : Ground (o.getD d) where
  avoids K := by
    cases o with
    | none => exact hd.avoids K
    | some v => exact avoids_some.1 (ho.avoids K)

instance (k : Kind) (name : String) : Ground (k.fieldDefault? name) where
  avoids K v hv := by
    have hdefaults : Avoids K Settings.defaults := by simp [Settings.defaults]
    unfold Kind.fieldDefault? at hv
    split at hv
    · exact avoids_of_get? hdefaults hv
    · cases hv

instance (o : Option String) : Ground (Value.ofText? o) := by
  unfold Value.ofText?
  split <;> infer_instance

instance (k : Kind) : Ground k.manualText := by
  unfold Kind.manualText
  infer_instance

instance (k : Kind) (name : String) : Ground (k.memberText name) := by
  unfold Kind.memberText
  infer_instance

instance (k : Kind) (name : String) : Ground (k.memberSignature name) := by
  unfold Kind.memberSignature
  infer_instance

instance (k : Kind) (name : String) : Ground (k.constant name) := by
  unfold Kind.constant
  split <;> infer_instance

instance (k : Kind) (operation name : String) : Ground (k.functionProperty operation name) := by
  unfold Kind.functionProperty
  split <;> infer_instance

instance (k : Kind) (name : String) : Ground (k.property? name) := by
  unfold Kind.property?
  split <;> infer_instance

/-- An attribute of a kind, as a value, is a constant of the program. -/
instance (k : Kind) (name : String) : Ground (k.attribute? name) := by
  unfold Kind.attribute?
  split
  · infer_instance
  · infer_instance
  · split <;> infer_instance

instance (items : List Value) [h : Ground items] : Ground (Cell.tuple items) := ⟨h.avoids⟩

instance (entries : Table Value) [h : Ground entries] : Ground (Cell.dict entries) := ⟨h.avoids⟩

instance : Ground Value.madeAnew := inferInstanceAs (Ground (Value.shown _ _))

/-- What describes a kind refers to nothing. -/
instance (d : Description) : Ground d.cell := by
  unfold Description.cell
  split <;> infer_instance

/-! ### Reading from a store

All that is read is read through the object at an address that is not in `K`, and that object refers
to nothing in `K`. The lemmas follow the definitions by which attributes, items and elements are
looked up, case by case.
-/

namespace Store

variable {K : Set Addr} {s : Store}

/-- The object that a value refers to. -/
theorem avoids_of_cell? {v : Value} {c : Cell} (hs : Avoids K s) (hv : Avoids K v)
    (h : s.cell? v = some c) : Avoids K c := by
  unfold cell? at h
  split at h
  · exact hs _ c hv h
  · cases h
    exact avoids_of_ground
  · cases h

/-- The attributes of a record are in a dictionary that the record refers to. -/
theorem avoids_attributesAt {a : Addr} (hs : Avoids K s) (ha : a ∉ K) :
    Avoids K (s.attributesAt a) := by
  unfold attributesAt
  split
  · exact hs a _ ha ‹_›
  · exact avoids_nil

/-! #### Attributes -/

theorem avoids_operationProperty {owner : Value} (h : Avoids K owner) (operation name : String) :
    Avoids K (s.operationProperty owner operation name) := by
  unfold operationProperty
  dsimp only
  split
  · exact h
  all_goals exact avoids_of_ground

/-- A property of a value is a constant, a part of the value, or tells the kind. -/
theorem avoids_property {v : Value} (h : Avoids K v) (name : String) :
    Avoids K (s.property v name) := by
  unfold property
  split
  -- a value has a part that refers to something only if it is an operation
  all_goals
    first
    | exact avoids_of_ground
    | exact avoids_operationProperty (avoids_operation.1 h) _ _
    | exact h

/-- What a value has by its kind is an operation of the value, or a constant of the kind. -/
theorem avoids_of_member? {v w : Value} {name : String} (hv : Avoids K v)
    (h : s.member? v name = some w) : Avoids K w := by
  unfold member? at h
  dsimp only at h
  split at h
  · cases h
  all_goals cases h
  · exact avoids_property hv name
  · exact avoids_property hv name
  · exact avoids_of_ground
  · exact avoids_of_ground
  · exact avoids_of_ground
  all_goals exact hv

/-- The attribute of a record: its kind, its dictionary, an entry of that, or what its kind
declares. -/
theorem avoids_of_recordAttribute? {a : Addr} {r : Record} {name : String} {w : Value}
    (hs : Avoids K s) (ha : a ∉ K) (hr : Avoids K r) (h : s.recordAttribute? a r name = some w) :
    Avoids K w := by
  unfold recordAttribute? at h
  split at h
  · cases h
    exact avoids_of_ground
  · cases h
    exact hr
  · cases h
    exact avoids_of_ground
  · rw [Option.or_eq_some_iff] at h
    obtain h | ⟨-, h⟩ := h
    · exact avoids_of_get? (avoids_attributesAt hs hr) h
    · split at h
      · cases h
        exact ha
      · exact avoids_of_member? (v := .ref a) ha h

/-- **Attributes.** What is read from a value that avoids `K` avoids `K`. -/
theorem avoids_of_lookup {v w : Value} {name : String} (hs : Avoids K s) (hv : Avoids K v)
    (h : s.lookup v name = .ok w) : Avoids K w := by
  have hfound : s.lookup? v name = some w := by
    unfold lookup at h
    split at h
    · cases h
      assumption
    · split at h <;> cases h
  unfold lookup? at hfound
  split at hfound
  · exact Ground.avoids (x := Kind.attribute? _ name) K w hfound
  · rw [Option.or_eq_some_iff] at hfound
    obtain hfound | ⟨-, hfound⟩ := hfound
    · exact avoids_of_member? hv hfound
    · exact avoids_of_member? avoids_of_ground hfound
  · split at hfound
    · rename_i a r hcell
      exact avoids_of_recordAttribute? hs hv (hs _ _ hv hcell) hfound
    · exact avoids_of_member? hv hfound
  · exact avoids_of_member? hv hfound

/-! #### Elements and items -/

/-- What an iterator still gives is in what it goes through. -/
theorem avoids_of_ahead {it : Iterator} {items : List Value} (hs : Avoids K s) (hit : Avoids K it)
    (h : it.ahead s = .ok items) : Avoids K items := by
  unfold Iterator.ahead at h
  split at h
  · split at h
    · cases h
      exact avoids_of_subset (hs _ _ hit ‹_›) (List.drop_subset _ _)
    · cases h
      exact avoids_nil
  · split at h
    · split at h
      · cases h
        exact avoids_of_subset (avoids_map_fst (hs _ _ hit ‹_›)) (List.drop_subset _ _)
      · cases h
    · cases h
      exact avoids_nil
  · cases h
    exact avoids_of_ground
  · cases h
    exact avoids_of_subset hit (List.drop_subset _ _)
  · cases h
  · cases h
    exact avoids_nil

/-- **Elements.** What a value that avoids `K` gives avoids `K`. -/
theorem avoids_of_elements {v : Value} {items : List Value} (hs : Avoids K s) (hv : Avoids K v)
    (h : s.elements v = .ok items) : Avoids K items := by
  unfold elements at h
  split at h
  · cases h
    exact avoids_of_ground
  · cases h
    exact avoids_of_ground
  · split at h
    · cases h
      exact avoids_of_cell? hs hv ‹_›
    · cases h
      exact avoids_of_cell? hs hv ‹_›
    · cases h
      exact avoids_map_fst (avoids_of_cell? hs hv ‹_›)
    · exact avoids_of_ahead hs (avoids_of_cell? hs hv ‹_›) h
    · cases h

theorem avoids_of_itemAt {k : Kind} {items : List Value} {i : Int} {w : Value}
    (hitems : Avoids K items) (h : itemAt k items i = .ok w) : Avoids K w := by
  unfold itemAt at h
  split at h
  · cases h
  · split at h
    · rename_i found
      cases h
      obtain ⟨j, -, hj⟩ := Option.bind_eq_some_iff.1 found
      exact hitems w (List.mem_of_getElem? hj)
    · cases h

/-- A value that is found by its key is among those of the entries, however keys are compared. -/
theorem avoids_of_entryOf {same : Value → Value → Except Fault Bool} {key : Value}
    {entries : Table Value} {o : Option Value} (hentries : Avoids K entries)
    (h : entryOf? same key entries = .ok o) : Avoids K o := by
  induction entries with
  | nil =>
    cases h
    exact avoids_none
  | cons entry rest ih =>
    obtain ⟨k, v⟩ := entry
    rw [avoids_cons] at hentries
    obtain ⟨found, -, h⟩ := bind_eq_ok.1 h
    split at h
    · cases h
      exact avoids_some.2 hentries.1.2
    · exact ih hentries.2 h

theorem avoids_of_entryFound {entries : Table Value} {key : Value} {o : Option Value}
    (hentries : Avoids K entries) (h : s.entry? entries key = .ok o) : Avoids K o := by
  obtain ⟨-, -, h⟩ := bind_eq_ok.1 h
  exact avoids_of_entryOf hentries h

theorem avoids_of_entry {entries : Table Value} {key w : Value} (hentries : Avoids K entries)
    (h : s.entry entries key = .ok w) : Avoids K w := by
  obtain ⟨o, ho, h⟩ := bind_eq_ok.1 h
  split at h
  · cases h
    exact avoids_some.1 (avoids_of_entryFound hentries ho)
  · cases h

/-- **Items.** What is found in a value that avoids `K` avoids `K`. -/
theorem avoids_of_item {v i w : Value} (hs : Avoids K s) (hv : Avoids K v)
    (h : s.item v i = .ok w) : Avoids K w := by
  unfold item at h
  split at h
  · obtain ⟨j, -, h⟩ := bind_eq_ok.1 h
    exact avoids_of_itemAt avoids_of_ground h
  · obtain ⟨j, -, h⟩ := bind_eq_ok.1 h
    split at h
    · cases h
      exact avoids_of_ground
    · cases h
  · split at h
    · obtain ⟨j, -, h⟩ := bind_eq_ok.1 h
      exact avoids_of_itemAt (avoids_of_cell? hs hv ‹_›) h
    · obtain ⟨j, -, h⟩ := bind_eq_ok.1 h
      exact avoids_of_itemAt (avoids_of_cell? hs hv ‹_›) h
    · exact avoids_of_entry (avoids_of_cell? hs hv ‹_›) h
    · cases h

/-! #### Entries that are added and taken away -/

/-- An entry takes the place of one with an equal key, or comes last. -/
theorem avoids_of_putEntry {key v : Value} {entries others : Table Value}
    (hentries : Avoids K entries) (hkey : Avoids K key) (hv : Avoids K v)
    (h : s.putEntry key v entries = .ok others) : Avoids K others := by
  induction entries generalizing others with
  | nil =>
    cases h
    exact avoids_cons.2 ⟨⟨hkey, hv⟩, avoids_nil⟩
  | cons entry rest ih =>
    obtain ⟨k, w⟩ := entry
    rw [avoids_cons] at hentries
    obtain ⟨found, -, h⟩ := bind_eq_ok.1 h
    split at h
    · cases h
      exact avoids_cons.2 ⟨⟨hentries.1.1, hv⟩, hentries.2⟩
    · obtain ⟨later, hlater, h⟩ := bind_eq_ok.1 h
      cases h
      exact avoids_cons.2 ⟨hentries.1, ih hentries.2 hlater⟩

theorem avoids_of_addEntry {key v : Value} {entries others : Table Value}
    (hentries : Avoids K entries) (hkey : Avoids K key) (hv : Avoids K v)
    (h : s.addEntry entries key v = .ok others) : Avoids K others := by
  obtain ⟨-, -, h⟩ := bind_eq_ok.1 h
  exact avoids_of_putEntry hentries hkey hv h

end Store

end Walkthrough
