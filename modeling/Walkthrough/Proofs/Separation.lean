import Walkthrough.Proofs.Growth
import Walkthrough.Proofs.IteratorHistory

/-!
# Records that keep their attributes apart

As long as no record is given the dictionary of another one, each has a dictionary of its own: it is
made with a new one. Then what is written to a record changes that record alone, and what it has under
a name is what has been written last there, or what it had before.

Two records may be equal, and any number of variables and attributes may hold the same one. It is
the address that is written to.

## Why addresses and not values

Two records may hold the same, be equal, and be displayed alike, and still one of them can be
changed without the other. So writes are recorded with the reference they go to. That a write to one
record does not show in another is a matter of their dictionaries being different objects, and this
is the invariant, `Store.Separate`. It is kept by making records, since each new one comes with its
own dictionary, and by setting attributes under any name but `__dict__`.

The set `K` is for dictionaries that belong to no record in the store: those of the steps. A step is
not an object that a value refers to, and its dictionary may be written to without a record being
changed.

## How writes are accounted for

`Store.Written` compares a store with an earlier one and a list of writes between them. For each
record that was there and each name it says what is found now: the last write to that record under
that name, or else what was found before. It composes along lists of writes, by `Written.trans`.

## Main definitions

* `Write`, `Write.last?` — an attribute that has been set, and the last of some writes
* `Store.Separate` — each record has a dictionary of its own
* `Store.Written` — a store in which records have the attributes that have been written last

## Main results

* `Store.Grows.written` — making objects
* `Store.Separate.written_of_same` — changing what is neither a record nor a dictionary
* `Store.Separate.written_assign` — setting an attribute
-/

namespace Walkthrough

/-! ### Writes -/

/-- An attribute that has been set: of which value, under which name, and to what. -/
structure Write where
  target : Value
  name : String
  value : Value
deriving DecidableEq

/-- What has been written last under a name to the object at an address. -/
def Write.last? (writes : List Write) (a : Addr) (name : String) : Option Value :=
  (writes.reverse.find? fun w => w.target = .ref a ∧ w.name = name).map (·.value)

namespace Write

variable {a : Addr} {name : String}

/-- Later writes count before earlier ones. -/
theorem last?_append (writes later : List Write) :
    last? (writes ++ later) a name = (last? later a name).or (last? writes a name) := by
  simp only [last?, List.reverse_append, List.find?_append, Option.map_or]

theorem last?_singleton_of_ne {w : Write} (h : ¬ (w.target = .ref a ∧ w.name = name)) :
    last? [w] a name = none := by
  simp [last?, h]

theorem last?_eq_none {writes : List Write} (h : ∀ w ∈ writes, w.target ≠ .ref a) :
    last? writes a name = none := by
  rw [last?, Option.map_eq_none_iff, List.find?_eq_none]
  intro w hw
  simp [h w (List.mem_reverse.1 hw)]

end Write

namespace Store

variable {B : Set String} {K K' : Set Addr} {s t u : Store}

/-! ### Stores and what is written to them -/

/-- Each record keeps its attributes in a dictionary that no other record has, and none of them is
under a name in `B`. The dictionaries at the addresses in `K` belong to no record.

The clause `own` is the one that matters. The others are what is needed to keep it: a new record
must be told from a step, whose dictionary is in `K`; a dictionary has to be one still when
something else is changed; and the names in `B` are missing from all records, so that what a kind
declares under these names is what is found. -/
structure Separate (B : Set String) (K : Set Addr) (s : Store) : Prop where
  isRecord : ∀ a r, s.get? a = some (.record r) → r.kind.isRecord = true
  dictionary : ∀ a r, s.get? a = some (.record r) → ∃ entries, s.get? r.attributes = some (.dict entries)
  own : ∀ a b r q, s.get? a = some (.record r) → s.get? b = some (.record q) →
    r.attributes = q.attributes → a = b
  lacks : ∀ a r, s.get? a = some (.record r) → ∀ name ∈ B, s.attribute? r name = none
  others : ∀ b ∈ K, ∃ entries, s.get? b = some (.dict entries)
  apart : ∀ b ∈ K, ∀ a r, s.get? a = some (.record r) → r.attributes ≠ b

/-- Each record has the attributes that it had, with the last of some writes in place of them. A
kind that is written is kept in the record itself.

Records are compared at their addresses, and attributes by what is found under each name, so that
the order of entries in a dictionary does not matter. -/
structure Written (B : Set String) (K : Set Addr) (writes : List Write) (s t : Store) : Prop where
  separate : t.Separate B K
  record : ∀ a r, s.get? a = some (.record r) → ∃ k, t.get? a = some (.record ⟨k, r.attributes⟩) ∧
    ∀ name ≠ "__class__",
      t.attribute? r name = (Write.last? writes a name).or (s.attribute? r name)

theorem Written.refl (hs : s.Separate B K) : Written B K [] s s :=
  ⟨hs, fun _ r hr => ⟨r.kind, hr, fun _ _ => rfl⟩⟩

/-- Writes of two stretches, one after the other. What the second one does not write is what the
first one has left. -/
theorem Written.trans {writes later : List Write} (hst : Written B K writes s t)
    (htu : Written B K' later t u) : Written B K' (writes ++ later) s u := by
  refine ⟨htu.separate, fun a r hr => ?_⟩
  obtain ⟨k, ht, hfirst⟩ := hst.record a r hr
  obtain ⟨k', hu, hlater⟩ := htu.record a _ ht
  refine ⟨k', hu, fun name hname => ?_⟩
  show u.attribute? ⟨k, r.attributes⟩ name = _
  rw [hlater name hname, Write.last?_append, Option.or_assoc]
  exact congrArg _ (hfirst name hname)

/-- What makes no writes may come first. -/
theorem Written.after {writes : List Write} (hst : Written B K [] s t)
    (htu : Written B K' writes t u) : Written B K' writes s u :=
  hst.trans htu

theorem Separate.mono (hs : s.Separate B K) (h : K' ⊆ K) : s.Separate B K' :=
  { hs with
    others := fun b hb => hs.others b (h hb)
    apart := fun b hb => hs.apart b (h hb) }

/-- The dictionary of a record is there. -/
theorem Separate.attributes_lt (hs : s.Separate B K) {a : Addr} {r : Record}
    (hr : s.get? a = some (.record r)) : r.attributes < s.size := by
  obtain ⟨entries, hentries⟩ := hs.dictionary a r hr
  exact lt_of_get? hentries

/-- Dictionaries stay dictionaries, records keep theirs, and no record is new. -/
theorem Separate.transfer (hs : s.Separate B K)
    (hdict : ∀ a entries, s.get? a = some (.dict entries) →
      ∃ others, t.get? a = some (.dict others))
    (hrecord : ∀ a q, t.get? a = some (.record q) →
      q.kind.isRecord = true ∧ ∃ p, s.get? a = some (.record p) ∧ q.attributes = p.attributes)
    (hlacks : ∀ a p, s.get? a = some (.record p) → ∀ name ∈ B, t.attribute? p name = none) :
    t.Separate B K where
  isRecord a q hq := (hrecord a q hq).1
  dictionary a q hq := by
    obtain ⟨-, p, hp, heq⟩ := hrecord a q hq
    obtain ⟨entries, hentries⟩ := hs.dictionary a p hp
    exact heq ▸ hdict _ entries hentries
  own a b q q' hq hq' heq := by
    obtain ⟨-, p, hp, hqp⟩ := hrecord a q hq
    obtain ⟨-, p', hp', hqp'⟩ := hrecord b q' hq'
    exact hs.own a b p p' hp hp' (hqp.symm.trans (heq.trans hqp'))
  lacks a q hq name hname := by
    obtain ⟨-, p, hp, heq⟩ := hrecord a q hq
    rw [attribute?, heq]
    exact hlacks a p hp name hname
  others b hb := by
    obtain ⟨entries, hentries⟩ := hs.others b hb
    exact hdict b entries hentries
  apart b hb a q hq := by
    obtain ⟨-, p, hp, heq⟩ := hrecord a q hq
    exact heq ▸ hs.apart b hb a p hp

/-! ### Making objects

A new object is none of those that there were, and a new record has the dictionary that was made
right before it.
-/

theorem record_of_alloc {c : Cell} (hc : ∀ r, c ≠ .record r) {a : Addr} {r : Record}
    (h : (s.alloc c).2.get? a = some (.record r)) : s.get? a = some (.record r) := by
  rcases cases_of_get?_alloc h with hold | ⟨-, hnew⟩
  · exact hold
  · exact absurd hnew.symm (hc r)

/-- Objects that are made do not change an attribute. -/
theorem Separate.attribute?_eq (hs : s.Separate B K) (hst : s.Extends t) {a : Addr} {r : Record}
    (hr : s.get? a = some (.record r)) (name : String) :
    t.attribute? r name = s.attribute? r name := by
  rw [attribute?, attribute?, hst.attributesAt_eq (hs.attributes_lt hr)]

/-- Objects have been made, but no records. -/
theorem Separate.of_extends (hs : s.Separate B K) (hst : s.Extends t)
    (h : ∀ a r, t.get? a = some (.record r) → s.get? a = some (.record r)) : t.Separate B K := by
  refine hs.transfer (fun a entries ha => ⟨entries, hst.get?_of_some ha⟩) (fun a q hq => ?_)
    fun a p hp name hname => ?_
  · exact ⟨hs.isRecord a q (h a q hq), q, h a q hq, rfl⟩
  · rw [hs.attribute?_eq hst hp, hs.lacks a p hp name hname]

theorem Separate.alloc (hs : s.Separate B K) {c : Cell} (hc : ∀ r, c ≠ .record r) :
    (s.alloc c).2.Separate B K :=
  hs.of_extends (extends_alloc s c) fun _ _ => record_of_alloc hc

/-- A new dictionary belongs to no record. -/
theorem Separate.alloc_dict (hs : s.Separate B K) (entries : Table Value) :
    (s.alloc (.dict entries)).2.Separate B (insert s.size K) := by
  have hmade := hs.alloc (c := .dict entries) nofun
  refine { hmade with others := ?_, apart := ?_ }
  · rintro b (rfl | hb)
    · exact ⟨entries, get?_alloc_self s _⟩
    · exact hmade.others b hb
  · rintro b (rfl | hb) a r hr
    · exact (hs.attributes_lt (record_of_alloc (c := .dict entries) nofun hr)).ne
    · exact hmade.apart b hb a r hr

/-- A record is made with a dictionary that belongs to no other. -/
theorem Separate.alloc_record {d : Addr} (hs : s.Separate B (insert d K)) (hd : d ∉ K) {k : Kind}
    (hk : k.isRecord = true) (hlacks : ∀ name ∈ B, s.attribute? ⟨k, d⟩ name = none) :
    (s.alloc (.record ⟨k, d⟩)).2.Separate B K := by
  have hst := extends_alloc s (.record ⟨k, d⟩)
  obtain ⟨entries, hentries⟩ := hs.others d (Set.mem_insert d K)
  have hcases {a : Addr} {r : Record} (hr : (s.alloc (.record ⟨k, d⟩)).2.get? a = some (.record r)) :
      s.get? a = some (.record r) ∧ r.attributes ≠ d ∨ a = s.size ∧ r = ⟨k, d⟩ := by
    rcases cases_of_get?_alloc hr with hold | ⟨ha, hnew⟩
    · exact .inl ⟨hold, hs.apart d (Set.mem_insert d K) a r hold⟩
    · cases hnew
      exact .inr ⟨ha, rfl⟩
  constructor
  · intro a r hr
    rcases hcases hr with ⟨hold, -⟩ | ⟨-, rfl⟩
    · exact hs.isRecord a r hold
    · exact hk
  · intro a r hr
    rcases hcases hr with ⟨hold, -⟩ | ⟨-, rfl⟩
    · obtain ⟨entries, hentries⟩ := hs.dictionary a r hold
      exact ⟨entries, hst.get?_of_some hentries⟩
    · exact ⟨entries, hst.get?_of_some hentries⟩
  · intro a b r q hr hq heq
    rcases hcases hr with ⟨hold, hne⟩ | ⟨rfl, rfl⟩ <;> rcases hcases hq with ⟨hold', hne'⟩ | ⟨rfl, rfl⟩
    · exact hs.own a b r q hold hold' heq
    · exact absurd heq hne
    · exact absurd heq.symm hne'
    · rfl
  · intro a r hr name hname
    rcases hcases hr with ⟨hold, -⟩ | ⟨-, rfl⟩
    · rw [hs.attribute?_eq hst hold]
      exact hs.lacks a r hold name hname
    · rw [← hlacks name hname, attribute?, attribute?, hst.attributesAt_eq (lt_of_get? hentries)]
  · intro b hb
    obtain ⟨entries, hentries⟩ := hs.others b (Set.mem_insert_of_mem d hb)
    exact ⟨entries, hst.get?_of_some hentries⟩
  · intro b hb a r hr
    rcases hcases hr with ⟨hold, -⟩ | ⟨-, rfl⟩
    · exact hs.apart b (Set.mem_insert_of_mem d hb) a r hold
    · rintro rfl
      exact hd hb

/-- A record begins with fields only, and with a new dictionary. -/
theorem Separate.allocRecord (hB : ∀ name ∈ B, ∀ k : Kind, name ∉ k.fieldNames)
    (hs : s.Separate B K) {k : Kind} {attributes : Bindings} (hk : k.isRecord = true)
    (hnames : ∀ binding ∈ attributes, binding.1 ∈ k.fieldNames) :
    (s.allocRecord k attributes).2.Separate B K := by
  refine (hs.alloc_dict (.ofNames attributes)).alloc_record (fun hmem => ?_) hk fun name hname => ?_
  · obtain ⟨entries, hentries⟩ := hs.others _ hmem
    exact Nat.lt_irrefl _ (lt_of_get? hentries)
  · have hnone : name ∉ attributes.map (·.1) := by
      intro hmem
      obtain ⟨binding, hbinding, rfl⟩ := List.mem_map.1 hmem
      exact hB _ hname k (hnames binding hbinding)
    rw [attribute?, attributesAt, get?_alloc_self]
    exact (Table.get?_ofNames attributes name).trans (Table.get?_eq_none_of_notMem hnone)

theorem Grows.extends (h : s.Grows t) : s.Extends t := by
  induction h with
  | refl => exact .refl s
  | mark _ marks ih => exact ⟨ih.size_le, ih.get?_eq⟩
  | object _ _ ih => exact ih.trans (extends_alloc _ _)
  | record _ _ _ ih => exact ih.trans (extends_allocRecord _ _ _)

theorem Grows.separate (hB : ∀ name ∈ B, ∀ k : Kind, name ∉ k.fieldNames) (h : s.Grows t)
    (hs : s.Separate B K) : t.Separate B K := by
  induction h with
  | refl => exact hs
  | mark _ marks ih => exact ih.of_extends ⟨Nat.le_refl _, fun _ _ => rfl⟩ fun _ _ => id
  | object _ hc ih => exact ih.alloc hc
  | record _ hk hnames ih => exact ih.allocRecord hB hk hnames

/-- **Making objects** writes nothing. -/
theorem Grows.written (hB : ∀ name ∈ B, ∀ k : Kind, name ∉ k.fieldNames) (h : s.Grows t)
    (hs : s.Separate B K) : Written B K [] s t :=
  ⟨h.separate hB hs, fun _ r hr => ⟨r.kind, h.extends.get?_of_some hr, fun name _ =>
    hs.attribute?_eq h.extends hr name⟩⟩

/-! ### Changing objects

An object may be changed that holds no attributes, as lists and iterators; or a dictionary, and with
it one record; or a record, and then only its kind.
-/

/-- **What changes neither records nor dictionaries** writes nothing. -/
theorem Separate.written_of_same (hs : s.Separate B K)
    (h : ∀ a c, c.holdsAttributes = true → (t.get? a = some c ↔ s.get? a = some c)) :
    Written B K [] s t := by
  have hrecord (a : Addr) (r : Record) := h a (.record r) rfl
  have hdict (a : Addr) (entries : Table Value) := h a (.dict entries) rfl
  have hattribute {a : Addr} {r : Record} (hr : s.get? a = some (.record r)) (name : String) :
      t.attribute? r name = s.attribute? r name := by
    obtain ⟨entries, hentries⟩ := hs.dictionary a r hr
    rw [attribute?, attribute?, attributesAt, attributesAt, hentries, (hdict _ _).2 hentries]
  refine ⟨hs.transfer (fun a entries ha => ⟨entries, (hdict a entries).2 ha⟩) (fun a q hq => ?_)
    fun a p hp name hname => ?_, fun a r hr => ⟨r.kind, (hrecord a r).2 hr, fun name _ =>
      hattribute hr name⟩⟩
  · have hq := (hrecord a q).1 hq
    exact ⟨hs.isRecord a q hq, q, hq, rfl⟩
  · rw [hattribute hp, hs.lacks a p hp name hname]

/-- Iterators that move are neither records nor dictionaries. -/
theorem MovesWithin.written {W : Set Addr} (h : s.MovesWithin W t) (hs : s.Separate B K) :
    Written B K [] s t := by
  refine hs.written_of_same fun a c hc => ?_
  rcases h.cell a with hsame | ⟨-, it, moved, hit, hmoved, -⟩
  · rw [hsame]
  · rw [hit, hmoved]
    constructor <;> rintro ⟨⟩ <;> cases hc

/-- A list may be replaced by another one. -/
theorem Separate.written_list (hs : s.Separate B K) {a : Addr} {items : List Value}
    (ha : s.get? a = some (.list items)) (others : List Value) :
    Written B K [] s (s.put a (.list others)) := by
  refine hs.written_of_same fun b c hc => ?_
  by_cases hba : b = a
  · subst hba
    rw [get?_put_self (lt_of_get? ha), ha]
    constructor <;> rintro ⟨⟩ <;> cases hc
  · rw [get?_put_of_ne hba]

/-- **An entry of a dictionary is set**, which belongs to one record, or to none. -/
theorem Separate.written_putAttribute (hs : s.Separate B K) {e : Record} {entries : Table Value}
    (he : s.get? e.attributes = some (.dict entries)) {name : String} {v : Value}
    (hname : name ∉ B ∨ e.attributes ∈ K) {writes : List Write}
    (hwrites : ∀ a r, s.get? a = some (.record r) → ∀ other,
      Write.last? writes a other =
        if r.attributes = e.attributes ∧ other = name then some v else none) :
    Written B K writes s (s.putAttribute e name v) := by
  have hlt := lt_of_get? he
  have hdict (b : Addr) (others : Table Value) (hb : s.get? b = some (.dict others)) :
      ∃ others', (s.putAttribute e name v).get? b = some (.dict others') := by
    by_cases hbe : b = e.attributes
    · subst hbe
      exact ⟨_, get?_put_self hlt _⟩
    · exact ⟨others, (get?_put_of_ne hbe _).trans hb⟩
  have hrecord (a : Addr) (r : Record) :
      (s.putAttribute e name v).get? a = some (.record r) ↔ s.get? a = some (.record r) := by
    by_cases hae : a = e.attributes
    · rw [hae, he, Store.putAttribute, get?_put_self hlt]
      constructor <;> rintro ⟨⟩
    · rw [Store.putAttribute, get?_put_of_ne hae]
  have hattribute (r : Record) (other : String) :
      (s.putAttribute e name v).attribute? r other =
        if r.attributes = e.attributes ∧ other = name then some v else s.attribute? r other := by
    by_cases hre : r.attributes = e.attributes
    · have hsame {u : Store} : u.attribute? r other = u.attribute? e other := by
        rw [attribute?, attribute?, hre]
      rw [hsame, hsame]
      by_cases hother : other = name
      · rw [if_pos ⟨hre, hother⟩, hother, attribute?_putAttribute_self hlt]
      · rw [if_neg fun hboth => hother hboth.2, attribute?_putAttribute_of_ne hlt hother]
    · rw [if_neg fun hboth => hre hboth.1, attribute?, attributesAt_putAttribute_of_ne hre,
        ← attribute?]
  refine ⟨hs.transfer hdict (fun a q hq => ?_) fun a p hp other hother => ?_, fun a r hr =>
    ⟨r.kind, (hrecord a r).2 hr, fun other _ => ?_⟩⟩
  · have hq := (hrecord a q).1 hq
    exact ⟨hs.isRecord a q hq, q, hq, rfl⟩
  · rw [hattribute, if_neg, hs.lacks a p hp other hother]
    rintro ⟨hpe, rfl⟩
    exact hname.elim (· hother) fun hmem => hs.apart _ hmem a p hp hpe
  · rw [hattribute, hwrites a r hr other]
    split <;> rfl

/-- **The kind of a record is set.** -/
theorem Separate.written_kind (hs : s.Separate B K) {a : Addr} {r : Record} {k : Kind}
    (hr : s.get? a = some (.record r)) (hk : k.isRecord = true) (v w : Value) :
    Written B K [⟨v, "__class__", w⟩] s (s.put a (.record ⟨k, r.attributes⟩)) := by
  have hlt := lt_of_get? hr
  have hdict {b : Addr} {entries : Table Value} (hb : s.get? b = some (.dict entries)) :
      (s.put a (.record ⟨k, r.attributes⟩)).get? b = some (.dict entries) := by
    have hba : b ≠ a := by
      rintro rfl
      cases hr.symm.trans hb
    rw [get?_put_of_ne hba, hb]
  have hattribute {b : Addr} {p : Record} (hp : s.get? b = some (.record p)) (name : String) :
      (s.put a (.record ⟨k, r.attributes⟩)).attribute? p name = s.attribute? p name := by
    obtain ⟨entries, hentries⟩ := hs.dictionary b p hp
    rw [attribute?, attribute?, attributesAt, attributesAt, hentries, hdict hentries]
  refine ⟨hs.transfer (fun b entries hb => ⟨entries, hdict hb⟩) (fun b q hq => ?_)
    fun b p hp name hname => ?_, fun b q hq => ?_⟩
  · obtain ⟨-, hold⟩ | ⟨rfl, hnew⟩ := cases_of_get?_put hq
    · exact ⟨hs.isRecord b q hold, q, hold, rfl⟩
    · cases hnew
      exact ⟨hk, r, hr, rfl⟩
  · rw [hattribute hp, hs.lacks b p hp name hname]
  · have hkind : ∃ k', (s.put a (.record ⟨k, r.attributes⟩)).get? b =
        some (.record ⟨k', q.attributes⟩) := by
      by_cases hba : b = a
      · subst hba
        cases hr.symm.trans hq
        exact ⟨k, get?_put_self hlt _⟩
      · exact ⟨q.kind, (get?_put_of_ne hba _).trans hq⟩
    obtain ⟨k', hk'⟩ := hkind
    refine ⟨k', hk', fun name hname => ?_⟩
    rw [hattribute hq, Write.last?_singleton_of_ne fun hboth => hname hboth.2.symm, Option.none_or]

theorem put_eq_self {a : Addr} {c : Cell} (h : s.get? a = some c) : s.put a c = s := by
  have hcells : s.cells.setIfInBounds a c = s.cells := by
    refine Array.ext_getElem? fun b => ?_
    rw [Array.getElem?_setIfInBounds]
    split
    · rename_i hab
      subst hab
      rw [if_pos (show a < s.cells.size from lt_of_get? h)]
      exact h.symm
    · rfl
  rw [put, hcells]

/-- An attribute of a record is set: its kind, or an entry of its dictionary. -/
theorem Separate.written_assignRecord (hs : s.Separate B K) (hB : "__dict__" ∈ B) {a : Addr}
    {r r' : Record} {name : String} {w : Value} (hr : s.get? a = some (.record r)) (hname : name ∉ B)
    (h : s.assignRecord r name w = .ok (r', t)) :
    Written B K [⟨.ref a, name, w⟩] s (t.put a (.record r')) := by
  have hdict : name ≠ "__dict__" := fun heq => hname (heq ▸ hB)
  obtain ⟨heq, ⟨rfl, rfl, rfl⟩ | ⟨rfl, rfl⟩⟩ := assignRecord_eq_ok hdict h
  · have hk : r'.kind.isRecord = true := by
      simp only [assignRecord] at h
      split at h
      · assumption
      · cases h
    have hr' : r' = ⟨r'.kind, r.attributes⟩ := by rw [← heq]
    rw [hr']
    exact hs.written_kind hr hk _ _
  · obtain ⟨entries, hentries⟩ := hs.dictionary a r' hr
    have hput : Written B K [⟨.ref a, name, w⟩] s (s.putAttribute r' name w) := by
      refine hs.written_putAttribute hentries (.inl hname) fun b q hq other => ?_
      by_cases hba : b = a
      · subst hba
        cases hr.symm.trans hq
        simp [Write.last?, eq_comm]
      · have hne : q.attributes ≠ r'.attributes := fun hqr => hba (hs.own b a q r' hq hr hqr)
        rw [if_neg fun hboth => hne hboth.1, Write.last?_singleton_of_ne]
        exact fun hboth => hba (Value.ref.inj hboth.1).symm
    -- the record itself is put back as it was
    have hkept : (s.putAttribute r' name w).get? a = some (.record r') := by
      have hne : a ≠ r'.attributes := by
        intro heq
        rw [heq, hentries] at hr
        cases hr
      exact (get?_put_of_ne hne _).trans hr
    rwa [put_eq_self hkept]

/-- **An attribute of a value is set.** -/
theorem Separate.written_assign (hs : s.Separate B K) (hB : "__dict__" ∈ B) {v w : Value}
    {name : String} (hname : name ∉ B) (h : s.assign v name w = .ok t) :
    Written B K [⟨v, name, w⟩] s t := by
  -- what is no object has nothing that could be written
  have hsame (hv : ∀ a, v ≠ .ref a) : Written B K [⟨v, name, w⟩] s s :=
    ⟨hs, fun a r hr => ⟨r.kind, hr, fun other _ => by
      rw [Write.last?_singleton_of_ne fun hboth => hv a hboth.1, Option.none_or]⟩⟩
  unfold assign at h
  split at h
  · split at h
    · rename_i r hr
      obtain ⟨⟨r', u⟩, hassign, h⟩ := Sorting.bind_eq_ok.1 h
      cases h
      exact hs.written_assignRecord hB hr hname hassign
    · cases h
  · split at h
    · cases h
      exact hsame (by rintro _ ⟨⟩)
    · cases h
  · split at h
    · cases h
      exact hsame (by rintro _ ⟨⟩)
    · cases h
  · cases h

end Store

end Walkthrough
