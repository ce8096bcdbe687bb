import Walkthrough.Proofs.Program
import Walkthrough.Proofs.SessionConfinement

/-!
# Settings that are made later

Settings that are given no numbers and no person get a list and a person of their own, and every
other field that they are not given has its default, whatever a program has done before. Nothing
that was there refers to the new objects, so nothing that is done through the variables of the
program changes them; and what is done through them changes nothing that was there.

Two invariants carry this. A session is closed: nothing in it refers beyond its store, and what is
made is made behind all that there is, so no old object can lead to a new one. And a session that
leads to some objects only by way of its variables stays away from all others, whichever operations
are carried out in it. Both have been proved for every operation before; here they are only put to
use, once for the new objects and once for the old ones.

One thing is not protected by any of this: what the operation that sets settings up has by default.
A program that puts other values there makes settings of them from then on.

## What is counted

Settings are five objects: the list of numbers, a person and its dictionary, the settings and
theirs. They are made in this sequence and get consecutive addresses, so a store in which settings
have just been made is written as `Store.allocAll` of a list of cells. Everything else about them is
read off that list: what an address holds, what an attribute is, and what refers to what.

## Default lines

The lines of new settings are told for each topic, from `Store.HoldsDefaults`, and for a catalogue
that is as it was in the beginning. That property of a catalogue speaks of kinds and attributes
only, so that it is kept by everything that extends the store.

## Main definitions

* `Store.HoldsDefaults` — settings with a list of numbers and a person of their own

## Main results

* `Literal.build_settings_eq_ok` — what settings are built from
* `Session.allLines_default` — the lines of new settings
* `Program.settings_fresh` — settings that are made after any operations
* `Program.settings_not_fresh` — settings that are made after their defaults have been replaced
-/

namespace Walkthrough

open Referring (Avoids)

namespace Store

/-! ### Objects that are made together -/

/-- A store with more objects behind those that it has. -/
def allocAll (s : Store) (cs : List Cell) : Store := { s with cells := s.cells ++ cs.toArray }

variable {s t : Store}

/-- So many objects more. -/
theorem size_allocAll (s : Store) (cs : List Cell) : (s.allocAll cs).size = s.size + cs.length := by
  simp [allocAll, size]

/-- The new objects are behind the old ones, in their sequence. -/
theorem get?_allocAll_add (s : Store) (cs : List Cell) (i : Nat) :
    (s.allocAll cs).get? (s.size + i) = cs[i]? := by
  simp [allocAll, get?, size, Array.getElem?_append]

/-- The old objects stay where they are. -/
theorem get?_allocAll_of_lt {a : Addr} (h : a < s.size) (cs : List Cell) :
    (s.allocAll cs).get? a = s.get? a := by
  simp only [size] at h
  simp [allocAll, get?, Array.getElem?_append_left h]

theorem extends_allocAll (s : Store) (cs : List Cell) : s.Extends (s.allocAll cs) :=
  ⟨by rw [size_allocAll]; exact Nat.le_add_right _ _, fun _ ha => get?_allocAll_of_lt ha cs⟩

/-- If all new addresses are in `K`, then nothing outside has come to refer to `K`. -/
theorem avoids_allocAll {K : Set Addr} {cs : List Cell} (hs : Avoids K s)
    (hK : ∀ a, s.size ≤ a → a < s.size + cs.length → a ∈ K) : Avoids K (s.allocAll cs) := by
  intro a c ha hc
  by_cases hlt : a < s.size
  · rw [get?_allocAll_of_lt hlt] at hc
    exact hs a c ha hc
  · have hle := Nat.not_lt.1 hlt
    refine absurd (hK a hle ?_) ha
    by_contra hge
    rw [get?_eq_none_iff.2 (by rw [size_allocAll]; exact Nat.not_lt.1 hge)] at hc
    cases hc

/-- The objects of settings with a list of numbers and a person of their own, the list at the
address `m`. -/
def settingsCells (m : Addr) (attributes : Bindings) : List Cell :=
  [.list (Settings.defaultNumbers.map .int), .dict (.ofNames Person.default),
    .record ⟨.person, m + 1⟩, .dict (.ofNames attributes), .record ⟨.settings, m + 3⟩]

theorem alloc_eq_allocAll (s : Store) (c : Cell) : (s.alloc c).2 = s.allocAll [c] := by
  simp [alloc, allocAll]

theorem allocAll_allocAll (s : Store) (cs ds : List Cell) :
    (s.allocAll cs).allocAll ds = s.allocAll (cs ++ ds) := by
  simp [allocAll]

theorem fst_allocPerson (s : Store) : s.allocPerson.1 = .ref (s.size + 1) := by
  simp [allocPerson, allocRecord, newRecord]

/-- Settings are made after their list and their person. -/
theorem allocRecord_settings (s : Store) (attributes : Bindings) :
    s.allocNumbers.2.allocPerson.2.allocRecord .settings attributes =
      (.ref (s.size + 4), s.allocAll (settingsCells s.size attributes)) := by
  simp [allocNumbers, allocPerson, allocRecord, newRecord, alloc_eq_allocAll, allocAll_allocAll,
    size_allocAll, settingsCells, Prod.ext_iff]

/-- **New settings** are five objects behind all others. -/
theorem allocSettings_eq (s : Store) :
    s.allocSettings = (.ref (s.size + 4), s.allocAll (settingsCells s.size
      (Settings.withDefaults (.ref s.size) (.ref (s.size + 2))))) := by
  unfold allocSettings
  rw [← allocRecord_settings]
  simp [fst_allocPerson, allocNumbers]

end Store

namespace Literal

/-! ### What settings are built from -/

/-- Fields are built under the names that they have been given under. -/
theorem names_of_buildFields {vars given : Bindings} {fields : List (String × Literal)}
    {s t : Store} (h : buildFields vars fields s = .ok (given, t)) :
    given.map (·.1) = fields.map (·.1) := by
  induction fields generalizing given s with
  | nil =>
    rw [buildFields] at h
    cases h
    rfl
  | cons field rest ih =>
    rw [buildFields] at h
    obtain ⟨v, u, -, h⟩ := Building.bind_eq_ok h
    obtain ⟨later, w, hlater, h⟩ := Building.bind_eq_ok h
    cases h
    rw [List.map_cons, List.map_cons, ih hlater]

end Literal

theorem Table.get?_eq_none_of_notMem {t : Bindings} {name : String} (h : name ∉ t.map (·.1)) :
    t.get? name = none := by
  rw [get?, List.lookup_eq_none_iff]
  intro entry hentry
  have hne : name ≠ entry.1 := fun heq => h (heq ▸ List.mem_map_of_mem hentry)
  simpa using hne

theorem Table.get?_cons {α : Type} [DecidableEq α] (entry : α × Value) (rest : Table α) (key : α) :
    get? (entry :: rest) key = if key = entry.1 then some entry.2 else get? rest key := by
  rw [get?, List.lookup_cons]
  by_cases h : key = entry.1
  · simp [h]
  · have hne : (key == entry.1) = false := beq_false_of_ne h
    rw [hne, if_neg h]
    rfl

theorem Table.get?_ofNames (bs : Bindings) (name : String) :
    (Table.ofNames bs).get? (.text name) = bs.get? name := by
  induction bs with
  | nil => rfl
  | cons entry rest ih =>
    rw [get?_cons, ← ih]
    show get? ((Value.text entry.1, entry.2) :: ofNames rest) (.text name) = _
    simp only [get?_cons, Value.text.injEq]

theorem Table.get?_foldl_put_of_notMem {fields bs : Bindings} {name : String}
    (h : name ∉ fields.map (·.1)) :
    (fields.foldl (fun bs field => bs.put field.1 field.2) bs).get? name = bs.get? name :=
  get?_foldl_put_of_ne id fun _ hfield heq => h (List.mem_map.2 ⟨_, hfield, heq.symm⟩)

/-- A field that is not given gets a value that is made for it. -/
theorem Building.given_eq_ok {fields : Bindings} {name : String} {make : Store → Value × Store}
    {s t : Store} {v : Value} (hnone : fields.get? name = none)
    (h : given fields name make s = .ok (v, t)) : v = (make s).1 ∧ t = (make s).2 := by
  unfold given at h
  rw [hnone] at h
  have hmade : make s = (v, t) := Except.ok.inj h
  rw [hmade]
  exact ⟨rfl, rfl⟩

/-- **Settings without numbers and a person** are built behind what their fields are built from. -/
theorem Literal.build_settings_eq_ok {vars : Bindings} {fields : List (String × Literal)}
    {s t : Store} {v : Value} (hnumbers : "numbers" ∉ fields.map (·.1))
    (hperson : "person" ∉ fields.map (·.1)) (h : (Literal.settings fields).build vars s = .ok (v, t)) :
    ∃ given u, Literal.buildFields vars fields s = .ok (given, u) ∧ v = .ref (u.size + 4) ∧
      t = u.allocAll (Store.settingsCells u.size
        (given.foldl (fun bs field => bs.put field.1 field.2)
          (Settings.withDefaults (.ref u.size) (.ref (u.size + 2))))) := by
  rw [Literal.build] at h
  obtain ⟨given, u, hgiven, h⟩ := Building.bind_eq_ok h
  have hnames := names_of_buildFields hgiven
  have hnone {name : String} (hname : name ∉ fields.map (·.1)) : given.get? name = none :=
    Table.get?_eq_none_of_notMem (hnames ▸ hname)
  obtain ⟨attributes, w, hattributes, h⟩ := Building.bind_eq_ok h
  obtain ⟨checked, u', hchecked, hlater⟩ := Building.bind_eq_ok hattributes
  have hu' : u' = u := by
    unfold Building.read at hchecked
    rcases hcheck : Kind.settings.checkFields given with f | _ <;> rw [hcheck] at hchecked <;>
      cases hchecked
    rfl
  subst hu'
  obtain ⟨numbers, x, hmade, hlater⟩ := Building.bind_eq_ok hlater
  obtain ⟨rfl, rfl⟩ := Building.given_eq_ok (hnone hnumbers) hmade
  obtain ⟨person, y, hmade, hlater⟩ := Building.bind_eq_ok hlater
  obtain ⟨rfl, rfl⟩ := Building.given_eq_ok (hnone hperson) hmade
  have hattributes := (Prod.mk.inj (Except.ok.inj hlater)).1
  have hstore := (Prod.mk.inj (Except.ok.inj hlater)).2
  subst hattributes hstore
  have h := Except.ok.inj h
  rw [Store.allocRecord_settings, Store.fst_allocPerson] at h
  have hv := (Prod.mk.inj h).1
  have ht := (Prod.mk.inj h).2
  subst hv ht
  refine ⟨given, u', hgiven, rfl, ?_⟩
  simp [Store.allocNumbers]

namespace Store

/-! ### Settings at their defaults

The defaults stand here as they are. The conditions on what is given say that only fields which have
been left out have them.
-/

/-- Settings hold a list of numbers and a person that are made for them, the list at the address
`m`, and every field that is not given has its default. -/
structure HoldsDefaults (s : Store) (settings : Value) (m : Addr) (given : List String) :
    Prop where
  greeting : "greeting" ∉ given → s.lookup settings "greeting" = .ok (.text "Hello, World!")
  name : "name" ∉ given → s.lookup settings "name" = .ok (.text "Alice")
  count : "count" ∉ given → s.lookup settings "count" = .ok (.int 10)
  iterations : "iterations" ∉ given → s.lookup settings "iterations" = .ok (.int 3)
  isActive : "is_active" ∉ given → s.lookup settings "is_active" = .ok (.bool true)
  numbers : s.lookup settings "numbers" = .ok (.ref m)
  person : s.lookup settings "person" = .ok (.ref (m + 2))
  cells : s.get? m = some (.list [.int 1, .int 2, .int 3, .int 4, .int 5]) ∧
    s.get? (m + 2) = some (.record ⟨.person, m + 1⟩) ∧
    s.get? (m + 1) = some (.dict [(.text "first_name", .text "John"),
      (.text "last_name", .text "Doe"), (.text "age", .int 30)])

variable {s : Store}

/-- An attribute that a record has in its dictionary is read from there. -/
theorem lookup_of_attribute? {a : Addr} {r : Record} {name : String} {v : Value}
    (hcell : s.get? a = some (.record r)) (hname : name ∉ ["__class__", "__dict__", "__weakref__"])
    (hattribute : s.attribute? r name = some v) : s.lookup (.ref a) name = .ok v := by
  simp only [List.mem_cons, List.not_mem_nil, or_false, not_or] at hname
  obtain ⟨hclass, hdict, hweakref⟩ := hname
  have hfound : s.lookup? (.ref a) name = some v := by
    simp only [lookup?, hcell]
    unfold recordAttribute?
    split
    · exact absurd rfl hclass
    · exact absurd rfl hdict
    · exact absurd rfl hweakref
    · rw [hattribute, Option.some_or]
  simp only [lookup, hfound]

/-- What is read from settings that have just been made. -/
theorem lookup_allocAll_settingsCells (s : Store) {attributes : Bindings} {name : String} {v : Value}
    (hname : name ∉ ["__class__", "__dict__", "__weakref__"]) (h : attributes.get? name = some v) :
    (s.allocAll (settingsCells s.size attributes)).lookup (.ref (s.size + 4)) name = .ok v := by
  refine lookup_of_attribute? (get?_allocAll_add s _ 4) hname ?_
  have hcell : (s.allocAll (settingsCells s.size attributes)).get? (s.size + 3) =
      some (.dict (.ofNames attributes)) := get?_allocAll_add s _ 3
  rw [attribute?, attributesAt, hcell, Table.get?_ofNames, h]

/-- **Settings hold their defaults** when they have just been made. -/
theorem holdsDefaults_allocAll (s : Store) {given : Bindings} (hnumbers : "numbers" ∉ given.map (·.1))
    (hperson : "person" ∉ given.map (·.1)) :
    (s.allocAll (settingsCells s.size (given.foldl (fun bs field => bs.put field.1 field.2)
      (Settings.withDefaults (.ref s.size) (.ref (s.size + 2)))))).HoldsDefaults
      (.ref (s.size + 4)) s.size (given.map (·.1)) := by
  have held {name : String} {v : Value} (hspecial : name ∉ ["__class__", "__dict__", "__weakref__"])
      (hdefault : (Settings.withDefaults (.ref s.size) (.ref (s.size + 2))).get? name = some v)
      (hname : name ∉ given.map (·.1)) :
      (s.allocAll (settingsCells s.size (given.foldl (fun bs field => bs.put field.1 field.2)
        (Settings.withDefaults (.ref s.size) (.ref (s.size + 2)))))).lookup (.ref (s.size + 4)) name =
          .ok v :=
    lookup_allocAll_settingsCells s hspecial
      ((Table.get?_foldl_put_of_notMem hname).trans hdefault)
  exact {
    greeting := held (by decide) rfl
    name := held (by decide) rfl
    count := held (by decide) rfl
    iterations := held (by decide) rfl
    isActive := held (by decide) rfl
    numbers := held (by decide) rfl hnumbers
    person := held (by decide) rfl hperson
    cells := ⟨get?_allocAll_add s _ 0, get?_allocAll_add s _ 2, get?_allocAll_add s _ 1⟩ }

/-- Settings that are made with nothing given have all their defaults. -/
theorem holdsDefaults_allocSettings (s : Store) :
    s.allocSettings.2.HoldsDefaults s.allocSettings.1 s.size [] := by
  rw [allocSettings_eq]
  exact @holdsDefaults_allocAll s [] (by simp) (by simp)

/-- The list of numbers and the person lead to nothing but each other. -/
theorem HoldsDefaults.avoids_others {settings : Value} {m : Addr} {given : List String}
    (h : s.HoldsDefaults settings m given) :
    Avoids {a | a < s.size ∧ a ∉ [m, m + 1, m + 2]} s := by
  obtain ⟨hnumbers, hperson, hattributes⟩ := h.cells
  intro a c ha hc
  have hlt : a < s.size := by
    by_contra hle
    rw [get?_eq_none_iff.2 (Nat.not_lt.1 hle)] at hc
    cases hc
  have hmem : a ∈ [m, m + 1, m + 2] := by
    by_contra hmem
    exact ha ⟨hlt, hmem⟩
  simp only [List.mem_cons, List.not_mem_nil, or_false] at hmem
  obtain rfl | rfl | rfl := hmem
  · rw [hnumbers] at hc
    cases hc
    simp
  · rw [hattributes] at hc
    cases hc
    simp
  · rw [hperson] at hc
    cases hc
    simp

end Store

/-! ### Default lines

A topic reads one or two attributes of the settings. For the person, its full name is composed from
what it was made with, since a new person has nothing of its own under that name.
-/

/-- The lines of a topic with all settings at their defaults. -/
def Topic.defaultLines : Topic → List String
  | .greeting => ["Hello, World! My name is Alice."]
  | .sum => ["Sum: 15"]
  | .threshold => ["Count is greater than 5"]
  | .loop => ["Iteration 0", "Iteration 1", "Iteration 2"]
  | .person => ["John Doe is 30 years old."]

namespace Store

variable {s : Store} {settings : Value} {m : Addr}

/-- A full name is composed of the first and the last name, unless the person has another operation
under that name. -/
theorem fullName_eq_composeFullName {a : Addr} {r : Record} (hcell : s.get? a = some (.record r))
    (hkind : r.kind = .person) (hown : s.attribute? r "get_full_name" = none) (levels : Nat) :
    s.fullName (.ref a) levels = ((s.composeFullName (.ref a) levels).map .text, s) := by
  have hfound : s.lookup (.ref a) fullNameAttribute = .ok (.method a .person "get_full_name") := by
    have hfind : Kind.person.find? "get_full_name" = some (.person, .function) := rfl
    have hread : s.recordAttribute? a r "get_full_name" =
        some (.method a .person "get_full_name") := by
      simp only [recordAttribute?, hown, Option.none_or, hkind, hfind]
      rfl
    simp only [fullNameAttribute, lookup, lookup?, hcell, hread]
  have hcall : s.call (.method a .person "get_full_name") [] levels =
      ((s.composeFullName (.ref a) levels).map .text, s) := by
    show (Action.ofRecord .person "get_full_name" [.ref a] levels).run s = _
    have hchecked : (Action.checkArguments .person "get_full_name" 1).run s = (.ok (), s) := rfl
    unfold Action.ofRecord
    simp only [List.length_cons, List.length_nil]
    rw [Action.run_bind, hchecked]
    show (Action.read (fun s => s.composeFullName (.ref a) levels) >>= fun t => pure (.text t) :
      Action Value).run s = _
    rw [Action.run_bind]
    simp only [Action.read, ExceptT.run, ExceptT.mk]
    rcases s.composeFullName (.ref a) levels with f | name <;> rfl
  simp only [fullName, hfound, hcall]

theorem fullName_of_composed {a : Addr} {r : Record} {name : String} {levels : Nat}
    (hcell : s.get? a = some (.record r)) (hkind : r.kind = .person)
    (hown : s.attribute? r "get_full_name" = none)
    (hname : s.composeFullName (.ref a) levels = .ok name) :
    s.fullName (.ref a) levels = (.ok (.text name), s) := by
  rw [fullName_eq_composeFullName hcell hkind hown, hname]
  rfl

/-- The person that settings are made with, as it is found in a store in which they have their
defaults. -/
theorem lookup_person (h : s.HoldsDefaults settings m []) :
    s.lookup (.ref (m + 2)) "first_name" = .ok (.text "John") ∧
      s.lookup (.ref (m + 2)) "last_name" = .ok (.text "Doe") ∧
      s.lookup (.ref (m + 2)) "age" = .ok (.int 30) ∧
      s.attribute? ⟨.person, m + 1⟩ "get_full_name" = none := by
  obtain ⟨-, hperson, hattributes⟩ := h.cells
  have hread {name : String} : s.attribute? ⟨.person, m + 1⟩ name =
      (Table.ofNames Person.default).get? (.text name) := by
    rw [attribute?, attributesAt, hattributes]
    rfl
  exact ⟨lookup_of_attribute? hperson (by decide) (hread.trans rfl),
    lookup_of_attribute? hperson (by decide) (hread.trans rfl),
    lookup_of_attribute? hperson (by decide) (hread.trans rfl), hread.trans rfl⟩

theorem fullName_of_holdsDefaults (h : s.HoldsDefaults settings m []) (levels : Nat) :
    s.fullName (.ref (m + 2)) levels = (.ok (.text "John Doe"), s) := by
  obtain ⟨hfirst, hlast, -, hown⟩ := lookup_person h
  refine fullName_of_composed h.cells.2.1 rfl hown ?_
  simp only [composeFullName, hfirst, hlast]
  rfl

/-- **The lines of a topic** are the default ones, and the store stays as it is. -/
theorem topicLines_of_holdsDefaults (h : s.HoldsDefaults settings m []) (topic : Topic) :
    s.topicLines settings topic = (.ok topic.defaultLines, s) := by
  cases topic with
  | greeting =>
    simp only [topicLines, h.name List.not_mem_nil, h.greeting List.not_mem_nil]
    rfl
  | sum =>
    have hcell : s.cell? (.ref m) = some (.list [.int 1, .int 2, .int 3, .int 4, .int 5]) := h.cells.1
    simp only [topicLines, h.numbers, sumLine, sum, elements, hcell, moveOn]
    rfl
  | threshold =>
    simp only [topicLines, h.count List.not_mem_nil]
    rfl
  | loop =>
    simp only [topicLines, h.iterations List.not_mem_nil]
    rfl
  | person =>
    obtain ⟨-, -, hage, -⟩ := lookup_person h
    simp only [topicLines, h.person, personLine, fullName_of_holdsDefaults h, hage]
    rfl

/-! ### The catalogue as it was at the beginning

Its orders ascend, so that it is listed as it stands, and the names are those of the topics.
-/

/-- The steps have the kinds and the attributes that they have at the beginning. Whatever has been
done in the meantime does not matter, as long as it has left these, or put them back. -/
def HoldsCatalogue (s : Store) (steps : List Record) : Prop :=
  steps.map (fun e => (e.kind, s.attributesAt e.attributes)) =
    catalogue.map fun attributes => (.step, .ofNames attributes)

/-- Objects that are made change no attributes. -/
theorem HoldsCatalogue.of_extends {t : Store} {steps : List Record} (h : s.HoldsCatalogue steps)
    (hst : Extends s t) : t.HoldsCatalogue steps := by
  rw [HoldsCatalogue, ← h]
  refine List.map_congr_left fun e he => ?_
  have hmem : (e.kind, s.attributesAt e.attributes) ∈
      catalogue.map fun attributes => (Kind.step, Table.ofNames attributes) :=
    h ▸ List.mem_map_of_mem he
  have hne : s.attributesAt e.attributes ≠ [] := by
    intro hnil
    rw [hnil] at hmem
    revert hmem
    simp [catalogue, Step.make, Table.ofNames]
  have hlt : e.attributes < s.size := by
    by_contra hle
    refine hne ?_
    rw [attributesAt, get?_eq_none_iff.2 (Nat.not_lt.1 hle)]
  rw [hst.attributesAt_eq hlt]

theorem field_of_attributesAt {e : Record} {attributes : Bindings} {name : String} {v : Value}
    (h : s.attributesAt e.attributes = .ofNames attributes) (hv : attributes.get? name = some v) :
    s.field e name = .ok v := by
  rw [field, field?, attribute?, h, Table.get?_ofNames, hv, Option.some_or]

theorem mapM_integer? (keyed : List (Int × Record)) :
    ((keyed.map fun p => (Value.int p.1, p.2)).mapM fun (order, e) =>
      (Value.integer? order).map fun key => (key, e)) = some keyed := by
  induction keyed with
  | nil => rfl
  | cons p rest ih =>
    rw [List.map_cons, List.mapM_cons, ih]
    rfl

/-- Steps whose orders are integers that do not descend are listed as they stand. -/
theorem listSteps_of_pairwise {keyed : List (Int × Record)} {steps : List Record}
    (h : s.withOrders steps = .ok (keyed.map fun p => (.int p.1, p.2)))
    (hsorted : keyed.Pairwise fun p q => p.1 ≤ q.1) : s.listSteps steps = .ok (keyed.map (·.2)) := by
  have hmerge : (keyed.mergeSort fun d e => !decide (e.1 < d.1)) = keyed := by
    refine List.mergeSort_of_pairwise (hsorted.imp fun hle => ?_)
    simpa using hle
  have hby : sortedBy? (fun m n => decide (m < n)) Value.integer?
      (keyed.map fun p => (Value.int p.1, p.2)) = some (keyed.map (·.2)) := by
    unfold sortedBy?
    rw [mapM_integer?]
    simp only [Option.bind_eq_bind, Option.bind_some, hmerge]
    rfl
  simp only [listSteps, h, bind, Except.bind]
  rw [hby]
  rfl

/-- If all steps go by texts, each of these finds one of them. -/
theorem exists_findStep {steps : List Record} {e : Record} {t : String} (he : e ∈ steps)
    (hname : s.field e "name" = .ok (.text t))
    (hnames : ∀ d ∈ steps, ∃ u, s.field d "name" = .ok (.text u)) :
    ∃ d, s.findStep (.text t) steps = .ok (some d) := by
  induction steps with
  | nil => cases he
  | cons d rest ih =>
    rw [List.forall_mem_cons] at hnames
    obtain ⟨⟨u, hu⟩, hrest⟩ := hnames
    simp only [findStep, hu, bind, Except.bind, equal_text]
    by_cases hut : u = t
    · exact ⟨d, by simp [hut, pure, Except.pure]⟩
    · rw [decide_eq_false hut]
      refine ih ?_ hrest
      rcases List.mem_cons.1 he with rfl | hmem
      · rw [hu] at hname
        cases hname
        exact absurd rfl hut
      · exact hmem

/-- A step gives the lines of the topic that it goes by the name of. -/
theorem linesOfStep_of_topic {steps : List Record} {e : Record} {name : String} {topic : Topic}
    (he : e ∈ steps) (hname : s.field e "name" = .ok (.text name))
    (hnames : ∀ d ∈ steps, ∃ u, s.field d "name" = .ok (.text u))
    (htopic : Topic.ofName? name = some topic) :
    s.linesOfStep steps settings e = s.topicLines settings topic := by
  obtain ⟨d, hd⟩ := exists_findStep he hname hnames
  have htopic' : (Value.text name).topic? = some topic := htopic
  simp only [linesOfStep, hname, stepLines, hd, htopic']

/-- If each step gives its lines and leaves the store as it is, then all of them give all these
lines. -/
theorem linesOf_of_forall₂ {steps listed : List Record} {pieces : List (List String)}
    (h : List.Forall₂ (fun e lines => s.linesOfStep steps settings e = (.ok lines, s))
      listed pieces) : s.linesOf steps settings listed = (.ok pieces.flatten, s) := by
  induction h with
  | nil => rfl
  | cons hlines _ ih =>
    simp only [linesOf, hlines, ih, List.flatten_cons]
    rfl

/-- **The default lines.** With the catalogue as it was and all settings at their defaults, the five
steps give their seven lines. -/
theorem linesOf_of_holdsDefaults {steps : List Record} (hsteps : s.HoldsCatalogue steps)
    (h : s.HoldsDefaults settings m []) :
    s.listSteps steps = .ok steps ∧
      s.linesOf steps settings steps =
        (.ok ([Topic.greeting, .sum, .threshold, .loop, .person].map Topic.defaultLines).flatten,
          s) := by
  unfold HoldsCatalogue catalogue at hsteps
  simp only [List.map_cons, List.map_nil] at hsteps
  obtain ⟨d₁, _, rfl, h₁, hsteps⟩ := List.map_eq_cons_iff.1 hsteps
  obtain ⟨d₂, _, rfl, h₂, hsteps⟩ := List.map_eq_cons_iff.1 hsteps
  obtain ⟨d₃, _, rfl, h₃, hsteps⟩ := List.map_eq_cons_iff.1 hsteps
  obtain ⟨d₄, _, rfl, h₄, hsteps⟩ := List.map_eq_cons_iff.1 hsteps
  obtain ⟨d₅, _, rfl, h₅, hsteps⟩ := List.map_eq_cons_iff.1 hsteps
  obtain rfl := List.map_eq_nil_iff.1 hsteps
  have read {e : Record} {attributes : Bindings} {v : Value} (name : String)
      (he : (e.kind, s.attributesAt e.attributes) = (Kind.step, Table.ofNames attributes))
      (hv : attributes.get? name = some v) : s.field e name = .ok v :=
    field_of_attributesAt (Prod.mk.inj he).2 hv
  constructor
  · have hkeyed : s.withOrders [d₁, d₂, d₃, d₄, d₅] =
        .ok ([(1, d₁), (2, d₂), (3, d₃), (4, d₄), (5, d₅)].map fun p => (.int p.1, p.2)) := by
      simp only [withOrders, List.mapM_cons, List.mapM_nil, read "order" h₁ rfl,
        read "order" h₂ rfl, read "order" h₃ rfl, read "order" h₄ rfl, read "order" h₅ rfl]
      rfl
    exact listSteps_of_pairwise hkeyed (by simp)
  · have hnames : ∀ d ∈ [d₁, d₂, d₃, d₄, d₅], ∃ u, s.field d "name" = .ok (.text u) := by
      simp [read "name" h₁ rfl, read "name" h₂ rfl, read "name" h₃ rfl, read "name" h₄ rfl,
        read "name" h₅ rfl]
    have lines {e : Record} {name description : String} {order : Int} {topic : Topic}
        (hmem : e ∈ [d₁, d₂, d₃, d₄, d₅]) (he : (e.kind, s.attributesAt e.attributes) =
          (Kind.step, Table.ofNames (Step.make name description order)))
        (htopic : Topic.ofName? name = some topic) :
        s.linesOfStep [d₁, d₂, d₃, d₄, d₅] settings e = (.ok topic.defaultLines, s) := by
      rw [linesOfStep_of_topic hmem (read "name" he rfl) hnames htopic, topicLines_of_holdsDefaults h]
    exact linesOf_of_forall₂ (.cons (lines (by simp) h₁ rfl) (.cons (lines (by simp) h₂ rfl)
      (.cons (lines (by simp) h₃ rfl) (.cons (lines (by simp) h₄ rfl)
        (.cons (lines (by simp) h₅ rfl) .nil)))))

end Store

/-! ### Sessions

Both invariants are used for the same five addresses. Once they are the set `K`, and what is done
with variables that do not lead to them spares them. Once the set is everything else that was there.
-/

namespace Session

variable {σ : Session}

/-- **The lines of new settings** are the default ones as long as the catalogue is as it was. -/
theorem allLines_default (h : σ.store.HoldsCatalogue σ.steps) :
    (σ.perform (.allLines none)).1 =
      .value (.ofLines ["Hello, World! My name is Alice.", "Sum: 15", "Count is greater than 5",
        "Iteration 0", "Iteration 1", "Iteration 2", "John Doe is 30 years old."]) := by
  obtain ⟨hlisted, hlines⟩ := Store.linesOf_of_holdsDefaults
    (h.of_extends (Building.extends_allocSettings σ.store))
    (Store.holdsDefaults_allocSettings σ.store)
  have hall : σ.store.allLines σ.steps .null = (.ok ([Topic.greeting, .sum, .threshold, .loop,
      .person].map Topic.defaultLines).flatten, σ.store.allocSettings.2) := by
    unfold Store.allLines
    rw [if_neg (by simp [Store.truthy])]
    simp only [hlisted, hlines]
  show (σ.answerLines (σ.store.allLines σ.steps .null)).1 = _
  rw [hall]
  rfl

/-- No object that was there refers to what is made later. -/
theorem Closed.avoids_store (hσ : σ.Closed) {fields : List (String × Literal)}
    {given : Bindings} {u : Store}
    (hbuilt : Literal.buildFields σ.vars fields σ.store = .ok (given, u)) {K : Set Addr}
    (hK : ∀ a ∈ K, u.size ≤ a) : Avoids K u := by
  have hfields := Literal.confined_buildFields (P := fun K => Avoids K σ.vars) (fun _ hK => hK) fields
  have hle := (hfields.extends_of_ok σ.store given u hbuilt).size_le
  obtain ⟨hs, hvars, -⟩ := hσ K fun a ha => hle.trans (hK a ha)
  exact (hfields.avoids K σ.store given u hvars hs hbuilt (Store.withholds_of_le hK)).1

/-- **Settings that are built later** in a session, from fields among which there are no numbers and no
person. They are five objects behind all others: nothing that was there refers to them, so what is
done with variables that do not lead to them leaves them alone; and what they lead to by way of the
list and the person is theirs, so what is done with these leaves everything else alone. -/
theorem fresh_of_build (hσ : σ.Closed) {fields : List (String × Literal)} {v : Value}
    {t : Store} (hnumbers : "numbers" ∉ fields.map (·.1)) (hperson : "person" ∉ fields.map (·.1))
    (hbuilt : (Literal.settings fields).build σ.vars σ.store = .ok (v, t)) :
    ∃ m, σ.store.size ≤ m ∧ t.size = m + 5 ∧ v = .ref (m + 4) ∧
      t.get? (m + 4) = some (.record ⟨.settings, m + 3⟩) ∧
      t.HoldsDefaults v m (fields.map (·.1)) ∧
      Avoids {a | m ≤ a} σ ∧ σ.store.Extends t ∧
      (∀ vars later, Avoids {a | m ≤ a ∧ a < m + 5} vars → ∀ a, m ≤ a → a < m + 5 →
        (performAll { σ with store := t, vars } later).2.store.get? a = t.get? a) ∧
      ∀ vars later, Avoids {a | a < t.size ∧ a ∉ [m, m + 1, m + 2]} vars →
        (∀ op ∈ later, ¬ op.Revises) → ∀ a < t.size, a ∉ [m, m + 1, m + 2] →
        (performAll { σ with store := t, vars } later).2.store.get? a = t.get? a := by
  have hextends := (Literal.confined_build (P := fun K => Avoids K σ.vars) (fun _ hK => hK)
    (.settings fields)).extends_of_ok _ _ _ hbuilt
  obtain ⟨given, u, hgiven, rfl, rfl⟩ := Literal.build_settings_eq_ok hnumbers hperson hbuilt
  have hnames := Literal.names_of_buildFields hgiven
  have hfields := (Literal.confined_buildFields (P := fun K => Avoids K σ.vars) (fun _ hK => hK)
    fields).extends_of_ok _ _ _ hgiven
  rw [← hnames] at hnumbers hperson ⊢
  have hdefaults := Store.holdsDefaults_allocAll u hnumbers hperson
  generalize given.foldl (fun bs field => bs.put field.1 field.2)
    (Settings.withDefaults (.ref u.size) (.ref (u.size + 2))) = attributes at hextends hdefaults ⊢
  have hsize := Store.size_allocAll u (Store.settingsCells u.size attributes)
  refine ⟨u.size, hfields.size_le, hsize, rfl, Store.get?_allocAll_add u _ 4, hdefaults,
    hσ _ fun a ha => hfields.size_le.trans ha, hextends, fun vars later hvars a hle hlt => ?_,
    fun vars later hvars hlater a hlt ha => ?_⟩
  · have hold : Avoids {a | u.size ≤ a ∧ a < u.size + 5} u :=
      hσ.avoids_store hgiven fun a ha => ha.1
    have hnew := @Store.avoids_allocAll u _ (Store.settingsCells u.size attributes) hold
      fun a hle hlt => ⟨hle, hlt⟩
    have hsteps := (hσ {a | u.size ≤ a ∧ a < u.size + 5}
      fun a ha => hfields.size_le.trans ha.1).2.2
    exact get?_performAll (σ := { σ with
      store := u.allocAll (Store.settingsCells u.size attributes), vars }) ⟨hnew, hvars, hsteps⟩
      (fun a ha => hsize.symm ▸ ha.2) ⟨hle, hlt⟩
  · have hother : a ∈ {a | a < (u.allocAll (Store.settingsCells u.size attributes)).size ∧
        a ∉ [u.size, u.size + 1, u.size + 2]} := ⟨hlt, ha⟩
    exact get?_performAll_of_vars hlater hdefaults.avoids_others hvars (fun a ha => ha.1) hother

end Session

/-! ### Programs

A program makes its settings as its session does, as long as nothing has been done to the kind of
settings or to its operations. The hypothesis that nothing is on the list of changes stands before
what is done first, and again before what is done later: from there on as well, a new default would
be followed.
-/

namespace Program

/-- **Settings that are made later.** Whatever a program has done, as long as it has not changed a kind
of records or one of its operations, settings that are given neither numbers nor a person

* hold a list of the default numbers and the default person, and the default of every other field
  that they are not given;
* are five new objects, to which nothing that was there refers, and making them changes nothing;
* stay as they are, whatever is done with variables that do not lead to them;
* and what is done with variables that lead to nothing but the list and the person, and to what is
  made later, changes no other object that there is then.

So as long as the catalogue is as it was, the lines of new settings are the seven default lines. -/
theorem settings_fresh (before : List Operation)
    (hbefore : (performAll {} before).2.changes = []) :
    let P := (performAll {} before).2
    let σ := P.session
    (∀ fields v t, "numbers" ∉ fields.map (·.1) → "person" ∉ fields.map (·.1) →
      (Literal.settings fields).build σ.vars σ.store = .ok (v, t) →
      ∃ m, σ.store.size ≤ m ∧ t.size = m + 5 ∧ v = .ref (m + 4) ∧
        t.get? (m + 4) = some (.record ⟨.settings, m + 3⟩) ∧
        t.HoldsDefaults v m (fields.map (·.1)) ∧
        Avoids {a | m ≤ a} σ ∧ σ.store.Extends t ∧
        (∀ vars later, Avoids {a | m ≤ a ∧ a < m + 5} vars →
          let Q := (performAll { P with session := { σ with store := t, vars } } later).2
          Q.changes = [] → ∀ a, m ≤ a → a < m + 5 → Q.session.store.get? a = t.get? a) ∧
        ∀ vars later, Avoids {a | a < t.size ∧ a ∉ [m, m + 1, m + 2]} vars →
          (∀ op ∈ later, ¬ op.Revises) →
          let Q := (performAll { P with session := { σ with store := t, vars } } later).2
          Q.changes = [] → ∀ a < t.size, a ∉ [m, m + 1, m + 2] →
            Q.session.store.get? a = t.get? a) ∧
    (σ.store.HoldsCatalogue σ.steps →
      (P.perform (.allLines none)).1 =
        .value (.ofLines ["Hello, World! My name is Alice.", "Sum: 15", "Count is greater than 5",
          "Iteration 0", "Iteration 1", "Iteration 2", "John Doe is 30 years old."])) := by
  intro P σ
  have hσ : σ.Closed := by
    show P.session.Closed
    rw [(performAll_of_unchanged hbefore).2]
    exact Session.closed_initial.performAll before
  refine ⟨fun fields v t hnumbers hperson hbuilt => ?_, fun hsteps => ?_⟩
  · obtain ⟨m, hm, hsize, hv, hcell, hdefaults, havoids, hextends, hothers, hthese⟩ :=
      Session.fresh_of_build hσ hnumbers hperson hbuilt
    refine ⟨m, hm, hsize, hv, hcell, hdefaults, havoids, hextends, ?_, ?_⟩
    · intro vars later hvars Q hQ a hle hlt
      have hsession : Q.session = _ := (performAll_of_unchanged hQ).2
      rw [hsession]
      exact hothers vars later hvars a hle hlt
    · intro vars later hvars hlater Q hQ a hlt ha
      have hsession : Q.session = _ := (performAll_of_unchanged hQ).2
      rw [hsession]
      exact hthese vars later hvars hlater a hlt ha
  · rw [perform_of_unchanged hbefore]
    exact Session.allLines_default hsteps

/-- A program in which the numbers and the person of settings have been changed. Settings that are
made then have the defaults, one more number for the old settings does not get into them, and one
more number for them does not get into the old settings. -/
theorem settings_fresh_of_append :
    let P := (performAll {} [.bind "c" (.settings []), .append (.named "c.numbers") (.int 9),
      .assign (.named "c.person") "age" (.int 1)]).2
    let t := P.session.store.allocSettings.2
    P.changes = [] ∧
      P.session.store.get? 5 = some (.list [.int 1, .int 2, .int 3, .int 4, .int 5, .int 9]) ∧
      t.HoldsDefaults (.ref 14) 10 [] ∧
      (performAll { P with session := { P.session with store := t } }
        [.append (.named "c.numbers") (.int 7)]).2.session.store.get? 10 =
        some (.list [.int 1, .int 2, .int 3, .int 4, .int 5]) ∧
      (performAll { P with session := { P.session with store := t, vars := [("n", .ref 10)] } }
        [.append (.named "n") (.int 7)]).2.session.store.get? 5 =
        some (.list [.int 1, .int 2, .int 3, .int 4, .int 5, .int 9]) ∧
      (P.perform (.allLines none)).1 =
        .value (.ofLines ["Hello, World! My name is Alice.", "Sum: 15", "Count is greater than 5",
          "Iteration 0", "Iteration 1", "Iteration 2", "John Doe is 30 years old."]) := by
  intro P t
  have hchanges : P.changes = [] := by decide +kernel
  obtain ⟨hsettings, hlines⟩ := settings_fresh [.bind "c" (.settings []),
    .append (.named "c.numbers") (.int 9), .assign (.named "c.person") "age" (.int 1)] hchanges
  have hbuilt : (Literal.settings []).build P.session.vars P.session.store = .ok (.ref 14, t) := rfl
  obtain ⟨m, -, -, hm, -, hdefaults, -, -, hothers, hthese⟩ :=
    hsettings [] (.ref 14) t (by simp) (by simp) hbuilt
  obtain rfl : m = 10 := by
    have hsum : (14 : Nat) = m + 4 := Value.ref.inj hm
    omega
  have hold : t.get? 5 = some (.list [.int 1, .int 2, .int 3, .int 4, .int 5, .int 9]) := rfl
  have hvars : Avoids {a | 10 ≤ a ∧ a < 15} P.session.vars := by
    have hP : P.session.vars = [("c", .ref 9)] := rfl
    simp [hP]
  have hnew : Avoids {a | a < t.size ∧ a ∉ [10, 11, 12]} [("n", Value.ref 10)] := by simp
  exact ⟨hchanges, rfl, hdefaults,
    (hothers P.session.vars _ hvars (by decide +kernel) 10 (by decide) (by decide)).trans
      hdefaults.cells.1,
    (hthese _ _ hnew (by simp [Operation.Revises]) (by decide +kernel) 5 (by decide)
      (by decide)).trans hold, hlines rfl⟩

/-- **New defaults.** The values that the operation which sets settings up has by default are replaced
by others, with a list and a person that variables stand for. Settings that are made then have these
values, the list is the old one, and one more number for it gets into the new settings. The lines of
new settings are others as well, although the catalogue is as it was. -/
theorem settings_not_fresh :
    let P := (performAll {} [.bind "l" (.list [.int 9]),
      .bind "q" (.person [("first_name", .text "A"), ("last_name", .text "B"), ("age", .int 1)]),
      .bind "c" (.settings []),
      .assign (.named "c.__class__.__init__") "__defaults__" (.tuple [.text "Hey", .text "Bob",
        .int 1, .int 1, .named "l", .named "q", .bool false])]).2
    let Q := (P.perform (.bind "d" (.settings []))).2
    P.session.store.HoldsCatalogue P.session.steps ∧
      Q.session.vars.get? "l" = some (.ref 5) ∧ Q.session.vars.get? "d" = some (.ref 15) ∧
      Q.session.store.lookup (.ref 15) "greeting" = .ok (.text "Hey") ∧
      Q.session.store.lookup (.ref 15) "numbers" = .ok (.ref 5) ∧
      (Q.perform (.append (.named "d.numbers") (.int 7))).2.session.store.get? 5 =
        some (.list [.int 9, .int 7]) ∧
      (P.perform (.allLines none)).1 = .value (.ofLines ["Hey My name is Bob.", "Sum: 9",
        "Count is not greater than 5", "Iteration 0", "A B is 1 years old."]) := by
  intro P Q
  have hnames : P.newDefaults.map (·.1) = Settings.fieldNames := by decide +kernel
  -- the steps are in order, so that nothing has to be sorted to see what is listed
  let made := P.session.store.allocRecord .settings P.newDefaults
  have hlines : (made.2.allLines P.session.steps made.1).1 = .ok ["Hey My name is Bob.", "Sum: 9",
      "Count is not greater than 5", "Iteration 0", "A B is 1 years old."] := by
    have hlisted : made.2.listSteps P.session.steps = .ok P.session.steps :=
      @Store.listSteps_of_pairwise made.2 [(1, ⟨.step, 0⟩), (2, ⟨.step, 1⟩), (3, ⟨.step, 2⟩),
        (4, ⟨.step, 3⟩), (5, ⟨.step, 4⟩)] P.session.steps (by decide +kernel) (by simp)
    have htruthy : made.2.truthy made.1 = true := by decide +kernel
    simp only [Store.allLines, htruthy, if_true, hlisted]
    decide +kernel
  have hsteps : P.session.store.HoldsCatalogue P.session.steps := by
    unfold Store.HoldsCatalogue
    decide +kernel
  have hheld : Q.session.vars.get? "l" = some (.ref 5) ∧ Q.session.vars.get? "d" = some (.ref 15) ∧
      Q.session.store.lookup (.ref 15) "greeting" = .ok (.text "Hey") ∧
      Q.session.store.lookup (.ref 15) "numbers" = .ok (.ref 5) ∧
      (Q.perform (.append (.named "d.numbers") (.int 7))).2.session.store.get? 5 =
        some (.list [.int 9, .int 7]) := by decide +kernel
  obtain ⟨hlist, hsettings, hgreeting, hnumbers, happended⟩ := hheld
  exact ⟨hsteps, hlist, hsettings, hgreeting, hnumbers, happended,
    perform_allLines_of_newDefaults hnames hlines⟩

end Program

end Walkthrough
