import Walkthrough.Member
import Walkthrough.Record

/-!
# The store

Lists, tuples, dictionaries, records and iterators are objects: each lives in a cell of the store
and is held by its address. A store only grows; no cell is ever given back, so an address stays
good and a new object is one that nothing refers to yet.

Reading and writing are total. An address beyond the store has no cell, and a write there does
nothing; the theorems say which addresses are meant.

## Main definitions

* `Iterator`, `Cell` — what lives in a cell
* `Store` — the cells, and how many real literals have been read
* `Store.get?`, `Store.put`, `Store.alloc` — reading, writing and making a cell
* `Store.kind` — the kind of a value
* `Store.attribute?`, `Store.putAttribute` — reading and writing an attribute of a record

## Main results

* `Store.get?_put_self`, `Store.get?_put_of_ne` — read after write, and read elsewhere
* `Store.get?_alloc_self`, `Store.get?_alloc_of_lt` — the new cell, and the old ones
* `Store.attribute?_putAttribute_self`, `Store.attribute?_putAttribute_of_ne` — the same for
  attributes
-/

namespace Walkthrough

/-- A walk through the elements of something, each of them given out once. -/
inductive Iterator
  /-- Walks the list at `source`, as it is when an element is asked for, from index `next` on. -/
  | overList (source : Addr) (next : Nat)
  /-- Walks the keys of the dictionary at `source`, which had `size` of them at the beginning. The
  index counts the keys that there are, so it tells where the walk has come to as long as none has
  been taken away. -/
  | overKeys (source : Addr) (size next : Nat)
  /-- Walks the terms of a progression from index `next` on. -/
  | overRange (r : Progression) (next : Nat) (kind : Kind)
  /-- Walks the elements of something that cannot change from index `next` on. -/
  | overItems (items : List Value) (next : Nat) (kind : Kind)
  /-- Walked the keys of a dictionary that has changed since, and gives nothing any more. -/
  | broken
  /-- Has run off the end, and gives nothing any more. -/
  | finished (kind : Kind)
deriving DecidableEq

/-- The kind an iterator is shown as. -/
def Iterator.kind : Iterator → Kind
  | .overList _ _ => .listIterator
  | .overKeys _ _ _ => .keyIterator
  | .overRange _ _ kind => kind
  | .overItems _ _ kind => kind
  | .broken => .keyIterator
  | .finished kind => kind

/-- An object. -/
inductive Cell
  | list (items : List Value)
  | tuple (items : List Value)
  | dict (entries : Table Value)
  | record (r : Record)
  | iterator (it : Iterator)
deriving DecidableEq

def Cell.kind : Cell → Kind
  | .list _ => .list
  | .tuple _ => .tuple
  | .dict _ => .dict
  | .record r => r.kind
  | .iterator it => it.kind

/-- Values by name, as the entries of a dictionary. -/
def Table.ofNames (bs : Bindings) : Table Value := bs.map fun (name, v) => (.text name, v)

/-- What is shown in place of a default that is made anew for each record. -/
def Value.madeAnew : Value := .shown .object "<factory>"

/-- The tuple or dictionary that a description is. -/
def Description.cell : Description → Cell
  | .fields k => .tuple (k.fieldNames.map .text)
  | .fieldKinds k => .dict ((k.fieldNames.map .text).zip (k.fieldKinds.map .text))
  | .fieldEntries k => .dict (k.fieldNames.map fun name => (.text name, .shown .object "Field"))
  | .parameterKinds k "__init__" =>
    .dict ((k.fieldNames.map .text).zip (k.fieldKinds.map .text) ++ [(.text "return", .null)])
  | .parameterKinds _ "get_full_name" => .dict [(.text "return", .text "str")]
  | .parameterKinds _ _ => .dict []
  | .defaults k _ =>
    .tuple (k.fieldNames.map fun name => (k.fieldDefault? name).getD .madeAnew)
  | .lineage k => .tuple (k.lineage.map .kind)
  | .parents k => .tuple ((k.lineage.drop 1).take 1 |>.map .kind)
  | .ruleNames => .tuple (Kind.ruleNames.map .text)
  | .nothing => .dict []

/-- All objects, by address. -/
structure Store where
  cells : Array Cell := #[]
  /-- How many literals of real numbers have been read. -/
  marks : Nat := 0
deriving DecidableEq

/-- The kind of an operation, by the nature of the member that it is. -/
def Nature.operationKind : Option Nature → Kind
  | some .special => .wrapper
  | _ => .builtin

/-- The kind of a member, by its nature. -/
def Nature.memberKind : Option Nature → Kind
  | some .special => .wrapperMember
  | some .property => .propertyMember
  | some .part => .partMember
  | _ => .methodMember

/-- The nature of an operation that a kind, as a value, has under a name: one of the kind itself, or
one that every kind has. -/
def Kind.operationNature? (k : Kind) (name : String) : Option Nature :=
  match k.find? name with
  | some (_, .ofKind) => some .ofKind
  | some (_, .ofDeclarer) => some .ofDeclarer
  | _ => (Kind.type.find? name).map (·.2)

namespace Store

/-- The number of objects; also the address of the next one. -/
def size (s : Store) : Nat := s.cells.size

/-- The object at an address. -/
def get? (s : Store) (a : Addr) : Option Cell := s.cells[a]?

/-- Replaces the object at an address. -/
def put (s : Store) (a : Addr) (c : Cell) : Store := { s with cells := s.cells.setIfInBounds a c }

/-- Makes an object. -/
def alloc (s : Store) (c : Cell) : Value × Store :=
  (.ref s.size, { s with cells := s.cells.push c })

/-- The object that a value refers to. -/
def cell? (s : Store) : Value → Option Cell
  | .ref a => s.get? a
  | .description d => some d.cell
  | _ => none

/-- The kind of a value. -/
def kind (s : Store) : Value → Kind
  | .null => .null
  | .bool _ => .bool
  | .int _ => .int
  | .real _ _ => .real
  | .text _ => .text
  | .range _ => .range
  | .operation (.kind k) name => Nature.operationKind (k.operationNature? name)
  | .operation owner name => Nature.operationKind (((s.kind owner).find? name).map (·.2))
  | .method _ _ _ => .method
  | .function _ _ => .function
  | .kind _ => .type
  | .member k name => Nature.memberKind (k.nature? name)
  | .description d => d.cell.kind
  | .shown k _ => k
  | .ref a => ((s.get? a).map Cell.kind).getD .null

/-! ### Records -/

/-- The attributes at an address. -/
def attributesAt (s : Store) (a : Addr) : Table Value :=
  match s.get? a with
  | some (.dict entries) => entries
  | _ => []

/-- An attribute of a record. -/
def attribute? (s : Store) (r : Record) (name : String) : Option Value :=
  (s.attributesAt r.attributes).get? (.text name)

/-- Sets an attribute of a record. -/
def putAttribute (s : Store) (r : Record) (name : String) (v : Value) : Store :=
  s.put r.attributes (.dict ((s.attributesAt r.attributes).put (.text name) v))

/-- A field of a record: an attribute, or what its kind holds in place of one. -/
def field? (s : Store) (r : Record) (name : String) : Option Value :=
  (s.attribute? r name).or (r.kind.fieldDefault? name)

/-- Makes a record, which has no address yet, with the given attributes. -/
def newRecord (s : Store) (k : Kind) (attributes : Bindings) : Record × Store :=
  (⟨k, s.size⟩, (s.alloc (.dict (.ofNames attributes))).2)

/-- Makes a record with the given attributes. -/
def allocRecord (s : Store) (k : Kind) (attributes : Bindings) : Value × Store :=
  let (r, s) := s.newRecord k attributes
  s.alloc (.record r)

/-- Makes the person that settings hold by default. -/
def allocPerson (s : Store) : Value × Store := s.allocRecord .person Person.default

/-- Makes the list of numbers that settings hold by default. -/
def allocNumbers (s : Store) : Value × Store :=
  s.alloc (.list (Settings.defaultNumbers.map .int))

/-- Makes settings with every field at its default, and with a list and a person of their own. -/
def allocSettings (s : Store) : Value × Store :=
  let (numbers, s) := s.allocNumbers
  let (person, s) := s.allocPerson
  s.allocRecord .settings (Settings.withDefaults numbers person)

/-- Makes records of a kind, one after the other. -/
def newRecords (s : Store) (k : Kind) : List Bindings → List Record × Store
  | [] => ([], s)
  | attributes :: rest =>
    let (r, s) := s.newRecord k attributes
    let (rs, s) := s.newRecords k rest
    (r :: rs, s)

/-! ### Reading after writing -/

@[simp]
theorem size_put (s : Store) (a : Addr) (c : Cell) : (s.put a c).size = s.size := by
  simp [put, size]

@[simp]
theorem size_alloc (s : Store) (c : Cell) : (s.alloc c).2.size = s.size + 1 := by
  simp [alloc, size]

@[simp]
theorem fst_alloc (s : Store) (c : Cell) : (s.alloc c).1 = .ref s.size := rfl

theorem get?_eq_none_iff {s : Store} {a : Addr} : s.get? a = none ↔ s.size ≤ a := by
  simp [get?, size]

/-- **Read after write.** -/
theorem get?_put_self {s : Store} {a : Addr} (h : a < s.size) (c : Cell) :
    (s.put a c).get? a = some c := by
  simp only [size] at h
  simp [put, get?, h]

/-- Writing one cell leaves the others. -/
theorem get?_put_of_ne {s : Store} {a b : Addr} (h : b ≠ a) (c : Cell) :
    (s.put a c).get? b = s.get? b := by
  simp [put, get?, Array.getElem?_setIfInBounds_ne h.symm]

/-- A new object is at the end of the store. -/
@[simp]
theorem get?_alloc_self (s : Store) (c : Cell) : (s.alloc c).2.get? s.size = some c := by
  simp [alloc, get?, size]

/-- Making an object leaves the others. -/
theorem get?_alloc_of_lt {s : Store} {a : Addr} (h : a < s.size) (c : Cell) :
    (s.alloc c).2.get? a = s.get? a := by
  simp only [size] at h
  simp [alloc, get?, Array.getElem?_push, Nat.ne_of_lt h]

/-! ### Attributes after writing -/

/-- **Read after write.** -/
theorem attribute?_putAttribute_self {s : Store} {r : Record} (h : r.attributes < s.size)
    (name : String) (v : Value) : (s.putAttribute r name v).attribute? r name = some v := by
  simp [putAttribute, attribute?, attributesAt, get?_put_self h]

/-- Writing one attribute leaves the others. -/
theorem attribute?_putAttribute_of_ne {s : Store} {r : Record} (h : r.attributes < s.size)
    {name other : String} (hne : other ≠ name) (v : Value) :
    (s.putAttribute r name v).attribute? r other = s.attribute? r other := by
  have h' : Value.text other ≠ .text name := by simpa using hne
  simp [putAttribute, attribute?, attributesAt, get?_put_self h, Table.get?_put_of_ne h']

end Store

end Walkthrough
