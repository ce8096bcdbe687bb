import Walkthrough.Progression

/-!
# Values

What a variable, an attribute or an element of a list can hold. Immutable values without parts are
held directly. Everything else lives in a store and is held by its address, so that two holders of
one object see each other's writes.

## Main definitions

* `Kind` — what a value is called in messages
* `Description` — collections that describe a kind and never change
* `Value` — a value
* `Table` — values by key, each key once
-/

namespace Walkthrough

/-- Where an object lives in a store. -/
abbrev Addr := Nat

/-- The kinds of values. -/
inductive Kind
  | object
  | null
  | bool
  | int
  | real
  | text
  | list
  | tuple
  | dict
  | range
  | person
  | settings
  | step
  | listIterator
  | rangeIterator
  | longRangeIterator
  | tupleIterator
  | keyIterator
  | textIterator
  | asciiIterator
  | builtin
  | wrapper
  | method
  | function
  | type
  | methodMember
  | wrapperMember
  | propertyMember
  | partMember
  | members
  | rules
  | code
deriving DecidableEq, Repr

/-- The word for a kind in messages. -/
def Kind.name : Kind → String
  | .object => "object"
  | .null => "NoneType"
  | .bool => "bool"
  | .int => "int"
  | .real => "float"
  | .text => "str"
  | .list => "list"
  | .tuple => "tuple"
  | .dict => "dict"
  | .range => "range"
  | .person => "Person"
  | .settings => "DemoConfig"
  | .step => "StepInfo"
  | .listIterator => "list_iterator"
  | .rangeIterator => "range_iterator"
  | .longRangeIterator => "longrange_iterator"
  | .tupleIterator => "tuple_iterator"
  | .keyIterator => "dict_keyiterator"
  | .textIterator => "str_iterator"
  | .asciiIterator => "str_ascii_iterator"
  | .builtin => "builtin_function_or_method"
  | .wrapper => "method-wrapper"
  | .method => "method"
  | .function => "function"
  | .type => "type"
  | .methodMember => "method_descriptor"
  | .wrapperMember => "wrapper_descriptor"
  | .propertyMember => "getset_descriptor"
  | .partMember => "member_descriptor"
  | .members => "mappingproxy"
  | .rules => "_DataclassParams"
  | .code => "code"

/-- The collections that describe a kind, or an operation of records of a kind. They are tuples and
dictionaries that never change. -/
inductive Description
  /-- The names of the fields of records of a kind. -/
  | fields (k : Kind)
  /-- What the fields of records of a kind are meant to be. -/
  | fieldKinds (k : Kind)
  /-- How the fields of records of a kind are declared. -/
  | fieldEntries (k : Kind)
  /-- What the parameters of an operation are meant to be, and its result. -/
  | parameterKinds (k : Kind) (operation : String)
  /-- The values that the last parameters of an operation have by default. -/
  | defaults (k : Kind) (operation : String)
  /-- A kind and the kinds that it extends, the nearest first. -/
  | lineage (k : Kind)
  /-- The kinds that a kind extends directly. -/
  | parents (k : Kind)
  /-- The names of the rules for making, showing and comparing records. -/
  | ruleNames
  /-- The attributes of an operation of records, which has none. -/
  | nothing
deriving DecidableEq, Repr

/-- A value. A real number carries the serial number of the literal it was read from, because
something that is not a number differs from every number and is still itself. -/
inductive Value
  | null
  | bool (b : Bool)
  | int (n : Int)
  | real (x : Float) (mark : Nat)
  | text (s : String)
  | range (r : Progression)
  /-- An operation that a value has by its kind, such as counting the elements of a list. -/
  | operation (owner : Value) (name : String)
  /-- An operation of records of a kind, for the record at an address, such as composing the full
  name of a person. -/
  | method (a : Addr) (k : Kind) (name : String)
  /-- An operation of records of a kind, for no record in particular. -/
  | function (k : Kind) (name : String)
  /-- A kind, as a value. -/
  | kind (k : Kind)
  /-- A member that a kind declares for its values, as a value. -/
  | member (k : Kind) (name : String)
  | description (d : Description)
  /-- A value of a kind, of which little but its text can be asked. -/
  | shown (k : Kind) (text : String)
  | ref (a : Addr)
deriving DecidableEq

/-- Values by key, each key once, in the order in which the keys were first given. -/
abbrev Table (α : Type) := List (α × Value)

/-- Values by name. -/
abbrev Bindings := Table String

namespace Table

variable {α : Type} [DecidableEq α]

/-- The value of a key. -/
def get? (t : Table α) (key : α) : Option Value := t.lookup key

/-- Gives a key a value, in place of the one that it had before. -/
def put : Table α → α → Value → Table α
  | [], key, v => [(key, v)]
  | (k, w) :: rest, key, v => if k = key then (k, v) :: rest else (k, w) :: put rest key v

/-- Takes a key and its value away. -/
def erase (t : Table α) (key : α) : Table α := t.filter (·.1 ≠ key)

/-- **Read after write.** -/
@[simp]
theorem get?_put_self (t : Table α) (key : α) (v : Value) : (t.put key v).get? key = some v := by
  induction t with
  | nil => simp [put, get?]
  | cons entry rest ih =>
    obtain ⟨k, w⟩ := entry
    by_cases h : k = key
    · simp [put, get?, h]
    · have h' : (key == k) = false := by simpa [beq_eq_false_iff_ne] using Ne.symm h
      simpa [put, get?, h, List.lookup_cons, h'] using ih

/-- Writing one key leaves the others. -/
theorem get?_put_of_ne {t : Table α} {key other : α} (h : other ≠ key) (v : Value) :
    (t.put key v).get? other = t.get? other := by
  have h' : (other == key) = false := by simpa [beq_eq_false_iff_ne] using h
  induction t with
  | nil => simp [put, get?, List.lookup_cons, h']
  | cons entry rest ih =>
    obtain ⟨k, w⟩ := entry
    by_cases hk : k = key
    · subst hk
      simp [put, get?, List.lookup_cons, h']
    · simp only [put, hk, if_false, get?, List.lookup_cons]
      split
      · rfl
      · exact ih

end Table

end Walkthrough
