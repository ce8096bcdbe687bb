import Walkthrough.Attribute
import Walkthrough.Equality
import Walkthrough.Text.Piece

/-!
# Literals

A literal says how to build a value. Each time it is built it makes new objects; a variable stands
for the value it is bound to, and attributes may be read from it on the way.

Parts are built from left to right before what they are parts of, so a fault in a part comes before
a fault in the whole.

## Main definitions

* `Literal` — how to build a value
* `pathNames` — the names in a path
* `Literal.build` — building it
* `Step.build` — building an entry of the step catalogue
-/

namespace Walkthrough

/-- How to build a value. -/
inductive Literal
  | null
  | bool (b : Bool)
  | int (n : Int)
  /-- A real number by its numeral. -/
  | real (numeral : String)
  | text (s : String)
  | list (items : List Literal)
  | tuple (items : List Literal)
  | dict (entries : List (Literal × Literal))
  /-- A progression by its bound, by start and bound, or by start, bound and step. -/
  | range (bounds : List Literal)
  | iterator (source : Literal)
  | person (fields : List (String × Literal))
  | settings (fields : List (String × Literal))
  /-- A variable and the attributes read from it, with points between. -/
  | named (path : String)

/-- Building makes objects and may fail. -/
abbrev Building := StateT Store (Except Fault)

namespace Building

/-- Makes an object. -/
def make (c : Cell) : Building Value := fun s => .ok (s.alloc c)

/-- Gives a real number the next serial number. -/
def mark (x : Float) : Building Value := fun s =>
  .ok (.real x s.marks, { s with marks := s.marks + 1 })

/-- Reads from the store. -/
def read {α : Type} (f : Store → Except Fault α) : Building α := fun s => (f s).map (·, s)

end Building

/-- The names in a path, which stand with points between them. -/
def pathNames (path : String) : List String := (Text.cutAt ['.'] path.toList).map String.ofList

namespace Store

/-- Fails on a value that cannot be a key, with a bound on how deep to go. -/
def checkKeyWithin (s : Store) : Nat → Value → Except Fault Unit
  | 0, _ => .ok ()
  | depth + 1, v =>
    match s.cell? v with
    | some (.tuple items) => items.forM (s.checkKeyWithin depth)
    | some (.iterator _) => .ok ()
    | some c => .error (.notKey c.kind)
    | none => .ok ()

/-- Fails on a value that cannot be a key. -/
def checkKey (s : Store) (v : Value) : Except Fault Unit := s.checkKeyWithin (s.size + 1) v

/-- Sets the value of a key: a key that is there keeps its place. -/
def putEntry (s : Store) (key v : Value) :
    List (Value × Value) → Except Fault (List (Value × Value))
  | [] => .ok [(key, v)]
  | (k, w) :: rest => do
    if ← s.same k key then return (k, v) :: rest else return (k, w) :: (← s.putEntry key v rest)

/-- Adds an entry whose key must be one that can be a key. -/
def addEntry (s : Store) (entries : List (Value × Value)) (key v : Value) :
    Except Fault (List (Value × Value)) := do
  s.checkKey key
  s.putEntry key v entries

/-- The integer that a value is. -/
def integer (s : Store) : Value → Except Fault Int
  | .int n => .ok n
  | .bool b => .ok b.toNat
  | v => .error (.notIntegral (s.kind v))

/-- The progression that one to three values describe. -/
def progression (s : Store) : List Value → Except Fault Progression
  | [stop] => do return .upTo (← s.integer stop)
  | [start, stop] => do return .between (← s.integer start) (← s.integer stop)
  | [start, stop, step] => do
    let start ← s.integer start
    let stop ← s.integer stop
    let step ← s.integer step
    if h : step = 0 then .error .zeroStep else return ⟨start, stop, step, h⟩
  | bounds => .error (.progressionArity bounds.length)

/-- A walk through the elements of a value; a walk is its own. -/
def walk (s : Store) (v : Value) : Except Fault (Value × Store) :=
  match v with
  | .text t =>
    let kind := if t.toList.all (·.toNat < 0x80) then Kind.asciiIterator else .textIterator
    .ok (s.alloc (.iterator (.overItems (t.toList.map fun c => .text c.toString) 0 kind)))
  | .range r =>
    let kind := if r.fitsWords then Kind.rangeIterator else .longRangeIterator
    .ok (s.alloc (.iterator (.overRange r 0 kind)))
  | _ =>
    match v, s.cell? v with
    | .ref a, some (.list _) => .ok (s.alloc (.iterator (.overList a 0)))
    | _, some (.tuple items) => .ok (s.alloc (.iterator (.overItems items 0 .tupleIterator)))
    | .ref a, some (.dict entries) =>
      .ok (s.alloc (.iterator (.overKeys a entries.length 0)))
    | _, some (.dict entries) =>
      .ok (s.alloc (.iterator (.overItems (entries.map (·.1)) 0 .keyIterator)))
    | _, some (.iterator _) => .ok (v, s)
    | _, _ => .error (.notIterable (s.kind v))

/-- Reads attributes one after the other. -/
def follow (s : Store) (v : Value) (names : List String) : Except Fault Value :=
  names.foldlM s.lookup v

/-- The value of a variable, or of an attribute reached from it. -/
def resolve (s : Store) (vars : Bindings) (path : String) : Except Fault Value :=
  match pathNames path with
  | [] => .error (.unknownName (.text path))
  | name :: attributes =>
    match vars.get? name with
    | some v => s.follow v attributes
    | none => .error (.unknownName (.text name))

end Store

/-- Checks the fields given to a record: the first that is unexpected, then those that are
missing. -/
def Kind.checkFields (k : Kind) (given : Bindings) : Except Fault Unit :=
  match given.find? fun field => field.1 ∉ k.fieldNames with
  | some field =>
    .error (if field.1 = "self" then .repeatedSelf k else .unexpectedField k field.1)
  | none =>
    match k.requiredFields.filter fun name => (given.get? name).isNone with
    | [] => .ok ()
    | missing => .error (.missingFields k missing)

namespace Building

/-- The value given for a field, or one that is made for it. -/
def given (fields : Bindings) (name : String) (make : Store → Value × Store) : Building Value :=
  match fields.get? name with
  | some v => pure v
  | none => fun s => .ok (make s)

/-- The attributes of a record of a kind that is given fields. Settings without a list of numbers or
a person get their own. -/
def attributes (k : Kind) (fields : Bindings) : Building Bindings := do
  read fun _ => k.checkFields fields
  match k with
  | .settings =>
    let numbers ← given fields "numbers" Store.allocNumbers
    let person ← given fields "person" Store.allocPerson
    return fields.foldl (fun bs field => bs.put field.1 field.2)
      (Settings.withDefaults numbers person)
  | _ => return k.fieldNames.filterMap fun name => (fields.get? name).map (name, ·)

/-- A record of a kind that is given fields. -/
def record (k : Kind) (fields : Bindings) : Building Value := do
  let attributes ← attributes k fields
  fun s => .ok (s.allocRecord k attributes)

end Building

mutual

/-- Builds a value, with the variables that may occur in it. -/
def Literal.build (vars : Bindings) : Literal → Building Value
  | .null => pure .null
  | .bool b => pure (.bool b)
  | .int n => pure (.int n)
  | .real numeral =>
    match Decimal.read? numeral with
    | some x => Building.mark x
    | none => throw (.notNumeral numeral)
  | .text s => pure (.text s)
  | .list items => do Building.make (.list (← Literal.buildItems vars items))
  | .tuple items => do Building.make (.tuple (← Literal.buildItems vars items))
  | .dict entries => do Building.make (.dict (← Literal.buildEntries vars [] entries))
  | .range bounds => do
    let bounds ← Literal.buildItems vars bounds
    return .range (← Building.read fun s => s.progression bounds)
  | .iterator source => do
    let v ← Literal.build vars source
    fun s => s.walk v
  | .person fields => do Building.record .person (← Literal.buildFields vars fields)
  | .settings fields => do Building.record .settings (← Literal.buildFields vars fields)
  | .named path => Building.read fun s => s.resolve vars path

/-- Builds values from left to right. -/
def Literal.buildItems (vars : Bindings) : List Literal → Building (List Value)
  | [] => pure []
  | item :: rest => do
    let v ← Literal.build vars item
    return v :: (← Literal.buildItems vars rest)

/-- Builds entries from left to right, each key before its value, and adds each to those before. -/
def Literal.buildEntries (vars : Bindings) (done : List (Value × Value)) :
    List (Literal × Literal) → Building (List (Value × Value))
  | [] => pure done
  | (key, value) :: rest => do
    let k ← Literal.build vars key
    let v ← Literal.build vars value
    let done ← Building.read fun s => s.addEntry done k v
    Literal.buildEntries vars done rest

/-- Builds fields from left to right. -/
def Literal.buildFields (vars : Bindings) : List (String × Literal) → Building Bindings
  | [] => pure []
  | (name, value) :: rest => do
    let v ← Literal.build vars value
    return (name, v) :: (← Literal.buildFields vars rest)

end

/-- Builds an entry of the step catalogue. -/
def Step.build (vars : Bindings) (fields : List (String × Literal)) : Building Record := do
  let given ← Literal.buildFields vars fields
  let attributes ← Building.attributes .step given
  fun s => .ok (s.newRecord .step attributes)

/-- Builds the entries of a step catalogue from left to right. -/
def Step.buildAll (vars : Bindings) : List (List (String × Literal)) → Building (List Record)
  | [] => pure []
  | fields :: rest => do
    let e ← Step.build vars fields
    return e :: (← Step.buildAll vars rest)

end Walkthrough
