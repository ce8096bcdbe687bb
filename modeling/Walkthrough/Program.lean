import Walkthrough.Session

/-!
# Programs

A kind of records and the operations of its records are values as well, and what they have can be
set and taken away like an attribute of a record. A store holds none of that, and so a session does
not know of it. A program does: it is a session together with all that has been done to kinds and to
operations, in order.

A program follows one sort of these changes. The values that the fields of settings have by default
are kept by the operation that sets settings up. If they have been replaced by as many others, then
the settings that are made from then on hold these, the same ones each time, unless they are given
something else; only commands go on to make their settings of the old ones. All other changes are
listed, and have no further effect.

The dictionaries in which an operation looks names up, and the values that it encloses, lead to
everything else that there is, so it is listed as well if a path asks for one of them.

A program of which nothing is listed does what its session does.

## Main definitions

* `Change` — what is done to a kind of records, or to an operation of them
* `Session.changes` — the changes that an operation makes
* `Program` — a session, and the changes so far
* `Program.newDefaults` — what the fields of settings have by default
* `Program.perform`, `Program.performAll` — one operation, and a sequence of them
-/

namespace Walkthrough

/-- Something that is done to a kind of records, or to an operation of them. -/
inductive Change
  /-- An attribute is set. -/
  | set (owner : Value) (name : String) (v : Value)
  /-- An attribute is to be set in the course of a run. -/
  | setInRun (owner : Value) (name : String)
  /-- An attribute is taken away. -/
  | remove (owner : Value) (name : String)
  /-- A path asks for what lies behind an operation. -/
  | reach (path : String)
deriving DecidableEq

/-- Whether a value is a kind, or an operation of records for no record in particular. -/
def Value.isDeclared : Value → Bool
  | .kind _ | .function _ _ => true
  | _ => false

/-! ### Paths -/

mutual

/-- The paths in a literal. -/
def Literal.paths : Literal → List String
  | .list items | .tuple items | .range items => Literal.pathsOfItems items
  | .dict entries => Literal.pathsOfEntries entries
  | .iterator source => Literal.paths source
  | .person fields | .settings fields => Literal.pathsOfFields fields
  | .named path => [path]
  | _ => []

def Literal.pathsOfItems : List Literal → List String
  | [] => []
  | item :: rest => Literal.paths item ++ Literal.pathsOfItems rest

def Literal.pathsOfEntries : List (Literal × Literal) → List String
  | [] => []
  | (key, value) :: rest =>
    Literal.paths key ++ Literal.paths value ++ Literal.pathsOfEntries rest

def Literal.pathsOfFields : List (String × Literal) → List String
  | [] => []
  | (_, value) :: rest => Literal.paths value ++ Literal.pathsOfFields rest

end

/-- The literals of an operation. -/
def Operation.literals : Operation → List Literal
  | .greet name greeting => name.toList ++ greeting.toList
  | .sum v | .threshold v | .fullName v | .personLine v | .findStep v | .value v | .display v
  | .bind _ v => [v]
  | .equal v w | .identical v w | .assign v _ w | .append v w | .reviseStep v _ w => [v, w]
  | .iterations settings | .allLines settings => settings.toList
  | .stepLines name settings => name :: settings.toList
  | .run request =>
    request.settings.toList ++ request.only :: request.mutations.map (·.value)
  | .replaceSteps steps => steps.flatMap (·.map (·.2))
  | .defaultPerson | .listSteps | .clearListed | .command _ => []

/-- The names under which an operation keeps the dictionaries that it looks names up in, and the
values that it encloses. -/
def Kind.hiddenNames : List String := ["__globals__", "__builtins__", "__closure__"]

/-- The paths of an operation that ask for what lies behind an operation of records. -/
def Operation.reaches (op : Operation) : List String :=
  (op.literals.flatMap (·.paths)).filter fun path =>
    ((pathNames path).drop 1).any (· ∈ Kind.hiddenNames)

/-! ### Changes -/

/-- What carrying a value out on an argument takes away: an attribute of some value. -/
def Value.removal? : Value → Value → Option (Value × String)
  | .operation (.member _ name) "__delete__", v => some (v, name)
  | .operation owner "__delattr__", .text name => some (owner, name)
  | .operation owner "__call__", v => owner.removal? v
  | _, _ => none

namespace Session

/-- What an operation sets of kinds and of operations, or takes away. -/
def alterations (σ : Session) : Operation → List Change
  | .assign target field v =>
    let parts : Building (Value × Value) := do
      let target ← target.build σ.vars
      return (target, ← v.build σ.vars)
    match parts σ.store with
    | .ok ((target, v), s) =>
      if target.isDeclared && (s.assign target field v).isOk then [.set target field v] else []
    | .error _ => []
  | .append target v =>
    let parts : Building (Value × Value) := do
      let target ← target.build σ.vars
      let operation ← Building.read fun s => s.lookup target "append"
      return (operation, ← v.build σ.vars)
    match parts σ.store with
    | .ok ((operation, v), s) =>
      match operation.removal? v with
      | some (owner, name) =>
        if owner.isDeclared && (s.remove owner name).isOk then [.remove owner name] else []
      | none => []
    | .error _ => []
  | .run request =>
    match σ.buildSettings request.settings σ.store with
    | .ok (settings, _) =>
      if settings.isDeclared then request.mutations.map fun m => .setInRun settings m.field else []
    | .error _ => []
  | _ => []

/-- What an operation does to kinds and to operations. -/
def changes (σ : Session) (op : Operation) : List Change :=
  op.reaches.map .reach ++ σ.alterations op

end Session

/-- A session, and what has been done to kinds and to operations so far. -/
structure Program where
  session : Session := {}
  changes : List Change := []

/-! ### New defaults -/

/-- The variable that stands for the value that a field of settings has by default. No path in an
operation has a blank in its names. -/
def Settings.defaultVariable (field : String) : String := field ++ " by default"

mutual

/-- A literal in which settings are given the defaults of some fields, where they are not given
anything else. -/
def Literal.complete (fields : List String) : Literal → Literal
  | .list items => .list (Literal.completeItems fields items)
  | .tuple items => .tuple (Literal.completeItems fields items)
  | .range bounds => .range (Literal.completeItems fields bounds)
  | .dict entries => .dict (Literal.completeEntries fields entries)
  | .iterator source => .iterator (Literal.complete fields source)
  | .person given => .person (Literal.completeFields fields given)
  | .settings given =>
    let missing := fields.filter (· ∉ given.map (·.1))
    .settings (Literal.completeFields fields given ++
      missing.map fun name => (name, .named (Settings.defaultVariable name)))
  | v => v

def Literal.completeItems (fields : List String) : List Literal → List Literal
  | [] => []
  | item :: rest => Literal.complete fields item :: Literal.completeItems fields rest

def Literal.completeEntries (fields : List String) :
    List (Literal × Literal) → List (Literal × Literal)
  | [] => []
  | (key, value) :: rest =>
    (Literal.complete fields key, Literal.complete fields value) ::
      Literal.completeEntries fields rest

def Literal.completeFields (fields : List String) :
    List (String × Literal) → List (String × Literal)
  | [] => []
  | (name, value) :: rest =>
    (name, Literal.complete fields value) :: Literal.completeFields fields rest

end

/-- An operation whose literals are complete. Where default settings would be made, it is given
them. -/
def Operation.complete (fields : List String) (σ : Session) (op : Operation) : Operation :=
  let complete := Literal.complete fields
  let made := complete (.settings [])
  let completeNamed := fun (name, v) => (name, complete v)
  match op with
  | .greet name greeting => .greet (name.map complete) (greeting.map complete)
  | .sum v => .sum (complete v)
  | .threshold v => .threshold (complete v)
  | .iterations count => .iterations (count.map complete)
  | .fullName v => .fullName (complete v)
  | .personLine v => .personLine (complete v)
  | .findStep v => .findStep (complete v)
  | .stepLines name settings => .stepLines (complete name) (some ((settings.map complete).getD made))
  | .allLines settings =>
    let settings := (settings.map complete).getD made
    match settings.build σ.vars σ.store with
    | .ok (v, s) => .allLines (some (if s.truthy v then settings else made))
    | .error _ => .allLines (some settings)
  | .value v => .value (complete v)
  | .display v => .display (complete v)
  | .equal v w => .equal (complete v) (complete w)
  | .identical v w => .identical (complete v) (complete w)
  | .run request =>
    .run { request with
      settings := some ((request.settings.map complete).getD made)
      only := complete request.only
      mutations := request.mutations.map fun m => { m with value := complete m.value } }
  | .bind name v => .bind name (complete v)
  | .assign v name w => .assign (complete v) name (complete w)
  | .append v w => .append (complete v) (complete w)
  | .replaceSteps steps => .replaceSteps (steps.map (·.map completeNamed))
  | .reviseStep v name w => .reviseStep (complete v) name (complete w)
  | .defaultPerson | .listSteps | .clearListed | .command _ => op

/-- What a change makes the fields of settings have by default, if it is of these. A field whose
default is made anew is left out, and all of them are if there are not as many as fields. -/
def Change.newDefaults? (s : Store) : Change → Option Bindings
  | .set (.function .settings "__init__") "__defaults__" v =>
    match s.cell? v with
    | some (.tuple items) =>
      if items.length = Settings.fieldNames.length then
        some ((Settings.fieldNames.zip items).filter (·.2 ≠ .madeAnew))
      else some []
    | _ => some []
  | _ => none

namespace Program

/-- What the fields of settings have by default, once this has been changed. -/
def newDefaults (P : Program) : Bindings :=
  ((P.changes.filterMap (·.newDefaults? P.session.store)).getLast?).getD []

/-- The variables of a program, with one for each new default. -/
def vars (P : Program) : Bindings :=
  P.newDefaults.foldl (fun bs d => bs.put (Settings.defaultVariable d.1) d.2) P.session.vars

/-- The session in which an operation of a program is carried out, and the operation as it is carried
out there. -/
def prepare (P : Program) (op : Operation) : Session × Operation :=
  let σ := { P.session with vars := P.vars }
  match P.newDefaults with
  | [] => (P.session, op)
  | defaults => (σ, op.complete (defaults.map (·.1)) σ)

/-- Carries out one operation. -/
def perform (P : Program) (op : Operation) : Answer × Program :=
  let (σ, op) := P.prepare op
  let (answer, τ) := σ.perform op
  (answer, { session := τ, changes := P.changes ++ σ.changes op })

/-- Carries out operations one after the other. -/
def performAll (P : Program) : List Operation → List Answer × Program
  | [] => ([], P)
  | op :: rest =>
    let (answer, P) := P.perform op
    let (answers, P) := P.performAll rest
    (answer :: answers, P)

end Program

end Walkthrough
