import Walkthrough.CommandLine.Execution
import Walkthrough.Identity
import Walkthrough.Message
import Walkthrough.Tree

/-!
# Sessions

A session keeps a store, variables and a step catalogue through a sequence of operations. Each
operation is answered; one that fails leaves the session as far as it had come, which for most of
them is where it was.

## Main definitions

* `Session` — the state
* `Operation`, `Answer` — what is asked and what is answered
* `Session.perform` — one operation
* `Session.performAll` — a sequence of operations
-/

namespace Walkthrough

/-- The steps of the walkthrough, and the store that holds their attributes. -/
def Store.initial : List Record × Store := Store.newRecords {} .step catalogue

/-- The state of a session. -/
structure Session where
  store : Store := Store.initial.2
  vars : Bindings := []
  steps : List Record := Store.initial.1

/-- A request for a run. -/
structure RunRequest where
  /-- The settings; without any, new default ones are made. -/
  settings : Option Literal := none
  /-- The name of the only step, if there is to be only one. -/
  only : Literal := .null
  /-- Whether steps are announced. -/
  announced : Bool := false
  failAt : Option Int := none
  mutations : List Mutation := []

/-- What can be asked of a session. -/
inductive Operation
  | greet (name greeting : Option Literal)
  | sum (numbers : Literal)
  | threshold (count : Literal)
  | iterations (count : Option Literal)
  | fullName (person : Literal)
  | personLine (person : Literal)
  | defaultPerson
  | listSteps
  | findStep (name : Literal)
  | stepLines (name : Literal) (settings : Option Literal)
  | allLines (settings : Option Literal)
  | value (v : Literal)
  | display (v : Literal)
  | equal (a b : Literal)
  | identical (a b : Literal)
  | run (request : RunRequest)
  /-- Binds a variable. -/
  | bind (name : String) (v : Literal)
  /-- Sets an attribute. -/
  | assign (target : Literal) (field : String) (v : Literal)
  /-- Asks a value for its operation `append` and carries it out. -/
  | append (target v : Literal)
  /-- Replaces the step catalogue. -/
  | replaceSteps (steps : List (List (String × Literal)))
  /-- Sets an attribute of the first step of a name. -/
  | reviseStep (name : Literal) (field : String) (v : Literal)
  /-- Empties the list that listing the steps has given. -/
  | clearListed
  | command (arguments : List String)

/-- What is told about a fault. -/
structure Report where
  category : Fault.Category
  message : String
deriving DecidableEq, Repr

/-- What is told about a command that failed. -/
inductive CommandReport
  | usage (e : CommandLine.UsageError)
  | fault (r : Report)
deriving DecidableEq, Repr

/-- The answer to an operation. -/
inductive Answer
  | value (t : Tree)
  | failed (r : Report)
  | trace (events : List Event) (outcome : Except Report (List String))
  | command (exit : Nat) (stdout stderr : String) (problem : Option CommandReport)

/-- The report on a fault, in the store in which it is made. A name that cannot be told is a fault
of its own. -/
def Fault.report (f : Fault) (s : Store) : Report :=
  match f with
  | .unknownName name =>
    match s.display name with
    | .ok _ => ⟨f.category, f.message s⟩
    | .error g => ⟨g.category, g.message s⟩
  | _ => ⟨f.category, f.message s⟩

namespace Session

/-- A session with another store. -/
def withStore (σ : Session) (s : Store) : Session := { σ with store := s }

/-- Answers with a tree, or with a report. -/
def answer (σ : Session) (outcome : Except Fault Tree) : Answer :=
  match outcome with
  | .ok t => .value t
  | .error f => .failed (f.report σ.store)

/-- Builds what an operation needs and goes on with it; if building fails, the session stays. -/
def building {α : Type} (σ : Session) (b : Building α) (next : α → Session → Answer × Session) :
    Answer × Session :=
  match b σ.store with
  | .error f => (σ.answer (.error f), σ)
  | .ok (a, s) => next a (σ.withStore s)

/-- Builds what a question is about, and answers it by reading the store. -/
def asking {α : Type} (σ : Session) (b : Building α) (question : α → Store → Except Fault Tree) :
    Answer × Session :=
  σ.building b fun a σ => (σ.answer (question a σ.store), σ)

/-- Answers with lines that are made in a store and may change it. -/
def answerLines (σ : Session) (made : Except Fault (List String) × Store) : Answer × Session :=
  let σ := σ.withStore made.2
  (σ.answer (made.1.map .ofLines), σ)

/-- Answers with a value that is made in a store and may change it. -/
def answerValue (σ : Session) (made : Except Fault Value × Store) : Answer × Session :=
  let σ := σ.withStore made.2
  (σ.answer (do σ.store.unfold (← made.1)), σ)

/-- Builds settings, or makes default ones if none are given. -/
def buildSettings (σ : Session) : Option Literal → Building Value
  | some v => v.build σ.vars
  | none => fun s => .ok s.allocSettings

/-- Carries out a run. -/
def performRun (σ : Session) (request : RunRequest) : Answer × Session :=
  let parts : Building (Value × Value) := do
    let settings ← σ.buildSettings request.settings
    return (settings, ← request.only.build σ.vars)
  match parts σ.store with
  | .error f => (.trace [] (.error (f.report σ.store)), σ)
  | .ok ((settings, only), s) =>
    let listener : Listener :=
      { failAt := request.failAt
        mutations := request.mutations
        vars := σ.vars
        progress := if request.announced then some .ok else none }
    let trace := s.run listener σ.steps settings only
    (.trace trace.events (trace.outcome.mapError (·.report trace.store)), σ.withStore trace.store)

/-- Carries out a command. -/
def performCommand (σ : Session) (arguments : List String) : Answer × Session :=
  let (output, s) := CommandLine.execute σ.store σ.steps arguments
  let problem := output.problem.map fun problem =>
    match problem with
    | .usage e => CommandReport.usage e
    | .fault f => .fault (f.report s)
  (.command output.exit output.stdout output.stderr problem, σ.withStore s)

/-- Carries out one operation. -/
def perform (σ : Session) : Operation → Answer × Session
  | .greet name greeting =>
    let parts : Building (Option Value × Value) := do
      let name ← name.mapM (·.build σ.vars)
      return (name, ← (greeting.getD (.text Settings.defaultGreeting)).build σ.vars)
    σ.asking parts fun (name, greeting) s =>
      match name with
      | some name => (s.greetingLine name greeting).map .text
      | none => .error .missingName
  | .sum numbers =>
    σ.building (numbers.build σ.vars) fun v σ =>
      let (total, s) := σ.store.sum v
      let σ := σ.withStore s
      (σ.answer (total.bind Number.tree), σ)
  | .threshold count =>
    σ.asking (count.build σ.vars) fun v s => (s.thresholdLine v).map .text
  | .iterations count =>
    σ.asking ((count.getD (.int Settings.defaultIterations)).build σ.vars) fun v s =>
      (s.iterationLines v).map .ofLines
  | .fullName person =>
    σ.building (person.build σ.vars) fun v σ => σ.answerValue (σ.store.fullName v)
  | .personLine person =>
    σ.building (person.build σ.vars) fun v σ =>
      let (line, s) := σ.store.personLine v
      let σ := σ.withStore s
      (σ.answer (line.map .text), σ)
  | .defaultPerson => σ.asking (fun s => .ok s.allocPerson) fun v s => s.unfold v
  | .listSteps =>
    (σ.answer (do
      let listed ← σ.store.listSteps σ.steps
      return .list (← listed.mapM σ.store.unfoldStep)), σ)
  | .findStep name =>
    σ.asking (name.build σ.vars) fun v s => do
      match ← s.findStep v σ.steps with
      | some e => s.unfoldStep e
      | none => return .null
  | .stepLines name settings =>
    let parts : Building (Value × Value) := do
      let name ← name.build σ.vars
      return (name, ← σ.buildSettings settings)
    σ.building parts fun (name, settings) σ =>
      σ.answerLines (σ.store.stepLines σ.steps name settings)
  | .allLines settings =>
    σ.building ((settings.getD .null).build σ.vars) fun v σ =>
      σ.answerLines (σ.store.allLines σ.steps v)
  | .value v => σ.asking (v.build σ.vars) fun v s => s.unfold v
  | .display v => σ.asking (v.build σ.vars) fun v s => (s.display v).map .text
  | .equal a b =>
    let parts : Building (Value × Value) := do
      let a ← a.build σ.vars
      return (a, ← b.build σ.vars)
    σ.asking parts fun (a, b) s => (s.equal a b).map .bool
  | .identical a b =>
    let parts : Building (Value × Value) := do
      let v ← a.build σ.vars
      return (v, ← b.build σ.vars)
    σ.asking parts fun (v, w) s => .ok (.bool (s.identical (a, v) (b, w)))
  | .run request => σ.performRun request
  | .bind name v =>
    σ.building (v.build σ.vars) fun v σ => (.value .null, { σ with vars := σ.vars.put name v })
  | .assign target field v =>
    let parts : Building (Value × Value) := do
      let target ← target.build σ.vars
      return (target, ← v.build σ.vars)
    σ.building parts fun (target, v) σ =>
      match σ.store.assign target field v with
      | .ok s => (.value .null, σ.withStore s)
      | .error f => (σ.answer (.error f), σ)
  | .append target v =>
    let parts : Building (Value × Value) := do
      let target ← target.build σ.vars
      let operation ← Building.read fun s => s.lookup target "append"
      return (operation, ← v.build σ.vars)
    σ.building parts fun (operation, v) σ => σ.answerValue (σ.store.call operation [v])
  | .replaceSteps steps =>
    σ.building (Step.buildAll σ.vars steps) fun steps σ => (.value .null, { σ with steps })
  | .reviseStep name field v =>
    let parts : Building (Value × Value) := do
      let name ← name.build σ.vars
      let _ ← Building.read fun s => s.findStep name σ.steps
      return (name, ← v.build σ.vars)
    σ.building parts fun (name, v) σ =>
      match σ.store.reviseStep name field v σ.steps with
      | .ok (steps, store) => (.value .null, { σ with steps, store })
      | .error f => (σ.answer (.error f), σ)
  | .clearListed => (σ.answer ((σ.store.listSteps σ.steps).map fun _ => .null), σ)
  | .command arguments => σ.performCommand arguments

/-- Carries out operations one after the other. -/
def performAll (σ : Session) : List Operation → List Answer × Session
  | [] => ([], σ)
  | op :: rest =>
    let (answer, σ) := σ.perform op
    let (answers, σ) := σ.performAll rest
    (answer :: answers, σ)

end Session

end Walkthrough
