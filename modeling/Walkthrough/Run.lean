import Walkthrough.Topic

/-!
# Runs

A run goes through the selected steps in order. The lines of a step are all produced before the
first of them is emitted. The listener may change the settings after each line, and may refuse a
line and so end the run; a change made while the lines of a step are being emitted is first seen
by the next step.

## Main definitions

* `Event`, `Trace` — what a run does and how it ends
* `Listener` — who is told the lines, and what happens then
* `Store.emitLines` — emitting lines that have been produced
* `Store.runSteps` — going through steps
* `Store.run` — a run of all steps, or of one
* `Store.allLines` — the lines of all steps, without a listener
-/

namespace Walkthrough

/-- What a run does visibly. -/
inductive Event
  /-- A step is announced. -/
  | progress (text : String)
  /-- A line is emitted. -/
  | emit (line : String)
deriving DecidableEq, Repr

/-- A run: its events in order, the lines it returns or the fault that ended it, and the store it
leaves. -/
structure Trace where
  events : List Event
  outcome : Except Fault (List String)
  store : Store

/-- A change of the settings that is made after the line number `moment`, counted from zero. -/
structure Mutation where
  moment : Int
  field : String
  value : Literal

/-- Who is told the lines of a run. -/
structure Listener where
  /-- The number of the line that is refused, if any. -/
  failAt : Option Int := none
  mutations : List Mutation := []
  /-- The variables that the values of mutations may mention. -/
  vars : Bindings := []
  /-- How the announcement of a step is printed, if it is. -/
  progress : Option (String → Except Fault String) := none

/-- The announcement of a step. Each of its fields is read when it is its turn. -/
def Store.announcement (s : Store) (e : Record) : Except Fault String := do
  let order ← s.sentence (← s.field e "order")
  let name ← s.sentence (← s.field e "name")
  let description ← s.sentence (← s.field e "description")
  return "  [dim]" ++ order ++ ". " ++ name ++ ": " ++ description ++ "[/dim]"

/-- The events that announce a step: one if the listener wants it, else none. -/
def Listener.announce (listener : Listener) (s : Store) (e : Record) : Except Fault (List Event) :=
  match listener.progress with
  | none => .ok []
  | some print => do return [.progress (← print (← s.announcement e))]

namespace Store

/-- Makes changes to settings one after the other. -/
def mutate (s : Store) (settings : Value) (vars : Bindings) :
    List Mutation → Except Fault Unit × Store
  | [] => (.ok (), s)
  | m :: rest =>
    match m.value.build vars s with
    | .error f => (.error f, s)
    | .ok (v, s) =>
      match s.assign settings m.field v with
      | .error f => (.error f, s)
      | .ok s => s.mutate settings vars rest

/-- Emits lines, the first of them as line number `k`. -/
def emitLines (listener : Listener) (settings : Value) (s : Store) (k : Nat) : List String → Trace
  | [] => ⟨[], .ok [], s⟩
  | line :: rest =>
    if listener.failAt = some (k : Int) then ⟨[], .error .emitFailed, s⟩
    else
      match s.mutate settings listener.vars (listener.mutations.filter (·.moment = k)) with
      | (.error f, s) => ⟨[.emit line], .error f, s⟩
      | (.ok (), s) =>
        let later := emitLines listener settings s (k + 1) rest
        ⟨.emit line :: later.events, later.outcome.map (line :: ·), later.store⟩

/-- Goes through steps; `k` lines have been emitted before. Each step is looked up again by its name
in the catalogue. -/
def runSteps (listener : Listener) (steps : List Record) (settings : Value) (s : Store) (k : Nat) :
    List Record → Trace
  | [] => ⟨[], .ok [], s⟩
  | e :: rest =>
    match listener.announce s e with
    | .error f => ⟨[], .error f, s⟩
    | .ok announced =>
      match s.linesOfStep steps settings e with
      | (.error f, s) => ⟨announced, .error f, s⟩
      | (.ok lines, s) =>
        let emitted := emitLines listener settings s k lines
        match emitted.outcome with
        | .error f => ⟨announced ++ emitted.events, .error f, emitted.store⟩
        | .ok done =>
          let later := runSteps listener steps settings emitted.store (k + lines.length) rest
          ⟨announced ++ emitted.events ++ later.events, later.outcome.map (done ++ ·), later.store⟩

/-- The steps of a run: the one of a name, if the name given counts as true, or all of them. -/
def selectSteps (s : Store) (steps : List Record) (only : Value) : Except Fault (List Record) :=
  if s.truthy only then do
    match ← s.findStep only steps with
    | some e => return [e]
    | none => .error (.unknownName only)
  else s.listSteps steps

/-- A run of all steps, or of the one named by `only`. -/
def run (listener : Listener) (steps : List Record) (settings only : Value) (s : Store) : Trace :=
  match s.selectSteps steps only with
  | .error f => ⟨[], .error f, s⟩
  | .ok selected => runSteps listener steps settings s 0 selected

/-- The lines of steps, one step after the other. -/
def linesOf (s : Store) (steps : List Record) (settings : Value) :
    List Record → Except Fault (List String) × Store
  | [] => (.ok [], s)
  | e :: rest =>
    match s.linesOfStep steps settings e with
    | (.error f, s) => (.error f, s)
    | (.ok lines, s) =>
      let (later, s) := s.linesOf steps settings rest
      (later.map (lines ++ ·), s)

/-- The lines of all steps. Settings that do not count as true are replaced by new default ones. -/
def allLines (s : Store) (steps : List Record) (settings : Value) :
    Except Fault (List String) × Store :=
  let (settings, s) := if s.truthy settings then (settings, s) else s.allocSettings
  match s.listSteps steps with
  | .error f => (.error f, s)
  | .ok listed => s.linesOf steps settings listed

end Store

end Walkthrough
