import Walkthrough.Decimal.Numeral
import Walkthrough.Fault
import Walkthrough.Store
import Walkthrough.Text.Integer
import Walkthrough.Text.Quoted

/-!
# Values as text

A value is displayed as the literal that would build it. Inside a sentence a text stands as it is,
and every other value is displayed.

An object may contain itself. While an object is being displayed it is active, and an active object
is displayed as an ellipsis in its own brackets. Released objects are displayed in full again, so an
object that merely occurs twice is shown twice.

Objects that hold each other too deep are not displayed. A collection goes one level down to its
parts and a record three, and there are only so many levels. Calls take from the same levels: what
is made inside a call has one level less than there was where it was called. So every function that
puts values into words is told how many levels are left where it is called, and hands on one less.

## Main definitions

* `callLevels` — the levels that are left where a session calls something
* `Store.displayObject` — an object, given how its parts are displayed
* `Store.display` — a value as a literal
* `Store.sentence` — a value inside a sentence
-/

namespace Walkthrough

/-- Where the kinds of records are declared. -/
def recordModule : String := "basicsdemo.models"

/-- Where a kind is declared. -/
def Kind.module : Kind → String
  | .person | .settings => recordModule
  | .step => "basicsdemo.steps"
  | _ => "builtins"

/-- The word for a kind with the module before it, unless that is the common one. -/
def Kind.fullName (k : Kind) : String :=
  if k.module = "builtins" then k.name else k.module ++ "." ++ k.name

/-- An integer in decimal, unless it has too many digits. -/
def displayInt (n : Int) : Except Fault String :=
  match Integer.render? n with
  | some text => .ok text
  | none => .error .tooManyDigits

/-- The numbers that build a progression; a step of one is left out. -/
def Progression.display (r : Progression) : Except Fault String := do
  let start ← displayInt r.start
  let stop ← displayInt r.stop
  if r.step = 1 then return "range(" ++ start ++ ", " ++ stop ++ ")"
  else return "range(" ++ start ++ ", " ++ stop ++ ", " ++ (← displayInt r.step) ++ ")"

/-- What stands for an object inside itself. -/
def Cell.ellipsis : Cell → String
  | .list _ => "[...]"
  | .tuple _ => "(...)"
  | .dict _ => "\x7b...\x7d"
  | _ => "..."

/-- A member of a kind, by its nature. -/
def Kind.displayMember (k : Kind) (name : String) : String :=
  let sort := match k.nature? name with
    | some .special => "slot wrapper"
    | some .property => "attribute"
    | some .part => "member"
    | _ => "method"
  "<" ++ sort ++ " '" ++ name ++ "' of '" ++ k.name ++ "' objects>"

/-- How many levels are left where something is called, unless it is said otherwise: as many as where
a session calls it. The lines of a run and of a command are made as if a session had called for each
of them. -/
def callLevels : Nat := 996

theorem one_lt_callLevels : 1 < callLevels := by decide

namespace Store

/-- A field of a record, which must have it. -/
def field (s : Store) (r : Record) (name : String) : Except Fault Value :=
  match s.field? r name with
  | some v => .ok v
  | none => .error (.noAttribute r.kind name)

/-- A record with its fields by name, each of them read when it is its turn. -/
def displayRecord (s : Store) (inner : Value → Except Fault String) (r : Record) :
    Except Fault String := do
  let parts ← r.kind.fieldNames.mapM fun name => do
    return name ++ "=" ++ (← inner (← s.field r name))
  return r.kind.name ++ "(" ++ commaSeparated parts ++ ")"

/-- An object, given how its parts are displayed. A tuple of one part keeps a comma. -/
def displayObject (s : Store) (inner : Value → Except Fault String) : Cell → Except Fault String
  | .list items => do return "[" ++ commaSeparated (← items.mapM inner) ++ "]"
  | .tuple items => do
    match ← items.mapM inner with
    | [part] => return "(" ++ part ++ ",)"
    | parts => return "(" ++ commaSeparated parts ++ ")"
  | .dict entries => do
    let parts ← entries.mapM fun entry => do
      return (← inner entry.1) ++ ": " ++ (← inner entry.2)
    return "\x7b" ++ commaSeparated parts ++ "\x7d"
  | .record r => s.displayRecord inner r
  | .iterator it => .ok ("<" ++ it.kind.name ++ ">")

/-- A value as a literal, with the levels that are left and the objects being displayed. A record
needs two levels more than it has below it to be asked at all. -/
def displayWithin (s : Store) : Nat → List Value → Value → Except Fault String
  | 0, _, _ => .error (.tooDeep .displaying)
  | level + 1, active, v =>
    match v with
    | .null => .ok "None"
    | .bool true => .ok "True"
    | .bool false => .ok "False"
    | .int n => displayInt n
    | .real x _ => .ok (Decimal.render x)
    | .text t => .ok (Text.quote t)
    | .range r => r.display
    | .operation owner name =>
      .ok ("<built-in method " ++ name ++ " of " ++ (s.kind owner).name ++ " object>")
    | .method a k name => do
      return "<bound method " ++ k.name ++ "." ++ name ++ " of " ++
        (← s.displayWithin level active (.ref a)) ++ ">"
    | .function k name => .ok ("<function " ++ k.name ++ "." ++ name ++ ">")
    | .kind k => .ok ("<class '" ++ k.fullName ++ "'>")
    | .member k name => .ok (k.displayMember name)
    | .shown _ text => .ok text
    | .ref _ | .description _ =>
      match s.cell? v with
      | none => .ok "None"
      | some (.record r) =>
        match level with
        | 0 => .error (.tooDeep .unfolding)
        | 1 => .error (.tooDeep .asking)
        | level + 2 =>
          if v ∈ active then .ok "..."
          else s.displayRecord (s.displayWithin level (v :: active)) r
      | some c =>
        if v ∈ active then .ok c.ellipsis
        else s.displayObject (s.displayWithin level (v :: active)) c

/-- A value as a literal. The call that displays it takes one of the levels. -/
def display (s : Store) (v : Value) (levels : Nat := callLevels) : Except Fault String :=
  s.displayWithin (levels - 1) [] v

/-- A value inside a sentence: a text as it is, anything else displayed. -/
def sentence (s : Store) (v : Value) (levels : Nat := callLevels) : Except Fault String :=
  match v with
  | .text t => .ok t
  | v => s.display v levels

@[simp]
theorem sentence_text (s : Store) (t : String) (levels : Nat) :
    s.sentence (.text t) levels = .ok t := rfl

@[simp]
theorem display_int (s : Store) (n : Int) : s.display (.int n) = displayInt n := rfl

theorem sentence_int (s : Store) (n : Int) {levels : Nat} (h : 1 < levels) :
    s.sentence (.int n) levels = displayInt n := by
  obtain ⟨levels, rfl⟩ := Nat.exists_eq_add_of_le' h
  rfl

end Store

end Walkthrough
