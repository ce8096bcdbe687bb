import Walkthrough.Call.Action

/-!
# Operations of records

A person composes its full name. Records of every kind are set up with their fields, displayed, and
compared with others. These operations belong to the kind, and take the record as their first
argument; given something else they fail where it lacks what they need.

## Main definitions

* `Store.composeFullName` — first and last name
* `Action.setUp` — giving a record its fields
* `Action.ofRecord` — an operation of records
-/

namespace Walkthrough

/-- First and last name of a value, as they are now, with a space between. Inside the call there is
one level less than `levels`. -/
def Store.composeFullName (s : Store) (v : Value) (levels : Nat := callLevels) :
    Except Fault String := do
  let first ← s.sentence (← s.lookup v "first_name") (levels - 1)
  return first ++ " " ++ (← s.sentence (← s.lookup v "last_name") (levels - 1))

namespace Kind

/-- The names of the parameters of an operation of records. -/
def parameters (k : Kind) (operation : String) : List String :=
  match operation with
  | "__init__" => "self" :: k.fieldNames
  | "__eq__" => ["self", "other"]
  | _ => ["self"]

/-- The parameters of an operation of records that must be given. -/
def neededParameters (k : Kind) (operation : String) : List String :=
  match operation with
  | "__init__" => "self" :: k.requiredFields
  | _ => k.parameters operation

end Kind

namespace Action

/-- Checks the number of arguments of an operation of records. -/
def checkArguments (k : Kind) (operation : String) (given : Nat) : Action Unit :=
  let parameters := k.parameters operation
  let missing := (parameters.drop given).filter (· ∈ k.neededParameters operation)
  if parameters.length < given then
    misuse (.surplusArguments k operation parameters.length given)
  else if missing.isEmpty then pure ()
  else misuse (.missingArguments k operation missing)

/-- Sets an attribute of a value. -/
def assign (v : Value) (name : String) (w : Value) : Action Unit :=
  ExceptT.mk fun s =>
    match s.assign v name w with
    | .ok s => (.ok (), s)
    | .error f => (.error f, s)

/-- The value that a field gets if none is given for it. -/
def fieldDefault (k : Kind) (name : String) : Action Value :=
  match name with
  | "numbers" => ExceptT.mk fun s => (.ok s.allocNumbers.1, s.allocNumbers.2)
  | "person" => ExceptT.mk fun s => (.ok s.allocPerson.1, s.allocPerson.2)
  | _ => return (k.fieldDefault? name).getD .null

/-- Gives a value the fields of a kind of records, one after the other. -/
def setUp (k : Kind) (v : Value) : List String → List Value → Action Unit
  | [], _ => pure ()
  | name :: names, w :: ws => do
    assign v name w
    setUp k v names ws
  | name :: names, [] => do
    assign v name (← fieldDefault k name)
    setUp k v names []

/-- A value displayed as a record of a kind. -/
def displayAs (k : Kind) (v : Value) : Action String :=
  read fun s =>
    if s.kind v = k then s.display v
    else do
      let parts ← k.fieldNames.mapM fun name => do
        return name ++ "=" ++ (← s.display (← s.lookup v name))
      return (s.kind v).name ++ "(" ++ commaSeparated parts ++ ")"

/-- Whether a value is equal to another of the same kind of records. -/
def equalAs (v w : Value) : Action Value := do
  if (← kindOf v) = (← kindOf w) then return .bool (← read fun s => s.equal v w)
  else return .notImplemented

/-- An operation of records of a kind, with the levels that are left where it is called. -/
def ofRecord (k : Kind) (operation : String) (args : List Value) (levels : Nat := callLevels) :
    Action Value := do
  checkArguments k operation args.length
  match operation, args with
  | "get_full_name", [v] => return .text (← read fun s => s.composeFullName v levels)
  | "__init__", v :: given =>
    setUp k v k.fieldNames given
    return .null
  | "__repr__", [v] => return .text (← displayAs k v)
  | "__eq__", [v, w] => equalAs v w
  | _, _ => return .notImplemented

/-- A new record of a kind with no attributes. -/
def bareRecord (k : Kind) : Action Value :=
  ExceptT.mk fun s => (.ok (s.allocRecord k []).1, (s.allocRecord k []).2)

/-- A new record of a kind that is set up with arguments. -/
def newRecord (k : Kind) (args : List Value) : Action Value := do
  checkArguments k "__init__" (args.length + 1)
  let v ← bareRecord k
  setUp k v k.fieldNames args
  return v

end Action

end Walkthrough
