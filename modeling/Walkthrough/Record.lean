import Walkthrough.Value

/-!
# Records

A person, the settings of a run and an entry of the step catalogue are records: each has its fields,
and takes further attributes under any other name. Fields and further attributes are read and
written by name alike; only the fields are shown and compared.

The attributes of a record are a dictionary, an object of its own, so that records may share it. A
field that is missing from it has the value that the kind of the record holds for it, if any.

## Main definitions

* `Record` — a kind, and where the attributes are
* `Kind.fieldNames`, `Kind.fieldKinds` — the fields in order, and what they are meant to be
* `Kind.fieldDefault?` — the value of a field that is missing
* `Person.default`, `Settings.withDefaults` — the attributes of records made by default
* `catalogue` — the attributes of the five steps of the walkthrough
-/

namespace Walkthrough

/-- A record. -/
structure Record where
  kind : Kind
  /-- Where the dictionary of its attributes is. -/
  attributes : Addr
deriving DecidableEq

/-! ### Persons -/

namespace Person

/-- The fields of a named person with an age. -/
def fieldNames : List String := ["first_name", "last_name", "age"]

/-- The attributes of a person. -/
def make (firstName lastName age : Value) : Bindings :=
  [("first_name", firstName), ("last_name", lastName), ("age", age)]

/-- The person that settings hold unless they are given another. -/
def default : Bindings := make (.text "John") (.text "Doe") (.int 30)

end Person

/-! ### Settings -/

namespace Settings

/-- The fields of the inputs of a run. -/
def fieldNames : List String :=
  ["greeting", "name", "count", "iterations", "numbers", "person", "is_active"]

/-- The greeting used when none is given. -/
def defaultGreeting : String := "Hello, World!"

/-- The name greeted when none is given. -/
def defaultName : String := "Alice"

/-- The count compared with the threshold when none is given. -/
def defaultCount : Int := 10

/-- The number of iterations when none is given. -/
def defaultIterations : Int := 3

/-- The numbers summed when none are given. -/
def defaultNumbers : List Int := [1, 2, 3, 4, 5]

/-- The fields that have a plain default. -/
def defaults : Bindings :=
  [("greeting", .text defaultGreeting), ("name", .text defaultName), ("count", .int defaultCount),
   ("iterations", .int defaultIterations), ("is_active", .bool true)]

/-- The attributes of settings with every field that has a plain default at its default. -/
def withDefaults (numbers person : Value) : Bindings :=
  [("greeting", .text defaultGreeting), ("name", .text defaultName), ("count", .int defaultCount),
   ("iterations", .int defaultIterations), ("numbers", numbers), ("person", person),
   ("is_active", .bool true)]

end Settings

/-! ### Steps -/

namespace Step

/-- The fields of an entry of the step catalogue. -/
def fieldNames : List String := ["name", "description", "order"]

/-- The attributes of a step with a name, a description and a place in the order. -/
def make (name description : String) (order : Int) : Bindings :=
  [("name", .text name), ("description", .text description), ("order", .int order)]

end Step

/-- The attributes of the steps of the walkthrough. -/
def catalogue : List Bindings :=
  [Step.make "greeting" "Compose a greeting for a name" 1,
   Step.make "sum" "Sum a sequence of numbers" 2,
   Step.make "threshold" "Check whether count exceeds the threshold" 3,
   Step.make "loop" "Print a label for each loop iteration" 4,
   Step.make "person" "Derive a full name from a person record" 5]

/-! ### Fields by kind -/

namespace Kind

/-- The fields of records of a kind, in order. -/
def fieldNames : Kind → List String
  | .person => Person.fieldNames
  | .settings => Settings.fieldNames
  | .step => Step.fieldNames
  | _ => []

/-- What the fields of records of a kind are meant to be, in order. -/
def fieldKinds : Kind → List String
  | .person => ["str", "str", "int"]
  | .settings => ["str", "str", "int", "int", "list[int]", "Person", "bool"]
  | .step => ["str", "str", "int"]
  | _ => []

/-- The value that a kind holds for a field that a record lacks. -/
def fieldDefault? : Kind → String → Option Value
  | .settings, name => Settings.defaults.get? name
  | _, _ => none

/-- The fields that must be given when a record of a kind is made. -/
def requiredFields : Kind → List String
  | .settings => []
  | k => k.fieldNames

end Kind

end Walkthrough
