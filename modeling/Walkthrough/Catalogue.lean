import Walkthrough.Attribute
import Walkthrough.Order
import Walkthrough.Sorting

/-!
# The step catalogue

A catalogue is a list of records, its steps. They are listed by their order, steps of the same order
as they stand; a step is found by its name, the first match as they stand.

Orders that are all integers, or all texts, can be compared in any sequence, and every stable sort
lists their steps alike. Where comparisons may fail, or contradict each other, their sequence is
fixed, and with it which of them fails first and what comes out.

## Main definitions

* `Store.listSteps` — the steps by their order
* `Store.findStep` — the first step of a name
* `Store.reviseStep` — a catalogue with an attribute of a step set
-/

namespace Walkthrough

/-- The integer that a value counts as. -/
def Value.integer? : Value → Option Int
  | .bool b => some b.toNat
  | .int n => some n
  | _ => none

/-- The text that a value is. -/
def Value.text? : Value → Option String
  | .text t => some t
  | _ => none

/-- Steps by an order that each of them has, if each of them has one; steps of the same order as
they stand. -/
def sortedBy? {α : Type} (before : α → α → Bool) (order? : Value → Option α)
    (steps : List (Value × Record)) : Option (List Record) := do
  let keyed ← steps.mapM fun (order, e) => (order? order).map fun key => (key, e)
  return (keyed.mergeSort fun d e => !before e.1 d.1).map (·.2)

namespace Store

/-- Steps with their orders. -/
def withOrders (s : Store) (steps : List Record) : Except Fault (List (Value × Record)) :=
  steps.mapM fun e => do return (← s.field e "order", e)

/-- The steps of a catalogue by their order. -/
def listSteps (s : Store) (steps : List Record) : Except Fault (List Record) := do
  let keyed ← s.withOrders steps
  match sortedBy? (fun m n => decide (m < n)) Value.integer? keyed with
  | some listed => return listed
  | none =>
    match sortedBy? (fun t u => decide (t < u)) Value.text? keyed with
    | some listed => return listed
    | none => return (← Sorting.sort (fun d e => s.less d.1 e.1) keyed).map (·.2)

/-- The first step of a name. -/
def findStep (s : Store) (name : Value) : List Record → Except Fault (Option Record)
  | [] => .ok none
  | e :: rest => do
    if ← s.equal (← s.field e "name") name then return some e else s.findStep name rest

/-- Sets an attribute of the first step of a name. -/
def reviseStep (s : Store) (name : Value) (field : String) (v : Value) :
    List Record → Except Fault (List Record × Store)
  | [] => .error (s.assignmentFault .null field v)
  | e :: rest => do
    if ← s.equal (← s.field e "name") name then
      let (e, s) ← s.assignRecord e field v
      return (e :: rest, s)
    else
      let (rest, s) ← s.reviseStep name field v rest
      return (e :: rest, s)

end Store

end Walkthrough
