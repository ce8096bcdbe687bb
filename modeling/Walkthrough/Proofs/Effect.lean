import Mathlib.Logic.Relation
import Walkthrough.Call

/-!
# What calls do to a store

A person may have been given any operation in place of the one that composes its full name, and a
step that asks for the name carries it out without arguments. Such a call can do more than read: it
may sort a list, empty a dictionary, or set up a record again. This module says once what it can do,
as a relation between stores, and gives the rules by which operations are seen to do no more. That
they do no more is shown operation by operation in `Walkthrough.Proofs.CallEffect`.

## Why a relation

An invariant of stores that every `Store.Effect` keeps is kept by every call without arguments, by
induction over the effects. So the operations are gone through once, and not once for each
invariant.

## Main definitions

* `Store.Effect` — what may be done to a store at once
* `Store.Effects` — what may be done to it one after the other
* `Action.Gentle` — an action that does nothing else, in whatever store it is done

## Main results

* `Store.Effects.keep` — what every effect keeps, effects keep
* `Action.effects_bind` — doing one thing after the other
* `Store.effects_sum` — summing has effects only
-/

namespace Walkthrough

namespace Store

/-- What a call without arguments may do to a store at once. Objects are made, and serial numbers
given. Of the objects that there are, a list may get other elements, an iterator may move, a
dictionary may lose its last entry or all of them, and a field of settings may be set to its
default; the numbers and the person have none, and are new. -/
inductive Effect (s : Store) : Store → Prop
  | make (c : Cell) : Effect s (s.alloc c).2
  | mark : Effect s { s with marks := s.marks + 1 }
  | refill {a : Addr} {items : List Value} (h : s.get? a = some (.list items))
      (others : List Value) : Effect s (s.put a (.list others))
  | move {a : Addr} {it : Iterator} (h : s.get? a = some (.iterator it)) (moved : Iterator) :
      Effect s (s.put a (.iterator moved))
  | empty {a : Addr} {entries : Table Value} (h : s.get? a = some (.dict entries)) :
      Effect s (s.put a (.dict []))
  | dropLast {a : Addr} {entries : Table Value} (h : s.get? a = some (.dict entries)) :
      Effect s (s.put a (.dict entries.dropLast))
  | reset {v w : Value} {name : String} {t : Store} (hname : name ∈ Settings.fieldNames)
      (hdefault : ∀ d, Settings.defaults.get? name = some d → w = d)
      (h : s.assign v name w = .ok t) : Effect s t

/-- What calls without arguments may do to a store one after the other. -/
def Effects : Store → Store → Prop := Relation.ReflTransGen Effect

namespace Effects

theorem refl (s : Store) : Effects s s := Relation.ReflTransGen.refl

theorem of_effect {s t : Store} (h : Effect s t) : Effects s t := Relation.ReflTransGen.single h

/-- Effects one after the other are effects. -/
theorem trans {s t u : Store} (hst : Effects s t) (htu : Effects t u) : Effects s u :=
  Relation.ReflTransGen.trans hst htu

/-- **Invariants.** What every effect keeps, effects keep. -/
theorem keep {I : Store → Prop} (hstep : ∀ s t, Effect s t → I s → I t) {s t : Store}
    (h : Effects s t) (hs : I s) : I t := by
  induction h with
  | refl => exact hs
  | tail _ heffect ih => exact hstep _ _ heffect ih

end Effects

/-! ### Objects that are made -/

theorem effects_alloc (s : Store) (c : Cell) : Effects s (s.alloc c).2 := .of_effect (.make c)

theorem effects_allocRecord (s : Store) (k : Kind) (attributes : Bindings) :
    Effects s (s.allocRecord k attributes).2 :=
  (effects_alloc s _).trans (effects_alloc _ _)

/-! ### Iterators that move -/

theorem effects_moveOn (s : Store) (v : Value) (read : Nat) (ranOff : Bool) :
    Effects s (s.moveOn v read ranOff) := by
  unfold moveOn
  split
  · rename_i h
    exact .of_effect (.move h _)
  · exact .refl s

theorem effects_breakOff (s : Store) (v : Value) : Effects s (s.breakOff v) := by
  unfold breakOff
  split
  · rename_i h
    exact .of_effect (.move h _)
  · exact .refl s

/-- Summing moves the iterator that is summed, and does nothing else. -/
theorem effects_sum (s : Store) (v : Value) : Effects s (s.sum v).2 := by
  unfold sum
  split
  · exact effects_breakOff s v
  · exact effects_moveOn s v _ _

end Store

namespace Action

variable {α β : Type}

/-- An action that has effects only, whether it fails or not. -/
class Gentle (act : Action α) : Prop where
  effects : ∀ s, Store.Effects s (act.run s).2

theorem run_bind (act : Action α) (f : α → Action β) (s : Store) :
    (act >>= f).run s =
      match act.run s with
      | (.error fault, t) => (.error fault, t)
      | (.ok x, t) => (f x).run t := by
  show (ExceptT.bindCont f (act.run s).1 : StateM Store (Except Fault β)) (act.run s).2 = _
  rcases act.run s with ⟨_ | _, t⟩ <;> rfl

/-- Doing one thing after the other. What comes second is asked about in the store that the first
leaves. -/
theorem effects_bind {act : Action α} {f : α → Action β} {s : Store}
    (hact : Store.Effects s (act.run s).2)
    (hf : ∀ x t, act.run s = (.ok x, t) → Store.Effects t ((f x).run t).2) :
    Store.Effects s ((act >>= f).run s).2 := by
  rw [run_bind]
  rcases hrun : act.run s with ⟨fault | x, t⟩
  · simpa only [hrun] using hact
  · rw [hrun] at hact
    exact hact.trans (hf x t hrun)

/-! ### Actions that have effects only -/

instance gentle_pure (x : α) : Gentle (pure x) := ⟨fun s => .refl s⟩

instance gentle_throw (f : Fault) : Gentle (throw f : Action α) := ⟨fun s => .refl s⟩

instance gentle_misuse (m : Misuse) : Gentle (misuse m : Action α) := ⟨fun s => .refl s⟩

instance gentle_read (f : Store → Except Fault α) : Gentle (read f) := ⟨fun s => .refl s⟩

instance gentle_make (c : Cell) : Gentle (make c) := ⟨fun s => Store.effects_alloc s c⟩

instance gentle_real (x : Float) : Gentle (real x) := ⟨fun _ => .of_effect .mark⟩

/-- One gentle action after another is gentle, whatever the first one gives. -/
theorem Gentle.bind {act : Action α} {f : α → Action β} (hact : Gentle act)
    (hf : ∀ x, Gentle (f x)) : Gentle (act >>= f) :=
  ⟨fun s => effects_bind (hact.effects s) fun x t _ => (hf x).effects t⟩

instance gentle_bind {act : Action α} {f : α → Action β} [hact : Gentle act]
    [hf : ∀ x, Gentle (f x)] : Gentle (act >>= f) :=
  hact.bind hf

instance gentle_ite {p : Prop} [Decidable p] {act other : Action α} [Gentle act] [Gentle other] :
    Gentle (if p then act else other) := by
  split <;> infer_instance

instance gentle_tuple (items : List Value) : Gentle (tuple items) := gentle_make _

instance gentle_list (items : List Value) : Gentle (list items) := gentle_make _

instance gentle_kindOf (v : Value) : Gentle (kindOf v) := gentle_read _

end Action

end Walkthrough
