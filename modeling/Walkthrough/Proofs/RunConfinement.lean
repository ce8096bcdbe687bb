import Walkthrough.CommandLine.Execution
import Walkthrough.Proofs.BuildingConfinement

/-!
# Runs keep to what they are given

A run is given settings, and changes of them whose values may mention variables. It gets at other
objects through these only: the records of the catalogue are asked for their fields, but the
dictionaries in which they keep them are not given to anything.

## How the statement travels

A relation between two stores is used here, in place of a condition on actions, because a run is not
written as an action: it hands its store on from step to step, and keeps the lines and the fault
beside it. `Store.Shields K s t` says of a set `K` what `Action.Confined` says of all. It composes,
by `Shields.trans` where each part relies on the same facts, and by `Shields.trans_of` where the
second part relies on something that the first one has given.

A run does one thing more than its steps: it looks at the catalogue, to select steps and to find
them by name. This is reading, and the records of the catalogue are not put anywhere from where they
could be reached. So the set that is spared may well hold the dictionaries of the steps, as long as
neither the settings nor the variables lead there.

## Main definitions

* `Store.Shields` — a change of the store that spares a set, and takes no object away

## Main results

* `Store.shields_linesOfStep`, `Store.shields_mutate` — a step, and the changes that are made after
  a line
* `Store.shields_run`, `Store.shields_allLines` — runs
* `CommandLine.shields_execute` — commands
-/

namespace Walkthrough

open Referring (Avoids)

namespace Store

/-- No object is taken away, and if the first store avoids `K` then the objects in `K` are spared.

The set is a parameter and not quantified over, since the condition on what the change is given
differs from one change to the next, and is assumed by each lemma for the set that it is about. -/
structure Shields (K : Set Addr) (s t : Store) : Prop where
  size_le : s.size ≤ t.size
  spares : Avoids K s → Withholds K s t → Spares K s t

variable {K : Set Addr} {s t u : Store}

theorem Shields.refl (K : Set Addr) (s : Store) : Shields K s s :=
  ⟨Nat.le_refl _, fun hs _ => .refl hs⟩

/-- One change after the other. The second one may rely on the first store. -/
theorem Shields.trans_of (hst : Shields K s t) (htu : t.size ≤ u.size)
    (hspares : Avoids K s → Withholds K s t → Avoids K t → Withholds K t u → Spares K t u) :
    Shields K s u := by
  refine ⟨hst.size_le.trans htu, fun hs hheld => ?_⟩
  obtain ⟨hbefore, hafter⟩ := hheld.before hst.size_le htu
  have hfirst := hst.spares hs hbefore
  exact hfirst.trans (hspares hs hbefore hfirst.avoids hafter)

theorem Shields.trans (hst : Shields K s t) (htu : Shields K t u) : Shields K s u :=
  hst.trans_of htu.size_le fun _ _ => htu.spares

/-! ### Topics

The line of a topic is put together from attributes of the settings. A call is made on the way for
the full name of a person, and numbers are added up; everything else is reading.
-/

/-- A sum moves an iterator that is reached from the value, or nothing. -/
theorem shields_sum {v : Value} (hv : Avoids K v) : Shields K s (s.sum v).2 := by
  unfold sum
  split
  · exact ⟨(size_breakOff v).ge, fun hs _ => spares_breakOff hs hv⟩
  · exact ⟨(size_moveOn v _ _).ge, fun hs _ => spares_moveOn hs hv _ _⟩

/-- Something is done with what is reached from a value through an attribute. -/
theorem shields_of_lookup {v w : Value} {name : String} (hv : Avoids K v)
    (hw : s.lookup v name = .ok w) (h : ∀ L, Avoids L w → Shields L s t) : Shields K s t :=
  ⟨(h ∅ (Referring.avoids_empty w)).size_le, fun hs => (h K (avoids_of_lookup hs hv hw)).spares hs⟩

/-- What a person has under the name is called, whatever it is. -/
theorem shields_fullName {v : Value} (hv : Avoids K v) (levels : Nat) :
    Shields K s (s.fullName v levels).2 := by
  unfold fullName
  split
  · exact .refl K s
  · rename_i operation hoperation
    refine shields_of_lookup hv hoperation fun L hL => ⟨size_le_call s _ _, fun hs hheld => ?_⟩
    exact (spares_call hs hL avoids_nil hheld).1

theorem shields_personLine {v : Value} (hv : Avoids K v) (levels : Nat) :
    Shields K s (s.personLine v levels).2 := by
  have hname := shields_fullName (s := s) hv (levels - 1)
  unfold personLine
  rcases hfull : s.fullName v (levels - 1) with ⟨_ | _, t⟩
  · rw [hfull] at hname
    exact hname
  · rw [hfull] at hname
    exact hname

/-- **A topic** gets at what the settings lead to, by cases on the topic. -/
theorem shields_topicLines {settings : Value} (hsettings : Avoids K settings) (topic : Topic) :
    Shields K s (s.topicLines settings topic).2 := by
  cases topic with
  | greeting | threshold | loop => exact .refl K s
  | sum =>
    simp only [topicLines]
    split
    · exact .refl K s
    · exact shields_of_lookup hsettings ‹_› fun L hL => shields_sum hL
  | person =>
    simp only [topicLines]
    split
    · exact .refl K s
    · exact shields_of_lookup hsettings ‹_› fun L hL => shields_personLine hL _

/-- The settings are all that the lines of a step are made from. -/
theorem shields_stepLines {settings : Value} (hsettings : Avoids K settings) (steps : List Record)
    (name : Value) : Shields K s (s.stepLines steps name settings).2 := by
  unfold stepLines
  split
  · exact .refl K s
  · exact .refl K s
  · split
    · exact .refl K s
    · exact shields_topicLines hsettings _

/-- **A step** gets at other objects through the settings only. -/
theorem shields_linesOfStep {settings : Value} (hsettings : Avoids K settings)
    (steps : List Record) (e : Record) : Shields K s (s.linesOfStep steps settings e).2 := by
  unfold linesOfStep
  split
  · exact .refl K s
  · exact shields_stepLines hsettings steps _

/-! ### Runs

After each line a listener may change the settings. What it is to set is built from variables then,
so that these are a second thing that a run gets at.
-/

/-- What is built is new, or reached from the variables. -/
theorem shields_of_build {α : Type} {b : Building α} {P : Set Addr → Prop}
    {Q : Set Addr → α → Prop} {x : α} (hb : Building.Confined P b Q) (hK : P K)
    (h : b s = .ok (x, t)) : Shields K s t where
  size_le := (hb.extends_of_ok s x t h).size_le
  spares hs hheld :=
    (hb.extends_of_ok s x t h).spares (hb.avoids K s x t hK hs h hheld).1 hheld

/-- Something is done with what has been built. -/
theorem Shields.of_build {α : Type} [Referring α] {b : Building α} {P : Set Addr → Prop} {x : α}
    (hb : Building.Confined P b Avoids) (hK : P K) (hbuilt : b s = .ok (x, t))
    (h : ∀ L, Avoids L x → Shields L t u) : Shields K s u :=
  (shields_of_build hb hK hbuilt).trans_of (h ∅ (Referring.avoids_empty x)).size_le
    fun hs hheld => (h K (hb.avoids K s x t hK hs hbuilt hheld).2).spares

/-- **Changes of the settings** put nothing into them that is not reached from the variables. -/
theorem shields_mutate {settings : Value} {vars : Bindings} (hsettings : Avoids K settings)
    (hvars : Avoids K vars) (mutations : List Mutation) :
    Shields K s (s.mutate settings vars mutations).2 := by
  induction mutations generalizing s with
  | nil => exact .refl K s
  | cons m rest ih =>
    have hliteral := Literal.confined_build (P := fun K => Avoids K vars) (fun _ hK => hK) m.value
    simp only [mutate]
    split
    · exact .refl K s
    · rename_i v t hbuilt
      have hst := shields_of_build hliteral hvars hbuilt
      split
      · exact hst
      · rename_i u hassign
        have hle := size_le_of_assign hassign
        refine Shields.trans ?_ ih
        refine hst.trans_of hle fun hs hheld ht hheld' => ?_
        exact spares_assign ht hsettings (hliteral.avoids K s v t hvars hs hbuilt hheld).2 hassign
          hheld'

section Runs

variable {listener : Listener} {steps : List Record} {settings : Value}

/-- By induction on the lines that are still to be announced. -/
theorem shields_emitLines (hsettings : Avoids K settings) (hvars : Avoids K listener.vars)
    (k : Nat) (lines : List String) :
    Shields K s (emitLines listener settings s k lines).store := by
  induction lines generalizing s k with
  | nil => exact .refl K s
  | cons line rest ih =>
    simp only [emitLines]
    split
    · exact .refl K s
    · have hmutate := shields_mutate (s := s) hsettings hvars
        (listener.mutations.filter (·.moment = k))
      split
      · rename_i hdone
        rw [hdone] at hmutate
        exact hmutate
      · rename_i hdone
        rw [hdone] at hmutate
        exact hmutate.trans (ih (k + 1))

/-- By induction on the steps that are still to come. -/
theorem shields_runSteps (hsettings : Avoids K settings) (hvars : Avoids K listener.vars)
    (k : Nat) (selected : List Record) :
    Shields K s (runSteps listener steps settings s k selected).store := by
  induction selected generalizing s k with
  | nil => exact .refl K s
  | cons e rest ih =>
    have hlines := shields_linesOfStep (s := s) hsettings steps e
    simp only [runSteps]
    split
    · exact .refl K s
    · rcases hstep : s.linesOfStep steps settings e with ⟨f | lines, t⟩ <;> rw [hstep] at hlines
      · exact hlines
      · have hemitted := shields_emitLines (s := t) hsettings hvars k lines
        dsimp only
        split
        · exact hlines.trans hemitted
        · exact hlines.trans (hemitted.trans (ih _))

/-- **A run** gets at other objects through the settings and the variables only. -/
theorem shields_run (hsettings : Avoids K settings) (hvars : Avoids K listener.vars)
    (only : Value) : Shields K s (s.run listener steps settings only).store := by
  unfold run
  split
  · exact .refl K s
  · exact shields_runSteps hsettings hvars 0 _

/-- By induction on the steps. -/
theorem shields_linesOf (hsettings : Avoids K settings) (listed : List Record) :
    Shields K s (s.linesOf steps settings listed).2 := by
  induction listed generalizing s with
  | nil => exact .refl K s
  | cons e rest ih =>
    have hlines := shields_linesOfStep (s := s) hsettings steps e
    simp only [linesOf]
    rcases hstep : s.linesOfStep steps settings e with ⟨f | lines, t⟩ <;> rw [hstep] at hlines
    · exact hlines
    · exact hlines.trans ih

theorem shields_listed (hsettings : Avoids K settings) :
    Shields K s (match s.listSteps steps with
      | .error f => (.error f, s)
      | .ok listed => s.linesOf steps settings listed : Except Fault (List String) × Store).2 := by
  split
  · exact .refl K s
  · exact shields_linesOf hsettings _

/-- **All lines** come from the settings, or from new ones. -/
theorem shields_allLines (hsettings : Avoids K settings) :
    Shields K s (s.allLines steps settings).2 := by
  unfold allLines
  by_cases htruthy : s.truthy settings
  · rw [if_pos htruthy]
    exact shields_listed hsettings
  · rw [if_neg htruthy]
    exact .of_build (P := fun _ => True) Building.confined_allocSettings trivial rfl
      fun L hL => shields_listed hL

end Runs

end Store

/-! ### Commands

A command makes its settings itself, from the arguments that it is given, and these are texts.
-/

namespace CommandLine

variable {K : Set Addr} {s : Store} {steps : List Record}

theorem shields_executeKnown (options : RunOptions) (opening : String) :
    Store.Shields K s (executeKnown s steps options opening).2 := by
  unfold executeKnown
  split
  · exact .refl K s
  · refine .of_build (P := fun _ => True) ?_ trivial ‹_› fun L hL => ?_
    · exact Literal.confined_build (fun _ _ => avoids_nil) options.settings
    · exact Store.shields_run hL avoids_nil _

/-- **A command** gets at no object that there is. -/
theorem shields_execute (arguments : List String) :
    Store.Shields K s (execute s steps arguments).2 := by
  unfold execute
  split
  · exact .refl K s
  · exact .refl K s
  · unfold executeRun
    split
    · exact .refl K s
    · exact .refl K s
    · split
      · exact .refl K s
      · exact shields_executeKnown _ _
  · exact .refl K s

end CommandLine

end Walkthrough
