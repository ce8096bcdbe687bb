import Walkthrough.Proofs.RunConfinement
import Walkthrough.Session

/-!
# Sessions keep to their variables

An operation of a session mentions other objects through variables only, and the steps of the
catalogue through their names. So what is reached from no variable is spared by every operation,
except that revising a step also gets at the dictionary in which the step keeps its attributes.

Nothing in a session refers to an address that is free still. So whatever an operation makes is
new to all that there was.

## What the catalogue is good for here

The steps of the catalogue are records that no variable refers to in the beginning, and no operation
makes a variable refer to one: an operation mentions steps by name, and what it does to them is done
inside. So the set of what is not reached from variables has the steps in it, with their
dictionaries. An operation that neither replaces nor revises the catalogue spares them, and the list
of steps stays the same. Revising a step writes to the dictionary of a step of the name. It gets
there from the list of steps, so the sets that it spares must not be reached from there either.

## Shields and closed sessions

`Session.Shields` is a relation between sessions for one set `K`, with a condition on the first
session that the store and the variables avoid `K`. Composed along a sequence of operations it gives
what a whole session spares. Applied to the set of all free addresses it says that no reference ever
leads to one, which is `Session.Closed`; and this in turn is what makes the condition about new
objects hold for every set that is not free.

## Main definitions

* `Session.Shields` — a change of a session that spares a set
* `Operation.Edits` — the operations that are meant to change the catalogue
* `Session.Closed` — no reference leads nowhere

## Main results

* `Session.shields_perform`, `Session.shields_performAll` — what no variable leads to is spared
* `Session.steps_perform` — the catalogue consists of the same records
* `Session.Closed.performAll` — references keep leading somewhere
-/

namespace Walkthrough

open Referring (Avoids)
open Store (Withholds Spares)

/-- Whether an operation is meant to change the step catalogue. -/
def Operation.Edits : Operation → Prop
  | .replaceSteps _ | .reviseStep _ _ _ => True
  | _ => False

/-- Whether an operation is meant to change a step of the catalogue. -/
def Operation.Revises : Operation → Prop
  | .reviseStep _ _ _ => True
  | _ => False

/-- **A step is revised** if it is the first of the name, and an attribute of it can be set. -/
theorem Store.reviseStep_eq_ok {s t : Store} {name v : Value} {field : String}
    {steps revised : List Record} (h : s.reviseStep name field v steps = .ok (revised, t)) :
    ∃ before e after e', steps = before ++ e :: after ∧ revised = before ++ e' :: after ∧
      (∀ d ∈ before, ∃ w, s.field d "name" = .ok w ∧ s.equal w name = .ok false) ∧
      (∃ w, s.field e "name" = .ok w ∧ s.equal w name = .ok true) ∧
      s.assignRecord e field v = .ok (e', t) := by
  induction steps generalizing revised t with
  | nil => cases h
  | cons e rest ih =>
    obtain ⟨w, hw, h⟩ := Sorting.bind_eq_ok.1 h
    obtain ⟨found, hfound, h⟩ := Sorting.bind_eq_ok.1 h
    cases found with
    | true =>
      obtain ⟨⟨e', u⟩, hassign, h⟩ := Sorting.bind_eq_ok.1 h
      cases h
      exact ⟨[], e, rest, e', rfl, rfl, by simp, ⟨w, hw, hfound⟩, hassign⟩
    | false =>
      obtain ⟨⟨later, u⟩, hlater, h⟩ := Sorting.bind_eq_ok.1 h
      cases h
      obtain ⟨before, d, after, d', rfl, rfl, hbefore, hd, hassign⟩ := ih hlater
      refine ⟨e :: before, d, after, d', rfl, rfl, ?_, hd, hassign⟩
      exact List.forall_mem_cons.2 ⟨⟨w, hw, hfound⟩, hbefore⟩

namespace Session

variable {K : Set Addr} {σ τ υ : Session}

/-! ### Changes of a session -/

/-- No object is taken away, and if the store and the variables avoid `K` then the objects in `K`
are spared, and the variables avoid `K` still.

Answers are trees, without addresses, and need not be spoken of. So what an operation can leave
behind for later is in the store and in the variables. -/
structure Shields (K : Set Addr) (σ τ : Session) : Prop where
  size_le : σ.store.size ≤ τ.store.size
  spares : Avoids K σ.store → Avoids K σ.vars → Withholds K σ.store τ.store →
    Spares K σ.store τ.store ∧ Avoids K τ.vars

theorem Shields.refl (K : Set Addr) (σ : Session) : Shields K σ σ :=
  ⟨Nat.le_refl _, fun hs hvars _ => ⟨.refl hs, hvars⟩⟩

theorem Shields.trans (hστ : Shields K σ τ) (hτυ : Shields K τ υ) : Shields K σ υ := by
  refine ⟨hστ.size_le.trans hτυ.size_le, fun hs hvars hheld => ?_⟩
  obtain ⟨hbefore, hafter⟩ := hheld.before hστ.size_le hτυ.size_le
  obtain ⟨hst, hvars⟩ := hστ.spares hs hvars hbefore
  obtain ⟨htu, hvars⟩ := hτυ.spares hst.avoids hvars hafter
  exact ⟨hst.trans htu, hvars⟩

/-- Only the store changes. -/
theorem Shields.of_store (h : Store.Shields K σ.store τ.store) (hvars : τ.vars = σ.vars) :
    Shields K σ τ :=
  ⟨h.size_le, fun hs hσ hheld => ⟨h.spares hs hheld, hvars ▸ hσ⟩⟩

theorem Shields.withStore {s : Store} (h : Store.Shields K σ.store s) :
    Shields K σ (σ.withStore s) :=
  .of_store h rfl

/-- Something is done with what has been built. A condition `H` on the set may be relied upon. -/
theorem Shields.building_of {α : Type} [Referring α] {b : Building α}
    {next : α → Session → Answer × Session} {H : Set Addr → Prop} (hempty : H ∅) (hK : H K)
    (hb : Building.Confined (fun K => Avoids K σ.vars) b Avoids)
    (hnext : ∀ a s L, H L → Avoids L a → Shields L (σ.withStore s) (next a (σ.withStore s)).2) :
    Shields K σ (σ.building b next).2 := by
  unfold Session.building
  split
  · exact .refl K σ
  · rename_i a s hbuilt
    have hextends := hb.extends_of_ok _ a s hbuilt
    have hle := (hnext a s ∅ hempty (Referring.avoids_empty a)).size_le
    refine ⟨hextends.size_le.trans hle, fun hs hvars hheld => ?_⟩
    obtain ⟨hbefore, hafter⟩ := hheld.before hextends.size_le hle
    obtain ⟨ht, ha⟩ := hb.avoids K _ a s hvars hs hbuilt hbefore
    obtain ⟨hlast, hvars⟩ := (hnext a s K hK ha).spares ht hvars hafter
    exact ⟨(hextends.spares ht hbefore).trans hlast, hvars⟩

/-- The same without a condition on the set. -/
theorem Shields.building {α : Type} [Referring α] {b : Building α}
    {next : α → Session → Answer × Session}
    (hb : Building.Confined (fun K => Avoids K σ.vars) b Avoids)
    (hnext : ∀ a s L, Avoids L a → Shields L (σ.withStore s) (next a (σ.withStore s)).2) :
    Shields K σ (σ.building b next).2 :=
  .building_of (H := fun _ => True) trivial trivial hb fun a s L _ => hnext a s L

/-- A question looks at what has been built, and leaves the store as it is then. -/
theorem Shields.asking {α : Type} [Referring α] {b : Building α}
    {question : α → Store → Except Fault Tree}
    (hb : Building.Confined (fun K => Avoids K σ.vars) b Avoids) :
    Shields K σ (σ.asking b question).2 :=
  .building hb fun _ _ L _ => .refl L _

/-! ### What operations build

An operation builds its literals first, and they are built from the variables. The lemmas are about
the forms that this takes, so that an operation is a form and something that is done with what was
built.
-/

section Parts

variable {P : Set Addr → Prop} {vars : Bindings}

theorem confined_buildOptional (hvars : ∀ K, P K → Avoids K vars) (o : Option Literal) :
    Building.Confined P (o.mapM (·.build vars)) Avoids := by
  cases o with
  | none => exact .pure fun _ _ => avoids_none
  | some l => exact .bind (Literal.confined_build hvars l) fun v => .pure fun K hK =>
      avoids_some.2 hK.2

theorem confined_buildTwo (hvars : ∀ K, P K → Avoids K vars) (l m : Literal) :
    Building.Confined P (do
      let v ← l.build vars
      return (v, ← m.build vars)) Avoids :=
  .bind (Literal.confined_build hvars l) fun _ =>
    .bind (Literal.confined_build (fun K hK => hvars K hK.1) m) fun _ =>
      .pure fun _ hK => ⟨hK.1.2, hK.2⟩

theorem confined_buildSettings (hvars : ∀ K, P K → Avoids K σ.vars) (o : Option Literal) :
    Building.Confined P (σ.buildSettings o) Avoids := by
  cases o with
  | none => exact Building.confined_allocSettings
  | some l => exact Literal.confined_build hvars l

end Parts

/-! ### One operation

By cases on the operation. Each builds something, by one of the forms above, and goes on with a run,
an assignment, a call or a question; what these get at has been dealt with before.
-/

/-- A name that may be missing, and a greeting. -/
theorem confined_greeted (name : Option Literal) (greeting : Literal) :
    Building.Confined (fun K => Avoids K σ.vars) (do
      let name ← name.mapM (·.build σ.vars)
      return (name, ← greeting.build σ.vars)) Avoids :=
  .bind (confined_buildOptional (fun _ hK => hK) name) fun _ =>
    .bind (Literal.confined_build (fun _ hK => hK.1) greeting) fun _ =>
      .pure fun _ hK => ⟨hK.1.2, hK.2⟩

/-- The settings of a run, and the name of its only step. -/
theorem confined_requested (settings : Option Literal) (only : Literal) :
    Building.Confined (fun K => Avoids K σ.vars) (do
      let settings ← σ.buildSettings settings
      return (settings, ← only.build σ.vars)) Avoids :=
  .bind (confined_buildSettings (fun _ hK => hK) settings) fun _ =>
    .bind (Literal.confined_build (fun _ hK => hK.1) only) fun _ =>
      .pure fun _ hK => ⟨hK.1.2, hK.2⟩

/-- A run is given settings and a listener, and both have been built. -/
theorem shields_performRun (request : RunRequest) : Shields K σ (σ.performRun request).2 := by
  have hparts := @confined_requested σ request.settings request.only
  unfold performRun
  dsimp only
  split
  · exact .refl K σ
  · rename_i settings only s hbuilt
    let listener : Listener :=
      { failAt := request.failAt
        mutations := request.mutations
        vars := σ.vars
        progress := if request.announced then some .ok else none }
    have hrun {L : Set Addr} (hsettings : Avoids L settings) (hvars : Avoids L listener.vars) :
        Store.Shields L s (s.run listener σ.steps settings only).store :=
      Store.shields_run hsettings hvars only
    have hle := (hrun (Referring.avoids_empty settings) (Referring.avoids_empty σ.vars)).size_le
    refine ⟨(hparts.extends_of_ok _ _ s hbuilt).size_le.trans hle, fun hs hvars hheld => ?_⟩
    have hst := Store.shields_of_build hparts hvars hbuilt
    obtain ⟨hbefore, hafter⟩ := hheld.before hst.size_le hle
    obtain ⟨ht, hsettings, -⟩ := hparts.avoids K _ _ s hvars hs hbuilt hbefore
    exact ⟨(hst.spares hs hbefore).trans ((hrun hsettings hvars).spares ht hafter), hvars⟩

/-- Setting an attribute of a value gets at the value and at what it is set to, and a failure at
nothing. -/
theorem shields_assign {v w : Value} (field : String) (hv : Avoids K v) (hw : Avoids K w) :
    Shields K σ (match σ.store.assign v field w with
      | .ok s => (Answer.value .null, σ.withStore s)
      | .error f => (σ.answer (.error f), σ)).2 := by
  split
  · rename_i s hassign
    exact .withStore ⟨Store.size_le_of_assign hassign, fun hs hheld =>
      Store.spares_assign hs hv hw hassign hheld⟩
  · exact .refl K σ

/-- The name of a step, and settings. -/
theorem confined_named (name : Literal) (settings : Option Literal) :
    Building.Confined (fun K => Avoids K σ.vars) (do
      let name ← name.build σ.vars
      return (name, ← σ.buildSettings settings)) Avoids :=
  .bind (Literal.confined_build (fun _ hK => hK) name) fun _ =>
    .bind (confined_buildSettings (fun _ hK => hK.1) settings) fun _ =>
      .pure fun _ hK => ⟨hK.1.2, hK.2⟩

/-- The operation that a value has for taking something up, and what it is to take up. -/
theorem confined_append (target v : Literal) :
    Building.Confined (fun K => Avoids K σ.vars) (do
      let target ← target.build σ.vars
      let operation ← Building.read fun s => s.lookup target "append"
      return (operation, ← v.build σ.vars)) Avoids :=
  .bind (Literal.confined_build (fun _ hK => hK) target) fun _ =>
    .bind (Q := Avoids) (.read fun _ _ _ hK hs hw => Store.avoids_of_lookup hs hK.2 hw) fun _ =>
      .bind (Literal.confined_build (fun _ hK => hK.1.1) v) fun _ =>
        .pure fun _ hK => ⟨hK.1.2, hK.2⟩

/-- **One operation** spares what no variable leads to. Revising a step is spoken of below. -/
theorem shields_perform {op : Operation} (h : ¬ op.Revises) : Shields K σ (σ.perform op).2 := by
  have hbuild (l : Literal) := Literal.confined_build (P := fun K => Avoids K σ.vars)
    (fun _ hK => hK) l
  cases op with
  | greet name greeting => exact .asking (confined_greeted name _)
  | sum numbers =>
    exact .building (hbuild numbers) fun v s L hv => .withStore (Store.shields_sum hv)
  | threshold count => exact .asking (hbuild count)
  | iterations count => exact .asking (hbuild _)
  | fullName person =>
    exact .building (hbuild person) fun v s L hv => .withStore (Store.shields_fullName hv _)
  | personLine person =>
    exact .building (hbuild person) fun v s L hv => .withStore (Store.shields_personLine hv _)
  | defaultPerson => exact .asking Building.confined_allocPerson
  | listSteps => exact .refl K σ
  | findStep name => exact .asking (hbuild name)
  | stepLines name settings =>
    exact .building (confined_named name settings) fun parts s L hparts =>
      .withStore (Store.shields_stepLines hparts.2 _ _)
  | allLines settings =>
    exact .building (hbuild _) fun v s L hv => .withStore (Store.shields_allLines hv)
  | value v => exact .asking (hbuild v)
  | display v => exact .asking (hbuild v)
  | equal a b => exact .asking (confined_buildTwo (fun _ hK => hK) a b)
  | identical a b => exact .asking (confined_buildTwo (fun _ hK => hK) a b)
  | run request => exact shields_performRun request
  | bind name v =>
    refine .building (hbuild v) fun v s L hv => ⟨Nat.le_refl _, fun hs hvars _ => ?_⟩
    exact ⟨.refl hs, avoids_put hvars avoids_of_ground hv⟩
  | assign target field v =>
    exact .building (confined_buildTwo (fun _ hK => hK) target v) fun parts s L hparts =>
      shields_assign field hparts.1 hparts.2
  | append target v =>
    refine .building (confined_append target v) fun parts s L hparts => .withStore ?_
    refine ⟨Store.size_le_call _ _ _, fun hs hheld => (Store.spares_call hs hparts.1 ?_ hheld).1⟩
    exact avoids_cons.2 ⟨hparts.2, avoids_nil⟩
  | replaceSteps steps =>
    exact .building (Step.confined_buildAll (fun _ hK => hK) steps) fun es s L _ =>
      ⟨Nat.le_refl _, fun hs hvars _ => ⟨.refl hs, hvars⟩⟩
  | reviseStep name field v => exact absurd trivial h
  | clearListed => exact .refl K σ
  | command arguments => exact .withStore (CommandLine.shields_execute arguments)

/-! ### Revising a step

The name of the step is compared with the names of all steps, and the first that equals it is
written to. Its dictionary is reached from the list of steps, hence the condition on this list.
-/

/-- The name of a step that is to be revised, and the new value of its attribute. -/
theorem confined_revision (name v : Literal) :
    Building.Confined (fun K => Avoids K σ.vars) (do
      let name ← name.build σ.vars
      let _ ← Building.read fun s => s.findStep name σ.steps
      return (name, ← v.build σ.vars)) Avoids :=
  .bind (Literal.confined_build (fun _ hK => hK) name) fun _ =>
    .bind (Q := fun _ _ => True) (.read fun _ _ _ _ _ _ => trivial) fun _ =>
      .bind (Literal.confined_build (fun _ hK => hK.1.1) v) fun _ =>
        .pure fun _ hK => ⟨hK.1.1.2, hK.2⟩

/-- **Revising a step** spares what neither a variable nor a step leads to. -/
theorem shields_reviseStep (hsteps : Avoids K σ.steps) (name : Literal) (field : String)
    (v : Literal) : Shields K σ (σ.perform (.reviseStep name field v)).2 := by
  refine .building_of (H := fun L => Avoids L σ.steps) (Referring.avoids_empty _) hsteps
    (confined_revision name v) fun parts s L hL hparts => ?_
  dsimp only
  split
  · rename_i steps t hrevised
    obtain ⟨before, e, after, e', hsplit, -, -, -, hassign⟩ := Store.reviseStep_eq_ok hrevised
    refine ⟨Store.size_le_of_assignRecord hassign, fun hs hvars hheld => ⟨?_, hvars⟩⟩
    have he : Avoids L e := by
      have hall : Avoids L (before ++ e :: after) := hsplit ▸ hL
      exact (avoids_cons.1 (avoids_append.1 hall).2).1
    exact (Store.spares_assignRecord hs he hparts.2 hassign hheld).1
  · exact .refl L _

/-! ### The catalogue

The list of steps is replaced by two operations. All others pass it on.
-/

/-- What an operation does with the list of steps is what it does when everything has been built. -/
theorem steps_building {α : Type} {b : Building α} {next : α → Session → Answer × Session}
    (h : ∀ a s, (next a (σ.withStore s)).2.steps = σ.steps) :
    (σ.building b next).2.steps = σ.steps := by
  unfold Session.building
  split
  · rfl
  · exact h _ _

/-- **The catalogue** consists of the same records, unless it is replaced or revised. -/
theorem steps_perform {op : Operation} (h : ¬ op.Edits) :
    (σ.perform op).2.steps = σ.steps := by
  cases op with
  | replaceSteps steps => exact absurd trivial h
  | reviseStep name field v => exact absurd trivial h
  | listSteps | clearListed | command arguments => rfl
  | run request =>
    simp only [perform, performRun]
    split <;> rfl
  | assign target field v =>
    refine steps_building fun parts s => ?_
    dsimp only
    split <;> rfl
  | _ => exact steps_building fun _ _ => rfl

/-- The steps of the catalogue do not come to refer to a set that nothing refers to. -/
theorem avoids_steps_perform {op : Operation} (hs : Avoids K σ.store) (hvars : Avoids K σ.vars)
    (hsteps : Avoids K σ.steps) (hheld : Withholds K σ.store (σ.perform op).2.store) :
    Avoids K (σ.perform op).2.steps := by
  by_cases hedits : op.Edits
  · cases op with
    | replaceSteps steps =>
      simp only [perform, Session.building] at hheld ⊢
      split
      · exact hsteps
      · rename_i es s hbuilt
        rw [hbuilt] at hheld
        exact ((Step.confined_buildAll (fun _ hK => hK) steps).avoids K _ es s hvars hs hbuilt
          hheld).2
    | reviseStep name field v =>
      have hparts := confined_revision (σ := σ) name v
      simp only [perform, Session.building] at hheld ⊢
      split
      · exact hsteps
      · rename_i parts s hbuilt
        rw [hbuilt] at hheld
        dsimp only at hheld ⊢
        split
        · rename_i steps t hrevised
          rw [hrevised] at hheld
          obtain ⟨before, e, after, e', hsplit, rfl, -, -, hassign⟩ :=
            Store.reviseStep_eq_ok hrevised
          obtain ⟨hbefore, hafter⟩ := hheld.before (hparts.extends_of_ok _ _ s hbuilt).size_le
            (Store.size_le_of_assignRecord hassign)
          obtain ⟨ht, hnew⟩ := hparts.avoids K _ parts s hvars hs hbuilt hbefore
          have hall : Avoids K (before ++ e :: after) := hsplit ▸ hsteps
          rw [avoids_append, avoids_cons] at hall ⊢
          have he' := (Store.spares_assignRecord ht hall.2.1 hnew.2 hassign hafter).2
          exact ⟨hall.1, he', hall.2.2⟩
        · exact hsteps
    | _ => exact hedits.elim
  · rw [steps_perform hedits]
    exact hsteps

/-! ### Operations one after the other

Both statements about one operation are carried over to a list of operations, by induction on it.
Each time the next operation begins with a session that avoids the set again.
-/

theorem performAll_cons (op : Operation) (rest : List Operation) :
    (σ.performAll (op :: rest)).2 = ((σ.perform op).2.performAll rest).2 := rfl

/-- **Operations that revise no step** spare what no variable leads to. -/
theorem shields_performAll {ops : List Operation} (h : ∀ op ∈ ops, ¬ op.Revises) :
    Shields K σ (σ.performAll ops).2 := by
  induction ops generalizing σ with
  | nil => exact .refl K σ
  | cons op rest ih =>
    rw [List.forall_mem_cons] at h
    rw [performAll_cons]
    exact (shields_perform h.1).trans (ih h.2)

/-- Nothing in a session refers to an address of `K`. -/
instance : Referring Session where
  Avoids K σ := Avoids K σ.store ∧ Avoids K σ.vars ∧ Avoids K σ.steps
  avoids_empty σ := ⟨Referring.avoids_empty σ.store, Referring.avoids_empty σ.vars,
    Referring.avoids_empty σ.steps⟩

/-- An operation takes no object away. -/
theorem size_le_perform (σ : Session) (op : Operation) :
    σ.store.size ≤ (σ.perform op).2.store.size := by
  by_cases hrevises : op.Revises
  · cases op with
    | reviseStep name field v =>
      exact (shields_reviseStep (Referring.avoids_empty σ.steps) name field v).size_le
    | _ => exact hrevises.elim
  · exact (shields_perform (K := ∅) hrevises).size_le

/-- One operation of any kind, if nothing in the session refers to the set. -/
theorem spares_perform {op : Operation} (hσ : Avoids K σ)
    (hheld : Withholds K σ.store (σ.perform op).2.store) :
    Spares K σ.store (σ.perform op).2.store ∧ Avoids K (σ.perform op).2 := by
  obtain ⟨hs, hvars, hsteps⟩ := hσ
  have hshields : Shields K σ (σ.perform op).2 := by
    by_cases hrevises : op.Revises
    · cases op with
      | reviseStep name field v => exact shields_reviseStep hsteps name field v
      | _ => exact hrevises.elim
    · exact shields_perform hrevises
  obtain ⟨hspares, hvars'⟩ := hshields.spares hs hvars hheld
  exact ⟨hspares, hspares.avoids, hvars', avoids_steps_perform hs hvars hsteps hheld⟩

theorem size_le_performAll (σ : Session) (ops : List Operation) :
    σ.store.size ≤ (σ.performAll ops).2.store.size := by
  induction ops generalizing σ with
  | nil => exact Nat.le_refl _
  | cons op rest ih => exact (size_le_perform σ op).trans (ih _)

/-- **Operations of all kinds** spare what nothing in the session refers to. -/
theorem spares_performAll {ops : List Operation} (hσ : Avoids K σ)
    (hheld : Withholds K σ.store (σ.performAll ops).2.store) :
    Spares K σ.store (σ.performAll ops).2.store ∧ Avoids K (σ.performAll ops).2 := by
  induction ops generalizing σ with
  | nil => exact ⟨.refl hσ.1, hσ⟩
  | cons op rest ih =>
    rw [performAll_cons] at hheld ⊢
    obtain ⟨hbefore, hafter⟩ := hheld.before (size_le_perform σ op) (size_le_performAll _ rest)
    obtain ⟨hst, hτ⟩ := spares_perform hσ hbefore
    obtain ⟨htu, hυ⟩ := ih hτ hafter
    exact ⟨hst.trans htu, hυ⟩

/-- What nothing in the session refers to stays as it is. -/
theorem get?_performAll {ops : List Operation} (hσ : Avoids K σ) (hlt : ∀ a ∈ K, a < σ.store.size)
    {a : Addr} (ha : a ∈ K) : (σ.performAll ops).2.store.get? a = σ.store.get? a :=
  (spares_performAll hσ (Store.withholds_of_lt hlt)).1.get?_eq a ha

/-- What no variable leads to stays as it is, if no step is revised. -/
theorem get?_performAll_of_vars {ops : List Operation} (h : ∀ op ∈ ops, ¬ op.Revises)
    (hs : Avoids K σ.store) (hvars : Avoids K σ.vars) (hlt : ∀ a ∈ K, a < σ.store.size) {a : Addr}
    (ha : a ∈ K) : (σ.performAll ops).2.store.get? a = σ.store.get? a :=
  ((shields_performAll h).spares hs hvars (Store.withholds_of_lt hlt)).1.get?_eq a ha

/-! ### References that lead somewhere

A free address is one that no object has yet. References to it would lead nowhere, and later on they
would lead to something that they were not meant for.
-/

/-- Nothing in a session refers to an address that is free still. As a statement about all sets of
free addresses it is in the form in which confinement speaks of sets, and no list of the references
in a session is needed. -/
def Closed (σ : Session) : Prop := ∀ K : Set Addr, (∀ a ∈ K, σ.store.size ≤ a) → Avoids K σ

/-- **References keep leading somewhere**: what is free after the operations was free before, and
spared. -/
theorem Closed.performAll (hσ : σ.Closed) (ops : List Operation) :
    (σ.performAll ops).2.Closed := by
  intro K hfree
  have hle := size_le_performAll σ ops
  have hK := hσ K fun a ha => hle.trans (hfree a ha)
  exact (spares_performAll hK (Store.withholds_of_le hfree)).2

theorem Closed.attributes_lt (hσ : σ.Closed) {e : Record} (he : e ∈ σ.steps) :
    e.attributes < σ.store.size := by
  have hsteps := (hσ {a | σ.store.size ≤ a} fun a ha => ha).2.2
  exact Nat.not_le.1 (hsteps e he)

end Session

/-! ### The beginning

There are the steps, with their dictionaries, and no variables.
-/

/-- The objects that there are in the beginning, one dictionary for each step. -/
theorem Store.cells_initial :
    Store.initial.2.cells =
      (catalogue.map fun attributes => Cell.dict (.ofNames attributes)).toArray :=
  rfl

/-- **At the beginning**, the steps refer to texts and numbers only. -/
theorem Session.closed_initial : Session.Closed {} := by
  have hcatalogue (K : Set Addr) : Avoids K catalogue := by simp [catalogue, Step.make]
  have hlt : ∀ e ∈ Store.initial.1, e.attributes < Store.initial.2.size := by decide
  intro K hfree
  refine ⟨fun a c _ hc => ?_, avoids_nil, fun e he hK => ?_⟩
  · have hmem : c ∈ Store.initial.2.cells := Array.mem_of_getElem? hc
    rw [Store.cells_initial, List.mem_toArray] at hmem
    obtain ⟨attributes, hattributes, rfl⟩ := List.mem_map.1 hmem
    exact Store.avoids_ofNames (hcatalogue K attributes hattributes)
  · exact absurd (hfree _ hK) (Nat.not_le.2 (hlt e he))

end Walkthrough
