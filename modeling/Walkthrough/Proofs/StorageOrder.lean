import Walkthrough.Proofs.Announcement
import Walkthrough.Proofs.ListingOrder
import Walkthrough.Proofs.UnknownName

/-!
# The order in which steps are stored

Steps whose orders are different integers are listed alike however they are stored. A run goes
through the steps that are listed, but looks each of them up again by its name, from the first that
is stored to the last. If several steps have the name, then it is storage that decides which of them
is found. The run asks only whether there is one, and takes what it does from the name; so storage
makes no difference, neither for several steps of one name nor for names that nothing is
demonstrated under.

A look-up ends at the first step of the name, and so does not come to the steps behind it. If one of
these has lost its name, or has a name that cannot be compared, then a look-up that comes to it fails.
Whether it does come to it is a question of storage.

A run with one step that is asked for is not spoken of: if two steps have the name, then it is a
matter of storage which of them is selected, and both give the same lines.

## Main definitions

* `Store.OrderedApart` — the orders are integers, and no two are the same
* `Store.FailsAlike` — looking a step up fails in both catalogues alike, or in neither
* `Value.Partless` — a value that holds no others

## Main results

* `Store.listSteps_of_perm` — what is listed
* `Store.stepLines_of_perm` — the lines of one step
* `Store.runSteps_of_perm` — going through steps
* `run_stored_otherwise` — runs, and when their look-ups do not fail
* `not_run_stored_otherwise` — a name that is lost while the run lasts
-/

namespace Walkthrough

open Referring (Avoids)

/-- A value that holds no others, in whatever store. -/
def Value.Partless (v : Value) : Prop := ∀ s : Store, s.cell? v = none

namespace Store

variable {s : Store} {steps others : List Record}

/-! ### Listing

Different integers leave no choice of how to list the steps: two lists with the same elements that
ascend are equal.
-/

/-- The orders of steps are integers, and no two of them are the same. -/
structure OrderedApart (s : Store) (order : Record → Int) (steps : List Record) : Prop where
  order_eq : ∀ e ∈ steps, ∃ v, s.field e "order" = .ok v ∧ v.integer? = some (order e)
  nodup : (steps.map order).Nodup

theorem OrderedApart.of_perm {order : Record → Int} (h : s.OrderedApart order steps)
    (hperm : others.Perm steps) : s.OrderedApart order others where
  order_eq e he := h.order_eq e (hperm.mem_iff.1 he)
  nodup := (hperm.map order).nodup_iff.2 h.nodup

/-- Steps are listed in ascending order. -/
theorem OrderedApart.exists_listSteps {order : Record → Int} (h : s.OrderedApart order steps) :
    ∃ listed, s.listSteps steps = .ok listed ∧ listed.Perm steps ∧
      listed.Pairwise fun d e => order d ≤ order e := by
  let value (e : Record) : Value := (s.field e "order").toOption.getD .null
  have hvalue : ∀ e ∈ steps, s.field e "order" = .ok (value e) ∧
      (value e).integer? = some (order e) := by
    intro e he
    obtain ⟨v, hv, hinteger⟩ := h.order_eq e he
    simp only [value, hv]
    exact ⟨rfl, hinteger⟩
  obtain ⟨listed, hlisted, hsorted⟩ := listSteps_of_integers (fun e he => (hvalue e he).1)
    fun e he => by rw [(hvalue e he).2, Option.isSome_some]
  refine ⟨listed, hlisted, hsorted.perm, hsorted.ascending.imp_of_mem fun {d e} hd he hless => ?_⟩
  have hd' := (hvalue d (hsorted.perm.mem_iff.1 hd)).2
  have he' := (hvalue e (hsorted.perm.mem_iff.1 he)).2
  rw [less_of_number s (Value.number?_of_integer? he') (Value.number?_of_integer? hd'),
    Number.less_int, Except.ok.injEq, decide_eq_false_iff_not] at hless
  omega

/-- **Listing** does not depend on storage. -/
theorem listSteps_of_perm {order : Record → Int} (h : s.OrderedApart order steps)
    (hperm : others.Perm steps) :
    ∃ listed, s.listSteps steps = .ok listed ∧ s.listSteps others = .ok listed := by
  obtain ⟨listed, hlisted, hlistedPerm, hascending⟩ := h.exists_listSteps
  obtain ⟨again, hagain, hagainPerm, hascending'⟩ := (h.of_perm hperm).exists_listSteps
  have hsame : again = listed := by
    refine ((hagainPerm.trans hperm).trans hlistedPerm.symm).eq_of_pairwise
      (fun d e hd he hde hed => ?_) hascending' hascending
    have hd' : d ∈ steps := hperm.mem_iff.1 (hagainPerm.mem_iff.1 hd)
    have he' : e ∈ steps := hlistedPerm.mem_iff.1 he
    exact List.inj_on_of_nodup_map h.nodup hd' he' (Int.le_antisymm hde hed)
  exact ⟨listed, hlisted, hsame ▸ hagain⟩

/-! ### Looking up

A look-up is only asked whether there is a step of the name. Both catalogues have one, or none.
-/

/-- Looking a step up by its name fails in both catalogues with the same fault, or in neither. A
look-up that does not fail may find different steps in the two catalogues, and this is not excluded.
-/
def FailsAlike (s : Store) (steps others : List Record) (e : Record) : Prop :=
  ∀ name, s.field e "name" = .ok name →
    ∀ f, s.findStep name others = .error f ↔ s.findStep name steps = .error f

/-- That no step has a name is a statement about all of them, in no sequence. -/
theorem findStep_eq_none_of_perm {name : Value} (hperm : others.Perm steps) :
    s.findStep name others = .ok none ↔ s.findStep name steps = .ok none := by
  rw [findStep_eq_none_iff, findStep_eq_none_iff]
  constructor
  · intro hmisses e he
    exact hmisses e (hperm.mem_iff.2 he)
  · intro hmisses e he
    exact hmisses e (hperm.mem_iff.1 he)

variable {settings : Value}

/-- **The lines of a step** do not depend on which step of the name is found. -/
theorem stepLines_of_perm {name : Value} (hperm : others.Perm steps)
    (h : ∀ f, s.findStep name others = .error f ↔ s.findStep name steps = .error f) :
    s.stepLines others name settings = s.stepLines steps name settings := by
  rw [stepLines, stepLines]
  rcases hfound : s.findStep name steps with f | _ | e
  · rw [(h f).2 hfound]
  · rw [(findStep_eq_none_of_perm hperm).2 hfound]
  · rcases hother : s.findStep name others with f | _ | d
    · rw [(h f).1 hother] at hfound
      cases hfound
    · rw [(findStep_eq_none_of_perm hperm).1 hother] at hfound
      cases hfound
    · rfl

/-- A step is looked up by the name that it has. -/
theorem linesOfStep_of_perm {e : Record} (hperm : others.Perm steps)
    (h : s.FailsAlike steps others e) :
    s.linesOfStep others settings e = s.linesOfStep steps settings e := by
  rw [linesOfStep, linesOfStep]
  rcases hname : s.field e "name" with f | name
  · rfl
  · exact stepLines_of_perm hperm (h name hname)

variable {listener : Listener}

/-- **Going through steps** does not depend on storage, as long as each step that is started is
looked up alike. -/
theorem runSteps_of_perm (hperm : others.Perm steps) (s : Store) (k : Nat) (selected : List Record)
    (h : ∀ x ∈ stretches listener steps settings s k selected,
      x.store.FailsAlike steps others x.step) :
    runSteps listener others settings s k selected =
      runSteps listener steps settings s k selected := by
  induction selected generalizing s k with
  | nil => rfl
  | cons e rest ih =>
    simp only [stretches, runSteps] at h ⊢
    rcases hannounced : listener.announce s e with f | announced
    · rfl
    simp only [hannounced] at h ⊢
    have hfirst : s.FailsAlike steps others e := by
      rcases hlines : s.linesOfStep steps settings e with ⟨f | lines, t⟩
      · simpa only [hlines, List.forall_mem_singleton] using h
      · simp only [hlines, List.forall_mem_cons] at h
        exact h.1
    rw [linesOfStep_of_perm hperm hfirst]
    rcases hlines : s.linesOfStep steps settings e with ⟨f | lines, t⟩
    · rfl
    simp only [hlines, List.forall_mem_cons] at h ⊢
    rcases hemitted : (emitLines listener settings t k lines).outcome with f | done
    · rfl
    · rw [hemitted] at h
      rw [ih _ _ h.2]

variable {only : Value}

/-- **A run of all steps** goes through what is listed. -/
theorem run_of_perm {order : Record → Int} (horder : s.OrderedApart order steps)
    (hperm : others.Perm steps) (honly : s.truthy only = false)
    (h : ∀ x ∈ s.started listener steps settings only, x.store.FailsAlike steps others x.step) :
    s.run listener others settings only = s.run listener steps settings only := by
  obtain ⟨listed, hlisted, hothers⟩ := listSteps_of_perm horder hperm
  have hselected (stored : List Record) : s.selectSteps stored only = s.listSteps stored := by
    rw [selectSteps, honly, if_neg Bool.false_ne_true]
  simp only [started, run, hselected, hlisted, hothers] at h ⊢
  exact runSteps_of_perm hperm s 0 listed h

/-! ### Look-ups that do not fail

A value that holds no others is compared without going down, and this does not fail.
-/

/-- What holds no others can be compared with anything. -/
theorem exists_equal_of_partless {v : Value} (hv : v.Partless) (w : Value) :
    ∃ same, s.equal v w = .ok same := by
  unfold equal callLevels equalWithin
  dsimp only
  split
  · exact ⟨_, rfl⟩
  split
  · exact ⟨_, rfl⟩
  · rw [hv s]
    exact ⟨_, rfl⟩

/-- Looking up does not fail if all names can be compared. -/
theorem exists_findStep_of_partless (name : Value)
    (h : ∀ e ∈ steps, ∃ v, s.field e "name" = .ok v ∧ v.Partless) :
    ∃ found, s.findStep name steps = .ok found := by
  induction steps with
  | nil => exact ⟨none, rfl⟩
  | cons e rest ih =>
    obtain ⟨⟨v, hv, hpartless⟩, hrest⟩ := List.forall_mem_cons.1 h
    obtain ⟨same, hsame⟩ := exists_equal_of_partless (s := s) hpartless name
    simp only [findStep, hv, bind, Except.bind, hsame]
    cases same with
    | true => exact ⟨some e, rfl⟩
    | false => exact ih hrest

/-- If all names can be compared then no look-up fails in either catalogue. -/
theorem failsAlike_of_partless (hperm : others.Perm steps)
    (h : ∀ e ∈ steps, ∃ v, s.field e "name" = .ok v ∧ v.Partless) (e : Record) :
    s.FailsAlike steps others e := by
  intro name _ f
  obtain ⟨found, hfound⟩ := exists_findStep_of_partless name h
  obtain ⟨found', hfound'⟩ := exists_findStep_of_partless name fun e he => h e (hperm.mem_iff.1 he)
  rw [hfound, hfound']
  exact ⟨nofun, nofun⟩

/-- A step that has an order keeps it in a dictionary. -/
theorem OrderedApart.lt {order : Record → Int} (h : s.OrderedApart order steps) (e : Record)
    (he : e ∈ steps) : e.attributes < s.size := by
  obtain ⟨v, hv, -⟩ := h.order_eq e he
  by_contra hle
  rw [field, field?, attribute?, attributesAt, get?_eq_none_iff.2 (Nat.not_lt.1 hle)] at hv
  cases hkind : e.kind <;> rw [hkind] at hv <;> cases hv

theorem OrderedApart.lt_of_mem {order : Record → Int} (h : s.OrderedApart order steps) :
    ∀ a ∈ dictionariesOf steps, a < s.size := by
  rintro a ⟨e, he, rfl⟩
  exact h.lt e he

/-- Names that nothing else refers to stay what they are while the run lasts, and can be compared
whenever a step is started. -/
theorem failsAlike_of_avoids {order : Record → Int} (horder : s.OrderedApart order steps)
    (hperm : others.Perm steps)
    (hnames : ∀ e ∈ steps, ∃ v, s.field e "name" = .ok v ∧ v.Partless)
    (hs : Avoids (dictionariesOf steps) s) (hsettings : Avoids (dictionariesOf steps) settings)
    (hvars : Avoids (dictionariesOf steps) listener.vars) :
    ∀ x ∈ s.started listener steps settings only, x.store.FailsAlike steps others x.step := by
  intro x hx
  refine failsAlike_of_partless hperm (fun e he => ?_) x.step
  obtain ⟨v, hv, hpartless⟩ := hnames e he
  have hcell : x.store.get? e.attributes = s.get? e.attributes := by
    rw [started] at hx
    split at hx
    · cases hx
    · exact get?_of_mem_stretches hs hsettings hvars horder.lt_of_mem hx ⟨e, he, rfl⟩
  refine ⟨v, ?_, hpartless⟩
  rw [field, field?, attribute?, attributesAt] at hv ⊢
  rwa [hcell]

/-! ### The lines of all steps -/

/-- Settings that are made refer to nothing that there was. -/
theorem avoids_orDefault {K : Set Addr} (hs : Avoids K s) (hsettings : Avoids K settings)
    (hlt : ∀ a ∈ K, a < s.size) :
    Avoids K (s.orDefault settings).2 ∧ Avoids K (s.orDefault settings).1 := by
  rw [orDefault]
  split
  · exact ⟨hs, hsettings⟩
  · exact (Building.confined_allocSettings (P := fun _ => True)).avoids K s _ _ trivial hs rfl
      (withholds_of_lt hlt)

/-- A step that has an order keeps what it has. -/
theorem OrderedApart.field_eq {order : Record → Int} (h : s.OrderedApart order steps) {t : Store}
    (hst : s.Extends t) {e : Record} (he : e ∈ steps) (name : String) :
    t.field e name = s.field e name := by
  rw [field, field, field?, field?, attribute?, attribute?, hst.attributesAt_eq (h.lt e he)]

theorem OrderedApart.of_extends {order : Record → Int} (h : s.OrderedApart order steps) {t : Store}
    (hst : s.Extends t) : t.OrderedApart order steps where
  order_eq e he := by
    rw [h.field_eq hst he]
    exact h.order_eq e he
  nodup := h.nodup

/-- **The lines of all steps** are those of a run. -/
theorem allLines_of_perm {order : Record → Int} (horder : s.OrderedApart order steps)
    (hperm : others.Perm steps)
    (h : ∀ x ∈ (s.orDefault settings).2.started (.plain []) steps (s.orDefault settings).1 .null,
      x.store.FailsAlike steps others x.step) :
    s.allLines others settings = s.allLines steps settings := by
  have horder' := horder.of_extends (extends_orDefault s settings)
  rw [allLines_eq_run, allLines_eq_run, run_of_perm horder' hperm rfl h]

end Store

/-- **A catalogue that is stored otherwise.** Let the orders of the steps be integers, no two of them
the same.

* The same steps are listed, in the same sequence.
* A run of all steps does the same, ends alike and leaves the same store, unless looking up a step
  that it starts fails in one catalogue and not, or otherwise, in the other one.
* The lines of all steps are the same under the same condition.
* No look-up fails if the names hold no other values, and nothing else refers to the dictionaries of
  the steps. -/
theorem run_stored_otherwise (listener : Listener) (steps others : List Record)
    (settings only : Value) (s : Store) (order : Record → Int)
    (horder : s.OrderedApart order steps) (hperm : others.Perm steps)
    (honly : s.truthy only = false) :
    let used := s.orDefault settings
    let own := dictionariesOf steps
    (∃ listed, s.listSteps steps = .ok listed ∧ s.listSteps others = .ok listed) ∧
      ((∀ x ∈ s.started listener steps settings only, x.store.FailsAlike steps others x.step) →
        s.run listener others settings only = s.run listener steps settings only) ∧
      ((∀ x ∈ used.2.started (.plain []) steps used.1 .null,
          x.store.FailsAlike steps others x.step) →
        s.allLines others settings = s.allLines steps settings) ∧
      ((∀ e ∈ steps, ∃ v, s.field e "name" = .ok v ∧ v.Partless) →
        Avoids own s → Avoids own settings →
        s.allLines others settings = s.allLines steps settings ∧
          (Avoids own listener.vars →
            s.run listener others settings only = s.run listener steps settings only)) := by
  intro used own
  refine ⟨Store.listSteps_of_perm horder hperm, Store.run_of_perm horder hperm honly,
    Store.allLines_of_perm horder hperm, fun hnames hs hsettings => ⟨?_, fun hvars => ?_⟩⟩
  · have hextends := s.extends_orDefault settings
    obtain ⟨hs', hsettings'⟩ := Store.avoids_orDefault hs hsettings horder.lt_of_mem
    refine Store.allLines_of_perm horder hperm (Store.failsAlike_of_avoids
      (horder.of_extends hextends) hperm (fun e he => ?_) hs' hsettings' avoids_nil)
    rw [horder.field_eq hextends he]
    exact hnames e he
  · exact Store.run_of_perm horder hperm honly
      (Store.failsAlike_of_avoids horder hperm hnames hs hsettings hvars)

/-- Two steps of one name, of which each is the first in one catalogue, and a step under which nothing
is demonstrated. The numbers are changed after the first line, and the last step is never reached. -/
theorem run_stored_otherwise_of_reverse :
    let σ := (Session.performAll {} [
      .replaceSteps [[("name", .text "sum"), ("description", .text ""), ("order", .int (-1))],
        [("name", .text "sum"), ("description", .text ""), ("order", .int 7)],
        [("name", .text "quiz"), ("description", .text ""), ("order", .int 8)],
        [("name", .text "loop"), ("description", .text ""), ("order", .int 9)]],
      .bind "c" (.settings [])]).2
    let listener : Listener :=
      { mutations := [⟨0, "numbers", .list [.int 40, .bool true]⟩], vars := σ.vars
        progress := some .ok }
    let settings := (σ.vars.get? "c").getD .null
    let trace := σ.store.run listener σ.steps.reverse settings .null
    trace = σ.store.run listener σ.steps settings .null ∧
      trace.events = [.progress "  [dim]-1. sum: [/dim]", .emit "Sum: 15",
        .progress "  [dim]7. sum: [/dim]", .emit "Sum: 41", .progress "  [dim]8. quiz: [/dim]"] ∧
      trace.outcome = .error (.unknownName (.text "quiz")) := by
  intro σ listener settings trace
  have hσ : σ.Private := Session.private_initial.performAll (by simp [Operation.Redirects])
  let order (e : Record) : Int :=
    if e.attributes = 5 then -1 else if e.attributes = 6 then 7 else if e.attributes = 7 then 8 else 9
  have hsteps : σ.steps = [⟨.step, 5⟩, ⟨.step, 6⟩, ⟨.step, 7⟩, ⟨.step, 8⟩] := by decide +kernel
  have horder : σ.store.OrderedApart order σ.steps := by
    rw [hsteps]
    refine ⟨fun e he => ?_, by decide⟩
    simp only [List.mem_cons, List.not_mem_nil, or_false] at he
    obtain rfl | rfl | rfl | rfl := he <;> exact ⟨_, rfl, rfl⟩
  have hnames : ∀ e ∈ σ.steps, ∃ v, σ.store.field e "name" = .ok v ∧ v.Partless := by
    intro e he
    simp only [hsteps, List.mem_cons, List.not_mem_nil, or_false] at he
    obtain rfl | rfl | rfl | rfl := he <;> exact ⟨_, rfl, fun _ => rfl⟩
  have hsettings : Avoids (dictionariesOf σ.steps) settings := by
    rintro ⟨e, he, hattributes⟩
    revert e
    decide +kernel
  obtain ⟨-, -, -, hprivate⟩ := run_stored_otherwise listener σ.steps σ.steps.reverse settings .null
    σ.store order horder (List.reverse_perm _) rfl
  have hsame := (hprivate hnames hσ.store hsettings).2 hσ.vars
  have hlisted : σ.store.listSteps σ.steps = .ok σ.steps :=
    @Store.listSteps_of_pairwise σ.store
      [(-1, ⟨.step, 5⟩), (7, ⟨.step, 6⟩), (8, ⟨.step, 7⟩), (9, ⟨.step, 8⟩)] σ.steps rfl (by simp)
  refine ⟨hsame, ?_⟩
  simp only [trace, hsame, Store.run, Store.selectSteps, Store.truthy, hlisted]
  decide +kernel

/-- **A name that is lost.** A step has been given a dictionary in which its name comes last, and a person
has been given an operation of that dictionary in place of the one that tells the full name. The
operation takes the name out of the dictionary. The look-up of the step of sums ends before it comes
to the step without a name if that is stored last, and fails if it is stored first. -/
theorem not_run_stored_otherwise :
    let σ := (Session.performAll {} [
      .replaceSteps [[("name", .text "person"), ("description", .text "p"), ("order", .int 1)],
        [("name", .text "sum"), ("description", .text "s"), ("order", .int 2)],
        [("name", .text "loop"), ("description", .text "l"), ("order", .int 3)]],
      .bind "d" (.dict [(.text "order", .int 3), (.text "description", .text "l"),
        (.text "name", .text "loop")]),
      .reviseStep (.text "loop") "__dict__" (.named "d"), .bind "c" (.settings []),
      .assign (.named "c.person") "get_full_name" (.named "d.popitem")]).2
    let settings := (σ.vars.get? "c").getD .null
    let order (e : Record) : Int := if e.attributes = 5 then 1 else if e.attributes = 6 then 2 else 3
    let others : List Record := [⟨.step, 8⟩, ⟨.step, 5⟩, ⟨.step, 6⟩]
    let trace := σ.store.run {} σ.steps settings .null
    let other := σ.store.run {} others settings .null
    σ.store.OrderedApart order σ.steps ∧ others.Perm σ.steps ∧
      (∀ e ∈ σ.steps, ∃ t, σ.store.field e "name" = .ok (.text t)) ∧
      trace.events = [.emit "('name', 'loop') is 30 years old.", .emit "Sum: 15"] ∧
      other.events = [.emit "('name', 'loop') is 30 years old."] := by
  intro σ settings order others trace other
  have hsteps : σ.steps = [⟨.step, 5⟩, ⟨.step, 6⟩, ⟨.step, 8⟩] := by decide +kernel
  have hnames : ∀ e ∈ σ.steps, ∃ t, σ.store.field e "name" = .ok (.text t) := by
    rw [hsteps]
    intro e he
    simp only [List.mem_cons, List.not_mem_nil, or_false] at he
    obtain rfl | rfl | rfl := he <;> exact ⟨_, rfl⟩
  have horder : σ.store.OrderedApart order σ.steps := by
    rw [hsteps]
    refine ⟨fun e he => ?_, by decide⟩
    simp only [List.mem_cons, List.not_mem_nil, or_false] at he
    obtain rfl | rfl | rfl := he <;> exact ⟨_, rfl, rfl⟩
  have hperm : others.Perm σ.steps := by
    rw [hsteps]
    decide
  have hascending : σ.store.listSteps σ.steps = .ok σ.steps :=
    @Store.listSteps_of_pairwise σ.store [(1, ⟨.step, 5⟩), (2, ⟨.step, 6⟩), (3, ⟨.step, 8⟩)] σ.steps
      rfl (by simp)
  obtain ⟨listed, hlisted, hothers⟩ := Store.listSteps_of_perm horder hperm
  cases hascending.symm.trans hlisted
  refine ⟨horder, hperm, hnames, ?_⟩
  simp only [trace, other, Store.run, Store.selectSteps, Store.truthy, hlisted, hothers]
  decide +kernel

end Walkthrough
