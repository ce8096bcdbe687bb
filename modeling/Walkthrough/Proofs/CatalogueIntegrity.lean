import Walkthrough.Proofs.Catalogue
import Walkthrough.Proofs.Locality
import Walkthrough.Proofs.SessionConfinement

/-!
# The catalogue over whole sessions

Nothing in a session hands out the dictionaries in which the steps keep their attributes: steps are
mentioned by name only, and what is told about them is a tree. So as long as no step has been given
a dictionary that something else refers to, the steps are private. Then no operation but those that
are meant to edit the catalogue changes anything in it, and revising a step changes one attribute of
that step.

A step is given another dictionary by setting its attribute `__dict__`, and that is the only way.

## The invariant

`Session.Private` says that the steps have dictionaries of their own, and that neither a variable
nor an object leads to one. It is kept by every operation but setting `__dict__`. The part that
carries the induction is that no object and no variable refers to these dictionaries, which is what
confinement of sessions is about. The dictionaries are those of the moment: a new catalogue has new
ones, and those of the old one are of no interest any more.

That the session is closed belongs to the invariant as well. Otherwise something might refer to an
address that is given to a dictionary of a step later on.

## What an operation does to the catalogue

The statement goes by cases: the operation does not edit the catalogue, or it fails, or it replaces
the catalogue, or it revises a step. For the last one, the name is looked up before the new value is
built, and what is built may make objects; so the step that was found has to be found in the store
after building, too. This is a question asked of two stores that are alike.

## Main definitions

* `Operation.Redirects` — a step is given another dictionary
* `dictionariesOf` — where steps keep their attributes
* `Session.contents` — what the catalogue holds
* `Session.Private` — nothing else refers to what the catalogue holds
* `Session.SetsField` — one attribute of one step has been set

## Main results

* `Session.Private.performAll` — steps stay private
* `Session.catalogue_kept` — what operations do to the catalogue
* `Session.catalogue_not_kept` — a dictionary that a step shares is changed elsewhere
-/

namespace Walkthrough

open Referring (Avoids)
open Store (Extends Withholds)

/-- Whether an operation gives a step another dictionary for its attributes. -/
def Operation.Redirects : Operation → Prop
  | .reviseStep _ field _ => field = "__dict__"
  | _ => False

/-- Where steps keep their attributes. -/
def dictionariesOf (steps : List Record) : Set Addr := {a | ∃ e ∈ steps, e.attributes = a}

/-! ### Building new steps

Each step gets a dictionary at an address that was free, and the next step gets a later one. They
are referred to by nothing but the steps, since what is built refers only to what was there.
-/

namespace Step

variable {vars : Bindings}

/-- A step is built with a new dictionary. -/
theorem build_eq_ok {fields : List (String × Literal)} {e : Record} {s t : Store}
    (h : Step.build vars fields s = .ok (e, t)) :
    ∃ attributes u, s.Extends u ∧ e = ⟨.step, u.size⟩ ∧
      t = (u.alloc (.dict (.ofNames attributes))).2 ∧
      ∀ K, Avoids K vars → Avoids K s → Withholds K s u → Avoids K u := by
  obtain ⟨given, x, hgiven, h⟩ := Building.bind_eq_ok h
  obtain ⟨attributes, u, hattributes, h⟩ := Building.bind_eq_ok h
  cases h
  have hparts : Building.Confined (fun K => Avoids K vars)
      (Literal.buildFields vars fields >>= Building.attributes .step) Avoids :=
    .bind (Literal.confined_buildFields (fun _ hK => hK) fields) fun given =>
      Building.confined_attributes (fun _ hK => hK.2) .step
  have hbuilt : (Literal.buildFields vars fields >>= Building.attributes .step) s =
      .ok (attributes, u) := by
    show (Literal.buildFields vars fields s).bind _ = _
    rw [hgiven]
    exact hattributes
  exact ⟨attributes, u, hparts.extends_of_ok s attributes u hbuilt, rfl, rfl,
    fun K hvars hs hheld => (hparts.avoids K s attributes u hvars hs hbuilt hheld).1⟩

/-- **New steps** have new dictionaries, one each. -/
theorem attributes_of_buildAll {steps : List (List (String × Literal))} {es : List Record}
    {s t : Store} (h : Step.buildAll vars steps s = .ok (es, t)) :
    s.size ≤ t.size ∧ (∀ e ∈ es, s.size ≤ e.attributes ∧ e.attributes < t.size) ∧
      (es.map (·.attributes)).Nodup := by
  induction steps generalizing es s with
  | nil =>
    cases h
    exact ⟨Nat.le_refl _, by simp, by simp⟩
  | cons fields rest ih =>
    obtain ⟨e, u, he, h⟩ := Building.bind_eq_ok h
    obtain ⟨later, w, hlater, h⟩ := Building.bind_eq_ok h
    cases h
    obtain ⟨attributes, x, hsx, rfl, rfl, -⟩ := build_eq_ok he
    obtain ⟨hle, hbetween, hnodup⟩ := ih hlater
    have hsize := hsx.size_le
    rw [Store.size_alloc] at hle hbetween
    refine ⟨by omega, List.forall_mem_cons.2 ⟨⟨hsize, hle⟩, fun d hd => ?_⟩, ?_⟩
    · exact ⟨by have := (hbetween d hd).1; omega, (hbetween d hd).2⟩
    · rw [List.map_cons, List.nodup_cons]
      refine ⟨fun hmem => ?_, hnodup⟩
      obtain ⟨d, hd, heq⟩ := List.mem_map.1 hmem
      exact Nat.not_succ_le_self x.size ((hbetween d hd).1.trans heq.le)

/-- The dictionaries of new steps are referred to by these only. -/
theorem avoids_of_buildAll {steps : List (List (String × Literal))} {es : List Record}
    {s t : Store} {K : Set Addr} (h : Step.buildAll vars steps s = .ok (es, t))
    (hvars : Avoids K vars) (hs : Avoids K s)
    (hK : ∀ a, s.size ≤ a → a < t.size → (a ∈ K ↔ ∃ e ∈ es, e.attributes = a)) : Avoids K t := by
  induction steps generalizing es s with
  | nil =>
    cases h
    exact hs
  | cons fields rest ih =>
    obtain ⟨e, u, he, h⟩ := Building.bind_eq_ok h
    obtain ⟨later, w, hlater, h⟩ := Building.bind_eq_ok h
    cases h
    obtain ⟨attributes, x, hsx, rfl, rfl, havoids⟩ := build_eq_ok he
    obtain ⟨hle, hbetween, -⟩ := attributes_of_buildAll hlater
    have hsize := hsx.size_le
    rw [Store.size_alloc] at hle hbetween
    have hx : Avoids K x := by
      refine havoids K hvars hs fun a ha hsa => Nat.not_lt.1 fun hax => ?_
      obtain ⟨d, hd, rfl⟩ := (hK a hsa (by omega)).1 ha
      rcases List.mem_cons.1 hd with rfl | hd
      · exact Nat.lt_irrefl _ hax
      · have := hbetween d hd
        omega
    have hnew : x.size ∈ K := (hK x.size hsize hle).2 ⟨_, List.mem_cons_self, rfl⟩
    refine ih hlater ?_ fun a hxa hat => ?_
    · intro a c ha hc
      obtain hold | ⟨rfl, -⟩ := Store.cases_of_get?_alloc hc
      · exact hx a c ha hold
      · exact absurd hnew ha
    · rw [Store.size_alloc] at hxa
      rw [hK a (by omega) hat, List.exists_mem_cons_iff]
      refine or_iff_right ?_
      rintro rfl
      exact Nat.not_succ_le_self x.size hxa

end Step

/-! ### Finding the step that is revised

Finding a step and revising it go through the list in the same way, and stop at the same step. Both
are put in terms of a list that is cut in three: the steps before, the step, and those behind it.
-/

namespace Store

variable {s t : Store} {n w : Value} {field : String} {steps : List Record} {e : Record}

/-- **The step that is found** is the first whose name is equal. -/
theorem findStep_eq_some (h : s.findStep n steps = .ok (some e)) :
    ∃ before after, steps = before ++ e :: after ∧
      (∀ d ∈ before, ∃ u, s.field d "name" = .ok u ∧ s.equal u n = .ok false) ∧
      ∃ u, s.field e "name" = .ok u ∧ s.equal u n = .ok true := by
  induction steps with
  | nil => cases h
  | cons d rest ih =>
    obtain ⟨u, hu, h⟩ := Sorting.bind_eq_ok.1 h
    obtain ⟨found, hfound, h⟩ := Sorting.bind_eq_ok.1 h
    cases found with
    | true =>
      cases h
      exact ⟨[], rest, rfl, by simp, u, hu, hfound⟩
    | false =>
      obtain ⟨before, after, rfl, hbefore, he⟩ := ih h
      exact ⟨d :: before, after, rfl, List.forall_mem_cons.2 ⟨⟨u, hu, hfound⟩, hbefore⟩, he⟩

/-- A step that is the first whose name is equal is found. -/
theorem findStep_append {before after : List Record}
    (hbefore : ∀ d ∈ before, ∃ u, s.field d "name" = .ok u ∧ s.equal u n = .ok false)
    (he : ∃ u, s.field e "name" = .ok u ∧ s.equal u n = .ok true) :
    s.findStep n (before ++ e :: after) = .ok (some e) := by
  induction before with
  | nil =>
    obtain ⟨u, hu, hequal⟩ := he
    simp only [List.nil_append, findStep, hu, bind, Except.bind, hequal]
    rfl
  | cons d rest ih =>
    rw [List.forall_mem_cons] at hbefore
    obtain ⟨⟨u, hu, hequal⟩, hrest⟩ := hbefore
    simp only [List.cons_append, findStep, hu, bind, Except.bind, hequal]
    exact ih hrest

/-- If no step has the name, the attribute is to be set of nothing, and that fails. -/
theorem reviseStep_of_findStep_none (h : s.findStep n steps = .ok none) :
    s.reviseStep n field w steps = .error (s.assignmentFault .null field w) := by
  induction steps with
  | nil => rfl
  | cons d rest ih =>
    obtain ⟨u, hu, h⟩ := Sorting.bind_eq_ok.1 h
    obtain ⟨found, hfound, h⟩ := Sorting.bind_eq_ok.1 h
    cases found with
    | true => cases h
    | false =>
      rw [reviseStep, hu]
      simp only [bind, Except.bind, hfound, ih h]
      rfl

/-- Where the step has been found, revising is setting an attribute of it. -/
theorem reviseStep_append {before after : List Record}
    (hbefore : ∀ d ∈ before, ∃ u, s.field d "name" = .ok u ∧ s.equal u n = .ok false)
    (he : ∃ u, s.field e "name" = .ok u ∧ s.equal u n = .ok true) :
    s.reviseStep n field w (before ++ e :: after) =
      (s.assignRecord e field w).map fun p => (before ++ p.1 :: after, p.2) := by
  induction before with
  | nil =>
    obtain ⟨u, hu, hequal⟩ := he
    simp only [List.nil_append, reviseStep, hu, bind, Except.bind, hequal]
    rcases s.assignRecord e field w with f | p <;> rfl
  | cons d rest ih =>
    rw [List.forall_mem_cons] at hbefore
    obtain ⟨⟨u, hu, hequal⟩, hrest⟩ := hbefore
    simp only [List.cons_append, reviseStep, hu, bind, Except.bind, hequal, ih hrest]
    rcases s.assignRecord e field w with f | p <;> rfl

end Store

/-! ### Steps that are private

What holds for the catalogue that there is at the beginning, and is kept by all operations that give
no step another dictionary.
-/

namespace Session

variable {σ τ : Session}

/-- What the catalogue holds: the kind and the attributes of each step, as they stand. -/
def contents (σ : Session) : List (Kind × Table Value) :=
  σ.steps.map fun e => (e.kind, σ.store.attributesAt e.attributes)

/-- Where the steps of the catalogue keep their attributes. -/
def dictionaries (σ : Session) : Set Addr := dictionariesOf σ.steps

/-- Each step has a dictionary of its own, and neither a variable nor an object leads to it.

No clause says what the dictionaries hold. A step may lose an attribute or be given one under any
name; what matters is who can get at the dictionary. -/
structure Private (σ : Session) : Prop where
  closed : σ.Closed
  store : Avoids σ.dictionaries σ.store
  vars : Avoids σ.dictionaries σ.vars
  nodup : (σ.steps.map (·.attributes)).Nodup

/-- **At the beginning** the steps are private: there is nothing else. -/
theorem private_initial : Private {} where
  closed := closed_initial
  store a c _ hc := by
    have hmem : c ∈ Store.initial.2.cells := Array.mem_of_getElem? hc
    rw [Store.cells_initial, List.mem_toArray] at hmem
    obtain ⟨attributes, hattributes, rfl⟩ := List.mem_map.1 hmem
    refine Store.avoids_ofNames ?_
    have hcatalogue : Avoids (dictionaries {}) catalogue := by simp [catalogue, Step.make]
    exact hcatalogue attributes hattributes
  vars := avoids_nil
  nodup := by decide

theorem dictionaries_eq_of_map_eq
    (h : τ.steps.map (·.attributes) = σ.steps.map (·.attributes)) :
    τ.dictionaries = σ.dictionaries := by
  ext a
  simp only [dictionaries, dictionariesOf, Set.mem_ofPred_eq, ← List.mem_map, h]

theorem contents_eq_of_attributesAt_eq (hsteps : τ.steps = σ.steps)
    (h : ∀ e ∈ σ.steps, τ.store.attributesAt e.attributes = σ.store.attributesAt e.attributes) :
    τ.contents = σ.contents := by
  rw [contents, contents, hsteps]
  exact List.map_congr_left fun e he => by rw [h e he]

/-- One operation, as a special case of several. -/
theorem Closed.perform (hσ : σ.Closed) (op : Operation) : (σ.perform op).2.Closed :=
  hσ.performAll [op]

namespace Private

/-- The dictionaries of the steps are there, as nothing refers to a free address. -/
theorem lt (hσ : σ.Private) : ∀ a ∈ σ.dictionaries, a < σ.store.size := by
  rintro a ⟨e, he, rfl⟩
  exact hσ.closed.attributes_lt he

/-- Objects that are made change no attribute. -/
theorem contents_of_extends (hσ : σ.Private) (hsteps : τ.steps = σ.steps)
    (h : σ.store.Extends τ.store) : τ.contents = σ.contents :=
  contents_eq_of_attributesAt_eq hsteps fun _ he =>
    h.attributesAt_eq (hσ.closed.attributes_lt he)

/-- **Operations that do not edit** the catalogue leave it as it is, and private. -/
theorem of_not_edits {op : Operation} (hσ : σ.Private) (h : ¬ op.Edits) :
    (σ.perform op).2.Private ∧ (σ.perform op).2.contents = σ.contents := by
  have hsteps := steps_perform (σ := σ) h
  have hrevises : ¬ op.Revises := by
    cases op with
    | reviseStep name field v => exact fun _ => h trivial
    | _ => exact id
  obtain ⟨hspares, hvars⟩ := (shields_perform hrevises).spares hσ.store hσ.vars
    (Store.withholds_of_lt hσ.lt)
  have hsame : (σ.perform op).2.dictionaries = σ.dictionaries :=
    dictionaries_eq_of_map_eq (congrArg _ hsteps)
  refine ⟨⟨hσ.closed.perform op, ?_, ?_, hsteps ▸ hσ.nodup⟩, ?_⟩
  · rw [hsame]
    exact hspares.avoids
  · rw [hsame]
    exact hvars
  · refine contents_eq_of_attributesAt_eq hsteps fun e he => ?_
    rw [Store.attributesAt, Store.attributesAt, hspares.get?_eq _ ⟨e, he, rfl⟩]

end Private

/-- A catalogue is replaced, or what is asked for cannot be built. -/
theorem perform_replaceSteps (fields : List (List (String × Literal))) :
    (∃ r, σ.perform (.replaceSteps fields) = (.failed r, σ)) ∨
      ∃ es t, Step.buildAll σ.vars fields σ.store = .ok (es, t) ∧
        σ.perform (.replaceSteps fields) = (.value .null, { σ with store := t, steps := es }) := by
  rcases hbuilt : Step.buildAll σ.vars fields σ.store with f | ⟨es, t⟩
  · refine .inl ⟨f.report σ.store, ?_⟩
    simp only [perform, building, hbuilt]
    rfl
  · refine .inr ⟨es, t, rfl, ?_⟩
    simp only [perform, building, hbuilt]
    rfl

/-- New steps are private as soon as they have been built. -/
theorem Private.replaceSteps (hσ : σ.Private) (fields : List (List (String × Literal))) :
    (σ.perform (.replaceSteps fields)).2.Private := by
  have hclosed := hσ.closed.perform (.replaceSteps fields)
  obtain ⟨r, hfailed⟩ | ⟨es, t, hbuilt, hdone⟩ := perform_replaceSteps (σ := σ) fields
  · rw [hfailed]
    exact hσ
  · rw [hdone] at hclosed ⊢
    obtain ⟨-, hbetween, hnodup⟩ := Step.attributes_of_buildAll hbuilt
    -- the dictionaries of the new steps are free in the store in which building begins
    have hfree : ∀ a ∈ dictionaries { σ with store := t, steps := es }, σ.store.size ≤ a := by
      rintro a ⟨e, he, rfl⟩
      exact (hbetween e he).1
    obtain ⟨hs, hvars, -⟩ := hσ.closed _ hfree
    exact ⟨hclosed, Step.avoids_of_buildAll hbuilt hvars hs fun _ _ _ => Iff.rfl, hvars, hnodup⟩

/-! ### Revising a step

A revision is built, and then the attribute is set, or cannot be. The two parts are kept apart here,
because the first may fail as well, and leaves the session as it is then.
-/

/-- What is built for a revision: a name, and when a step of the name has been looked for, the new
value of its attribute. -/
theorem revision_eq_ok {name v : Literal} {parts : Value × Value} {t : Store}
    (h : (do
      let name ← name.build σ.vars
      let _ ← Building.read fun s => s.findStep name σ.steps
      return (name, ← v.build σ.vars) : Building (Value × Value)) σ.store = .ok (parts, t)) :
    ∃ s o, name.build σ.vars σ.store = .ok (parts.1, s) ∧ s.findStep parts.1 σ.steps = .ok o ∧
      v.build σ.vars s = .ok (parts.2, t) := by
  obtain ⟨n, s, hn, h⟩ := Building.bind_eq_ok h
  obtain ⟨o, u, ho, h⟩ := Building.bind_eq_ok h
  obtain ⟨w, t', hw, h⟩ := Building.bind_eq_ok h
  cases h
  unfold Building.read at ho
  rcases hfound : s.findStep n σ.steps with f | o' <;> simp only [hfound] at ho <;> cases ho
  exact ⟨s, o, hn, hfound, hw⟩

/-- The session when a revision has been built: the attribute is set, or cannot be. -/
def revised (σ : Session) (t : Store) (n w : Value) (field : String) : Answer × Session :=
  match t.reviseStep n field w σ.steps with
  | .ok (steps, store) => (.value .null, { σ with steps, store })
  | .error f => (.failed (f.report t), σ.withStore t)

/-- What a revision comes to when both literals have been built and the name has been looked up. -/
theorem perform_reviseStep_of_build {name v : Literal} {field : String} {n w : Value}
    {o : Option Record} {s t : Store} (hn : name.build σ.vars σ.store = .ok (n, s))
    (ho : s.findStep n σ.steps = .ok o) (hw : v.build σ.vars s = .ok (w, t)) :
    σ.perform (.reviseStep name field v) = σ.revised t n w field := by
  have hparts : (do
      let name ← name.build σ.vars
      let _ ← Building.read fun s => s.findStep name σ.steps
      return (name, ← v.build σ.vars) : Building (Value × Value)) σ.store = .ok ((n, w), t) := by
    show (name.build σ.vars σ.store).bind _ = _
    rw [hn]
    show (Building.read (fun s => s.findStep n σ.steps) s).bind _ = _
    rw [Building.read, ho]
    show (v.build σ.vars s).bind _ = _
    rw [hw]
    rfl
  simp only [perform, building, hparts]
  rfl

/-- A revision fails while it is built, or it comes to `Session.revised`. -/
theorem perform_reviseStep (name : Literal) (field : String) (v : Literal) :
    (∃ r, σ.perform (.reviseStep name field v) = (.failed r, σ)) ∨
      ∃ n s o w t, name.build σ.vars σ.store = .ok (n, s) ∧ s.findStep n σ.steps = .ok o ∧
        v.build σ.vars s = .ok (w, t) ∧
        σ.perform (.reviseStep name field v) = σ.revised t n w field := by
  rcases hparts : (do
      let name ← name.build σ.vars
      let _ ← Building.read fun s => s.findStep name σ.steps
      return (name, ← v.build σ.vars) : Building (Value × Value)) σ.store with f | ⟨parts, t⟩
  · refine .inl ⟨f.report σ.store, ?_⟩
    simp only [perform, building, hparts]
    rfl
  · obtain ⟨s, o, hn, ho, hw⟩ := revision_eq_ok hparts
    exact .inr ⟨parts.1, s, o, parts.2, t, hn, ho, hw, perform_reviseStep_of_build hn ho hw⟩

/-- What a literal builds is new, and everything else stays as it is. -/
theorem extends_of_build {l : Literal} {v : Value} {s t : Store}
    (h : l.build σ.vars s = .ok (v, t)) : s.Extends t :=
  (Literal.confined_build (P := fun K => Avoids K σ.vars) (fun _ hK => hK) l).extends_of_ok s v t h

/-- When the new value is being built, no object is changed that the name or a step leads to. -/
theorem Closed.alike (hσ : σ.Closed) {name v : Literal} {n w : Value} {s t : Store}
    (hn : name.build σ.vars σ.store = .ok (n, s)) (hw : v.build σ.vars s = .ok (w, t)) :
    Store.Alike {a | s.size ≤ a} s t ∧ Avoids {a | s.size ≤ a} n ∧
      Avoids {a | s.size ≤ a} σ.steps := by
  have hle := (extends_of_build hn).size_le
  obtain ⟨hs, hvars, hsteps⟩ := hσ {a | s.size ≤ a} fun a ha => hle.trans ha
  obtain ⟨hs, hn⟩ := (Literal.confined_build (P := fun K => Avoids K σ.vars) (fun _ hK => hK)
    name).avoids _ _ n s hvars hs hn (Store.withholds_of_le fun a ha => ha)
  exact ⟨(extends_of_build hw).alike hs, hn, hsteps⟩

end Session

namespace Store

theorem avoids_put_of_mem {K : Set Addr} {s : Store} {a : Addr} {c : Cell} (hs : Avoids K s)
    (ha : a ∈ K) : Avoids K (s.put a c) := by
  intro b d hb hd
  have hne : b ≠ a := fun hba => hb (hba ▸ ha)
  rw [get?_put_of_ne hne] at hd
  exact hs b d hb hd

theorem attributesAt_putAttribute_of_ne {s : Store} {r : Record} {a : Addr} (h : a ≠ r.attributes)
    (name : String) (v : Value) : (s.putAttribute r name v).attributesAt a = s.attributesAt a := by
  rw [putAttribute, attributesAt, get?_put_of_ne h, ← attributesAt]

/-- **An attribute of a record is set**, if it is not its dictionary: its kind, or an entry of its
dictionary. -/
theorem assignRecord_eq_ok {s t : Store} {r r' : Record} {name : String} {w : Value}
    (hname : name ≠ "__dict__") (h : s.assignRecord r name w = .ok (r', t)) :
    r'.attributes = r.attributes ∧
      ((name = "__class__" ∧ w = .kind r'.kind ∧ t = s) ∨ r' = r ∧ t = s.putAttribute r name w) := by
  unfold assignRecord at h
  split at h
  · split at h
    · split at h
      · cases h
        exact ⟨rfl, .inl ⟨rfl, rfl, rfl⟩⟩
      · cases h
    · cases h
  · exact absurd rfl hname
  · cases h
  · cases h
    exact ⟨rfl, .inr ⟨rfl, rfl⟩⟩

theorem assignRecord_of_notMem {s : Store} {r : Record} {name : String}
    (h : name ∉ ["__class__", "__dict__", "__weakref__"]) (w : Value) :
    s.assignRecord r name w = .ok (r, s.putAttribute r name w) := by
  simp only [List.mem_cons, List.not_mem_nil, or_false, not_or] at h
  obtain ⟨hclass, hdict, hweakref⟩ := h
  unfold assignRecord
  split
  · exact absurd rfl hclass
  · exact absurd rfl hdict
  · exact absurd rfl hweakref
  · rfl

end Store

namespace Session

variable {σ τ : Session}

/-- **Revising a step** keeps the steps private, unless it gives the step another dictionary. -/
theorem Private.reviseStep (hσ : σ.Private) {field : String} (hfield : field ≠ "__dict__")
    (name v : Literal) : (σ.perform (.reviseStep name field v)).2.Private := by
  have hclosed := hσ.closed.perform (.reviseStep name field v)
  obtain ⟨r, hfailed⟩ | ⟨n, s, o, w, t, hn, ho, hw, hrevised⟩ :=
    perform_reviseStep (σ := σ) name field v
  · rw [hfailed]
    exact hσ
  have hst := extends_of_build hn
  have htt := extends_of_build hw
  have hbuild (l : Literal) := Literal.confined_build (P := fun K => Avoids K σ.vars)
    (fun _ hK => hK) l
  have hs := ((hbuild name).avoids _ _ n s hσ.vars hσ.store hn (Store.withholds_of_lt hσ.lt)).1
  have ht := ((hbuild v).avoids _ _ w t hσ.vars hs hw (Store.withholds_of_lt fun a ha =>
    Nat.lt_of_lt_of_le (hσ.lt a ha) hst.size_le)).1
  rw [hrevised] at hclosed ⊢
  unfold revised at hclosed ⊢
  split at hclosed
  · rename_i revised u hdone
    obtain ⟨before, e, after, e', hsteps, rfl, -, -, hassign⟩ := Store.reviseStep_eq_ok hdone
    obtain ⟨heq, hcases⟩ := Store.assignRecord_eq_ok hfield hassign
    have hmap : (before ++ e' :: after).map (·.attributes) = σ.steps.map (·.attributes) := by
      rw [hsteps, List.map_append, List.map_append, List.map_cons, List.map_cons, heq]
    have hstore : Avoids σ.dictionaries u := by
      obtain ⟨-, -, rfl⟩ | ⟨-, rfl⟩ := hcases
      · exact ht
      · exact Store.avoids_put_of_mem ht ⟨e, by rw [hsteps]; simp, rfl⟩
    refine ⟨hclosed, ?_, ?_, hmap.symm ▸ hσ.nodup⟩
    · rw [dictionaries_eq_of_map_eq hmap]
      exact hstore
    · rw [dictionaries_eq_of_map_eq hmap]
      exact hσ.vars
  · exact ⟨hclosed, ht, hσ.vars, hσ.nodup⟩

/-- **One operation** leaves the steps private. -/
theorem Private.perform (hσ : σ.Private) {op : Operation} (h : ¬ op.Redirects) :
    (σ.perform op).2.Private := by
  cases op with
  | replaceSteps fields => exact hσ.replaceSteps fields
  | reviseStep name field v => exact hσ.reviseStep h name v
  | _ => exact (hσ.of_not_edits id).1

/-- **Steps stay private** as long as none is given another dictionary. By induction on the
operations. The set of dictionaries may be another one after each of them. -/
theorem Private.performAll (hσ : σ.Private) {ops : List Operation} (h : ∀ op ∈ ops, ¬ op.Redirects) :
    (σ.performAll ops).2.Private := by
  induction ops generalizing σ with
  | nil => exact hσ
  | cons op rest ih =>
    rw [List.forall_mem_cons] at h
    rw [performAll_cons]
    exact ih (hσ.perform h.1) h.2

/-- Operations that do not edit the catalogue leave it as it is. -/
theorem Private.contents_performAll (hσ : σ.Private) {ops : List Operation}
    (h : ∀ op ∈ ops, ¬ op.Edits) :
    (σ.performAll ops).2.steps = σ.steps ∧ (σ.performAll ops).2.contents = σ.contents := by
  induction ops generalizing σ with
  | nil => exact ⟨rfl, rfl⟩
  | cons op rest ih =>
    rw [List.forall_mem_cons] at h
    rw [performAll_cons]
    obtain ⟨hprivate, hcontents⟩ := hσ.of_not_edits h.1
    obtain ⟨hsteps, hlater⟩ := ih hprivate h.2
    exact ⟨hsteps.trans (steps_perform h.1), hlater.trans hcontents⟩

/-! ### What becomes of the catalogue

An attribute of one step is set, and what is seen of the catalogue afterwards is the new value
there, and the old values everywhere else.
-/

/-- In the second session, the attribute of step number `i` has been set, and the rest of the
catalogue is as it was.

Attributes are compared by what is found under a name, for the step itself, and whole dictionaries
are compared for all others. -/
structure SetsField (σ τ : Session) (i : Nat) (field : String) (w : Value) : Prop where
  steps : τ.steps = σ.steps
  value : ∀ e, σ.steps[i]? = some e → τ.store.attribute? e field = some w
  others : ∀ e, σ.steps[i]? = some e → ∀ name, name ≠ field →
    τ.store.attribute? e name = σ.store.attribute? e name
  rest : ∀ j, j ≠ i → τ.contents[j]? = σ.contents[j]?

/-- A step is among those that are listed and those that a run of all steps goes through, with a
value for a field. -/
structure Shows (σ : Session) (e : Record) (field : String) (w : Value) : Prop where
  value : σ.store.field e field = .ok w
  listed : ∀ listed, σ.store.listSteps σ.steps = .ok listed → e ∈ listed
  selected : ∀ only selected, ¬ σ.store.truthy only →
    σ.store.selectSteps σ.steps only = .ok selected → e ∈ selected

/-- **What fails** leaves the catalogue as it is. -/
theorem Private.of_failed (hσ : σ.Private) {op : Operation} {r : Report}
    (h : (σ.perform op).1 = .failed r) :
    (σ.perform op).2.steps = σ.steps ∧ (σ.perform op).2.contents = σ.contents := by
  by_cases hedits : op.Edits
  · cases op with
    | replaceSteps fields =>
      obtain ⟨r, hfailed⟩ | ⟨es, t, -, hdone⟩ := perform_replaceSteps (σ := σ) fields
      · rw [hfailed]
        exact ⟨rfl, rfl⟩
      · rw [hdone] at h
        cases h
    | reviseStep name field v =>
      obtain ⟨r, hfailed⟩ | ⟨n, s, o, w, t, hn, -, hw, hrevised⟩ :=
        perform_reviseStep (σ := σ) name field v
      · rw [hfailed]
        exact ⟨rfl, rfl⟩
      · rw [hrevised] at h ⊢
        unfold revised at h ⊢
        split at h
        · cases h
        · exact ⟨rfl, hσ.contents_of_extends rfl
            ((extends_of_build hn).trans (extends_of_build hw))⟩
    | _ => exact hedits.elim
  · exact ⟨steps_perform hedits, (hσ.of_not_edits hedits).2⟩

/-- Setting an entry of the dictionary of one step leaves the dictionaries of the other steps alone.
-/
theorem Private.setsField (hσ : σ.Private) {before after : List Record} {e : Record}
    (hsteps : σ.steps = before ++ e :: after) {t : Store} (ht : σ.store.Extends t)
    (field : String) (w : Value) :
    SetsField σ { σ with store := t.putAttribute e field w } before.length field w := by
  have hi : σ.steps[before.length]? = some e := by simp [hsteps]
  have hlt : e.attributes < t.size :=
    Nat.lt_of_lt_of_le (hσ.closed.attributes_lt (List.mem_of_getElem? hi)) ht.size_le
  have hold {d : Record} (hd : d ∈ σ.steps) : t.attributesAt d.attributes =
      σ.store.attributesAt d.attributes :=
    ht.attributesAt_eq (hσ.closed.attributes_lt hd)
  refine ⟨rfl, fun d hd => ?_, fun d hd name hname => ?_, fun j hj => ?_⟩
  · rw [hi] at hd
    cases hd
    exact Store.attribute?_putAttribute_self hlt field w
  · rw [hi] at hd
    cases hd
    rw [Store.attribute?_putAttribute_of_ne hlt hname, Store.attribute?, Store.attribute?,
      hold (List.mem_of_getElem? hi)]
  · simp only [contents, List.getElem?_map]
    rcases hd : σ.steps[j]? with _ | d
    · rfl
    · have hne : d.attributes ≠ e.attributes := by
        intro heq
        have hlength : j < (σ.steps.map (·.attributes)).length := by
          rw [List.length_map]
          exact (List.getElem?_eq_some_iff.1 hd).1
        refine hj ((List.getElem?_inj hlength hσ.nodup).1 ?_)
        rw [List.getElem?_map, List.getElem?_map, hd, hi, Option.map_some, Option.map_some, heq]
      simp only [Option.map_some, Store.attributesAt_putAttribute_of_ne hne,
        hold (List.mem_of_getElem? hd)]

theorem attributesAt_of_contents_eq (hsteps : τ.steps = σ.steps) (h : τ.contents = σ.contents)
    {e : Record} (he : e ∈ σ.steps) :
    τ.store.attributesAt e.attributes = σ.store.attributesAt e.attributes := by
  rw [contents, contents, hsteps, List.map_inj_left] at h
  exact (Prod.mk.inj (h e he)).2

/-- What has been set is seen as long as the catalogue is not edited. -/
theorem SetsField.performAll {i : Nat} {field : String} {w : Value} (h : SetsField σ τ i field w)
    (hτ : τ.Private) {later : List Operation} (hlater : ∀ op ∈ later, ¬ op.Edits) :
    SetsField σ (τ.performAll later).2 i field w := by
  obtain ⟨hsteps, hcontents⟩ := hτ.contents_performAll hlater
  have hsame {e : Record} (he : σ.steps[i]? = some e) (name : String) :
      (τ.performAll later).2.store.attribute? e name = τ.store.attribute? e name := by
    have hmem : e ∈ τ.steps := h.steps ▸ List.mem_of_getElem? he
    rw [Store.attribute?, Store.attribute?, attributesAt_of_contents_eq hsteps hcontents hmem]
  exact ⟨hsteps.trans h.steps, fun e he => (hsame he field).trans (h.value e he),
    fun e he name hname => (hsame he name).trans (h.others e he name hname),
    fun j hj => hcontents ▸ h.rest j hj⟩

theorem SetsField.shows {i : Nat} {e : Record} {field : String} {w : Value}
    (h : SetsField σ τ i field w) (he : σ.steps[i]? = some e) : Shows τ e field w := by
  have hmem : e ∈ τ.steps := h.steps ▸ List.mem_of_getElem? he
  have hlisted (listed : List Record) (hlisted : τ.store.listSteps τ.steps = .ok listed) :
      e ∈ listed :=
    (Store.listSteps_perm hlisted).mem_iff.2 hmem
  refine ⟨?_, hlisted, fun only selected honly hselected => ?_⟩
  · rw [Store.field, Store.field?, h.value e he, Option.some_or]
  · rw [Store.selectSteps, if_neg honly] at hselected
    exact hlisted selected hselected

/-- The fields of a step are the same in both sessions, but for the one that has been set. -/
theorem SetsField.field_eq {i : Nat} {field : String} {w : Value} (h : SetsField σ τ i field w)
    {j : Nat} {d : Record} (hd : σ.steps[j]? = some d) {name : String}
    (hname : j ≠ i ∨ name ≠ field) : τ.store.field d name = σ.store.field d name := by
  have hattribute : τ.store.attribute? d name = σ.store.attribute? d name := by
    by_cases hj : j = i
    · exact h.others d (hj ▸ hd) name (hname.resolve_left (not_not_intro hj))
    · have hrest := h.rest j hj
      simp only [contents, h.steps, List.getElem?_map, hd, Option.map_some, Option.some.injEq,
        Prod.mk.injEq, true_and] at hrest
      rw [Store.attribute?, Store.attribute?, hrest]
  rw [Store.field, Store.field, Store.field?, Store.field?, hattribute]

end Session

/-- Nothing but a text is equal to a text, whatever the store. -/
theorem Store.equal_to_text (s : Store) (v : Value) (t : String) :
    s.equal v (.text t) = .ok (decide (v = .text t)) := by
  have hnumber : (Value.text t).number? = none := rfl
  have hcell : s.cell? (.text t) = none := rfl
  unfold equal callLevels
  rw [equalWithin.eq_def]
  simp only [hnumber, hcell]
  rcases v.number? with _ | m <;> rcases s.cell? v with _ | c <;> rfl

namespace Session

variable {σ τ : Session}

/-- The step of a name is found by it still when another attribute of it has been set. -/
theorem SetsField.findStep (hσ : σ.Private) {before after : List Record} {e : Record}
    (hsteps : σ.steps = before ++ e :: after) {t : String} {s : Store} (hs : σ.store.Extends s)
    (hbefore : ∀ d ∈ before, ∃ u, s.field d "name" = .ok u ∧ s.equal u (.text t) = .ok false)
    (he : ∃ u, s.field e "name" = .ok u ∧ s.equal u (.text t) = .ok true) {field : String}
    {w : Value} (h : SetsField σ τ before.length field w) (hfield : field ≠ "name") :
    τ.store.findStep (.text t) τ.steps = .ok (some e) := by
  have hread {j : Nat} {d : Record} (hd : σ.steps[j]? = some d) :
      τ.store.field d "name" = s.field d "name" := by
    rw [h.field_eq hd (.inr hfield.symm), Store.field, Store.field, Store.field?, Store.field?,
      Store.attribute?, Store.attribute?,
      hs.attributesAt_eq (hσ.closed.attributes_lt (List.mem_of_getElem? hd))]
  rw [h.steps, hsteps]
  refine Store.findStep_append (fun d hd => ?_) ?_
  · obtain ⟨u, hu, hequal⟩ := hbefore d hd
    obtain ⟨j, hj⟩ := List.mem_iff_getElem?.1 (show d ∈ σ.steps by rw [hsteps]; simp [hd])
    exact ⟨u, (hread hj).trans hu, by rw [Store.equal_to_text] at hequal ⊢; exact hequal⟩
  · obtain ⟨u, hu, hequal⟩ := he
    refine ⟨u, (hread (j := before.length) (by simp [hsteps])).trans hu, ?_⟩
    rw [Store.equal_to_text] at hequal ⊢
    exact hequal

/-- **What operations do to the catalogue**, in a session in which no step has been given another
dictionary.

* Operations that are not meant to edit the catalogue leave the records that it consists of, and all
  that these hold, as they are; so does an operation that fails.
* A catalogue that cannot be built changes nothing at all.
* Revising a step of an unknown name makes objects at most.
* Revising a step of a known name sets one attribute of the first step whose name is equal. All
  steps stay in their places, and the new value is what listing, finding and running find until the
  catalogue is edited again. If it is the kind of the step that is set, its attributes stay.

What is set of a kind, or of an operation of records, is no part of this, as a session keeps none of
it. So this holds of the sessions of programs that do nothing of the sort. -/
theorem catalogue_kept (before : List Operation) (hbefore : ∀ op ∈ before, ¬ op.Redirects) :
    let σ := (Session.performAll {} before).2
    (∀ op, (¬ op.Edits ∨ ∃ r, (σ.perform op).1 = .failed r) →
      (σ.perform op).2.steps = σ.steps ∧ (σ.perform op).2.contents = σ.contents) ∧
    (∀ fields r, (σ.perform (.replaceSteps fields)).1 = .failed r →
      (σ.perform (.replaceSteps fields)).2 = σ) ∧
    ∀ name field v n s, field ≠ "__dict__" → name.build σ.vars σ.store = .ok (n, s) →
      let done := σ.perform (.reviseStep name field v)
      (s.findStep n σ.steps = .ok none →
        (∃ r, done.1 = .failed r) ∧ σ.store.Extends done.2.store ∧ done.2.vars = σ.vars ∧
          done.2.steps = σ.steps) ∧
      ∀ e w t, s.findStep n σ.steps = .ok (some e) → v.build σ.vars s = .ok (w, t) →
        ∃ i, σ.steps[i]? = some e ∧
          (∀ j d, j < i → σ.steps[j]? = some d →
            ∃ u, s.field d "name" = .ok u ∧ s.equal u n = .ok false) ∧
          (∃ u, s.field e "name" = .ok u ∧ s.equal u n = .ok true) ∧
          (field ∉ ["__class__", "__weakref__"] →
            done.1 = .value .null ∧
            ∀ later, (∀ op ∈ later, ¬ op.Edits) →
              let υ := (done.2.performAll later).2
              SetsField σ υ i field w ∧ Shows υ e field w ∧
                ∀ u, n = .text u → field ≠ "name" →
                  υ.store.findStep n υ.steps = .ok (some e)) ∧
          (field = "__class__" → ∀ k, w = .kind k → k.isRecord →
            done.1 = .value .null ∧ done.2.steps = σ.steps.set i ⟨k, e.attributes⟩ ∧
              ∀ d ∈ σ.steps, done.2.store.attributesAt d.attributes =
                σ.store.attributesAt d.attributes) := by
  intro σ
  have hσ : σ.Private := private_initial.performAll hbefore
  refine ⟨fun op hop => ?_, fun fields r hr => ?_, fun name field v n s hfield hn => ⟨?_, ?_⟩⟩
  · obtain hedits | ⟨r, hr⟩ := hop
    · exact ⟨steps_perform hedits, (hσ.of_not_edits hedits).2⟩
    · exact hσ.of_failed hr
  · obtain ⟨r, hfailed⟩ | ⟨es, t, -, hdone⟩ := perform_replaceSteps (σ := σ) fields
    · rw [hfailed]
    · rw [hdone] at hr
      cases hr
  · intro hnone
    obtain ⟨r, hfailed⟩ | ⟨n', s', o, w, t, hn', -, hw, hrevised⟩ :=
      perform_reviseStep (σ := σ) name field v
    · rw [hfailed]
      exact ⟨⟨r, rfl⟩, .refl _, rfl, rfl⟩
    · rw [hn] at hn'
      cases hn'
      obtain ⟨halike, havoids, hsteps⟩ := hσ.closed.alike hn hw
      rw [hrevised, revised, Store.reviseStep_of_findStep_none
        ((halike.findStep_agree havoids hsteps).eq.trans hnone)]
      exact ⟨⟨_, rfl⟩, (extends_of_build hn).trans (extends_of_build hw), rfl, rfl⟩
  · intro e w t hfound hw
    have hst := (extends_of_build hn).trans (extends_of_build hw)
    obtain ⟨first, last, hsteps, hfirst, he⟩ := Store.findStep_eq_some hfound
    have hi : σ.steps[first.length]? = some e := by simp [hsteps]
    have hrevised : σ.perform (.reviseStep name field v) = σ.revised t n w field :=
      perform_reviseStep_of_build hn hfound hw
    have hrecord : t.reviseStep n field w σ.steps =
        (t.assignRecord e field w).map fun p => (first ++ p.1 :: last, p.2) := by
      obtain ⟨halike, havoids, hold⟩ := hσ.closed.alike hn hw
      rw [hsteps, avoids_append, avoids_cons] at hold
      rw [hsteps]
      refine Store.reviseStep_append (fun d hd => ?_) ?_
      · obtain ⟨u, hu, hequal⟩ := hfirst d hd
        have hu := (halike.field_agree (hold.1 d hd) "name").eq.trans hu
        have havoids_u := halike.avoids_field (hold.1 d hd) hu
        exact ⟨u, hu, (halike.equal_agree havoids_u havoids).eq.trans hequal⟩
      · obtain ⟨u, hu, hequal⟩ := he
        have hu := (halike.field_agree hold.2.1 "name").eq.trans hu
        exact ⟨u, hu, (halike.equal_agree (halike.avoids_field hold.2.1 hu) havoids).eq.trans hequal⟩
    refine ⟨first.length, hi, fun j d hj hd => ?_, he, fun hordinary => ?_, fun hclass k hk hkind => ?_⟩
    · rw [hsteps, List.getElem?_append_left hj] at hd
      exact hfirst d (List.mem_of_getElem? hd)
    · have hspecial : field ∉ ["__class__", "__dict__", "__weakref__"] := by
        simp only [List.mem_cons, List.not_mem_nil, or_false, not_or] at hordinary ⊢
        exact ⟨hordinary.1, hfield, hordinary.2⟩
      have hdone : σ.perform (.reviseStep name field v) =
          (.value .null, { σ with store := t.putAttribute e field w }) := by
        rw [hrevised, revised, hrecord, Store.assignRecord_of_notMem hspecial, hsteps]
        rfl
      have hset := hσ.setsField hsteps hst field w
      have hprivate := hσ.reviseStep hfield name v
      rw [hdone] at hprivate ⊢
      refine ⟨rfl, fun later hlater => ?_⟩
      have hυ := hset.performAll hprivate hlater
      refine ⟨hυ, hυ.shows hi, ?_⟩
      rintro u rfl hname
      exact hυ.findStep hσ hsteps (extends_of_build hn) hfirst he hname
    · subst hclass hk
      have hassign : t.assignRecord e "__class__" (.kind k) = .ok (⟨k, e.attributes⟩, t) := by
        simp only [Store.assignRecord, hkind, if_true]
      have hset : σ.steps.set first.length ⟨k, e.attributes⟩ =
          first ++ ⟨k, e.attributes⟩ :: last := by
        rw [hsteps]
        simp
      rw [hrevised, revised, hrecord, hassign, hset]
      exact ⟨rfl, rfl, fun d hd => hst.attributesAt_eq (hσ.closed.attributes_lt hd)⟩

/-- A session in which the order of a step has been set, and a dictionary that it does not keep its
attributes in. The loop goes last when its order is set to nine, and this stays so when a list of
the steps has been emptied and settings have been changed. -/
theorem catalogue_kept_of_loop :
    let σ := (Session.performAll {} [.bind "c" (.settings []),
      .reviseStep (.text "sum") "order" (.int 7)]).2
    let later : List Operation := [.listSteps, .clearListed, .assign (.named "c") "name" (.int 0)]
    let υ := ((σ.perform (.reviseStep (.text "loop") "order" (.int 9))).2.performAll later).2
    SetsField σ υ 3 "order" (.int 9) ∧ Shows υ ⟨.step, 3⟩ "order" (.int 9) ∧
      υ.store.findStep (.text "loop") υ.steps = .ok (some ⟨.step, 3⟩) ∧
      (σ.perform (.reviseStep (.text "loops") "order" (.int 9))).2.steps = σ.steps ∧
      (σ.perform (.replaceSteps [[]])).2 = σ := by
  intro σ later υ
  obtain ⟨-, hfailed, hrevised⟩ := catalogue_kept [.bind "c" (.settings []),
    .reviseStep (.text "sum") "order" (.int 7)] (by simp [Operation.Redirects])
  obtain ⟨-, hknown⟩ := hrevised (.text "loop") "order" (.int 9) (.text "loop") σ.store (by decide) rfl
  obtain ⟨hunknown, -⟩ := hrevised (.text "loops") "order" (.int 9) (.text "loops") σ.store
    (by decide) rfl
  obtain ⟨i, hi, -, -, hset, -⟩ := hknown ⟨.step, 3⟩ (.int 9) σ.store rfl rfl
  obtain ⟨-, hlater⟩ := hset (by decide)
  obtain ⟨hsets, hshows, hfound⟩ := hlater later (by simp [later, Operation.Edits])
  have hloop : σ.steps[3]? = some ⟨.step, 3⟩ := rfl
  have hnodup : σ.steps.Nodup := by decide
  obtain rfl : 3 = i := (List.getElem?_inj (by decide) hnodup).1 (hloop.trans hi.symm)
  exact ⟨hsets, hshows, hfound "loop" rfl (by decide), (hunknown rfl).2.2.2,
    hfailed [[]] _ rfl⟩

/-- **A dictionary that a step shares.** When a step has been given the dictionary of settings, setting
an attribute of the settings sets it for the step, although the operation does not edit the
catalogue. -/
theorem catalogue_not_kept :
    ∃ (before : List Operation) (op : Operation), ¬ op.Edits ∧
      let σ := (Session.performAll {} before).2
      (σ.perform op).2.contents ≠ σ.contents := by
  refine ⟨[.bind "c" (.settings [("name", .text "greeting")]),
    .assign (.named "c") "description" (.text "d"), .assign (.named "c") "order" (.int 1),
    .reviseStep (.text "greeting") "__dict__" (.named "c.__dict__")],
    .assign (.named "c") "order" (.int 9), id, ?_⟩
  decide +kernel

end Session

end Walkthrough
