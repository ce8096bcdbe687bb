import Walkthrough.Proofs.Avoidance
import Walkthrough.Proofs.Effect

/-!
# Actions that keep to what they are given

An action can only get at objects through the values that it is given. So if these avoid a set `K` of
addresses, and all objects outside `K` do, then the objects in `K` stay as they are, and neither
what the action leaves behind nor what it gives refers to them. `Action.Confined` says this of an
action, for all sets at once; a condition on the set says that it avoids what the action is given.

## New objects

An object that is made gets the next free address, which may be in `K` if `K` has addresses beyond
the store. Nothing is said about an action that makes such an object. In return `K` may be all the
addresses beyond the store that the action leaves; that these are avoided means that no reference
leads nowhere.

## Main definitions

* `Store.Spares` — the objects at the addresses of a set are left alone
* `Action.Confined` — an action with a condition on the sets that it spares, and what it gives
* `Action.Plain` — an action that is given nothing that refers to an object

## Main results

* `Action.Confined.bind` — one action after the other
* `Action.Confined.pure`, `Action.Confined.read`, `Action.Confined.make`,
  `Action.Confined.write` — what actions are made of
-/

namespace Walkthrough

open Referring (Avoids)

namespace Store

/-! ### What is spared, and what is withheld

Two things can be said of what happens between two stores: that a set of objects is left alone, and
that none of its addresses is given to a new object. The second one is a condition that speaks of
the store that an action leaves, and so of the future: going on from there may use up more
addresses. A chain of actions is cut at a store in the middle by `Withholds.before`.
-/

/-- The objects at the addresses of `K` are the same in both stores, and no other object of the
second one refers to them.

The first condition is about what leads to `K` from outside, and the second about `K` itself. An
object in `K` may refer to anything, so that nothing has to be said about what is reached from `K`.
-/
structure Spares (K : Set Addr) (s t : Store) : Prop where
  avoids : Avoids K t
  get?_eq : ∀ a ∈ K, t.get? a = s.get? a

/-- None of the addresses of `K` has been given to a new object. This is a condition on `K` that
depends on the second store. A set that is about objects which there are has it, and so has a set of
addresses that are free in both stores; these are the two uses. -/
def Withholds (K : Set Addr) (s t : Store) : Prop := ∀ a ∈ K, s.size ≤ a → t.size ≤ a

/-- Neither what is subject to `P` nor an object refers to an address that is free still. The sets
`K` are those of free addresses, and that such a set is subject to `P` says that what `P` speaks of
does not lead there. -/
def Settled (P : Set Addr → Prop) (s : Store) : Prop :=
  ∀ K, (∀ a ∈ K, s.size ≤ a) → P K ∧ Avoids K s

/-- The parts of a tuple are older than the tuple. Addresses are given out in ascending order, and a
tuple is never replaced, so that the age of an object is its address. -/
def TuplesHoldOlder (s : Store) : Prop :=
  ∀ a items, s.get? a = some (.tuple items) → Avoids {b | a ≤ b} items

variable {K : Set Addr} {s t u : Store}

theorem Spares.refl (h : Avoids K s) : Spares K s s := ⟨h, fun _ _ => rfl⟩

/-- What is spared twice is spared. Both parts are composed without any condition. -/
theorem Spares.trans (hst : Spares K s t) (htu : Spares K t u) : Spares K s u :=
  ⟨htu.avoids, fun a ha => (htu.get?_eq a ha).trans (hst.get?_eq a ha)⟩

/-- All addresses of `K` are in use already. -/
theorem withholds_of_lt (h : ∀ a ∈ K, a < s.size) : Withholds K s t :=
  fun a ha hle => absurd (h a ha) (Nat.not_lt.2 hle)

/-- All addresses of `K` are free still. -/
theorem withholds_of_le (h : ∀ a ∈ K, t.size ≤ a) : Withholds K s t := fun a ha _ => h a ha

theorem Withholds.before (h : Withholds K s u) (hst : s.size ≤ t.size) (htu : t.size ≤ u.size) :
    Withholds K s t ∧ Withholds K t u :=
  ⟨fun a ha hle => htu.trans (h a ha hle), fun a ha hle => h a ha (hst.trans hle)⟩

/-- What there is does not refer to what is made from it. -/
theorem Spares.settled {P P' : Set Addr → Prop} (hs : Settled P s) (hle : s.size ≤ t.size)
    (h : ∀ K, P K → Avoids K s → Withholds K s t → P' K ∧ Avoids K t) : Settled P' t := by
  intro K hK
  obtain ⟨hP, hsK⟩ := hs K fun a ha => hle.trans (hK a ha)
  exact h K hP hsK (withholds_of_le hK)

/-! ### What is done to a store

Four things are done to objects: one is made, one is replaced, an iterator is moved, and an iterator
is broken off. Each spares a set if what is written avoids it.
-/

/-- What there is when an object has been made. -/
theorem cases_of_get?_alloc {a : Addr} {c d : Cell} (h : (s.alloc c).2.get? a = some d) :
    s.get? a = some d ∨ a = s.size ∧ d = c := by
  rcases Nat.lt_trichotomy a s.size with hlt | rfl | hgt
  · exact .inl ((get?_alloc_of_lt hlt c).symm.trans h)
  · rw [get?_alloc_self] at h
    exact .inr ⟨rfl, (Option.some.inj h).symm⟩
  · rw [get?_eq_none_iff.2 (by rw [size_alloc]; exact hgt)] at h
    cases h

/-- What there is when an object has been replaced. -/
theorem cases_of_get?_put {a b : Addr} {c d : Cell} (h : (s.put a c).get? b = some d) :
    b ≠ a ∧ s.get? b = some d ∨ b = a ∧ d = c := by
  by_cases hba : b = a
  · subst hba
    by_cases hlt : b < s.size
    · rw [get?_put_self hlt] at h
      exact .inr ⟨rfl, (Option.some.inj h).symm⟩
    · rw [get?_eq_none_iff.2 (by simpa using Nat.not_lt.1 hlt)] at h
      cases h
  · exact .inl ⟨hba, (get?_put_of_ne hba c).symm.trans h⟩

theorem tuplesHoldOlder_of_alloc {c : Cell} (hs : s.TuplesHoldOlder)
    (hc : ∀ items, c = .tuple items → Avoids {b | s.size ≤ b} items) :
    (s.alloc c).2.TuplesHoldOlder := by
  intro a items ha
  obtain hold | ⟨rfl, hnew⟩ := cases_of_get?_alloc ha
  · exact hs a items hold
  · exact hc items hnew.symm

theorem tuplesHoldOlder_alloc {c : Cell} (hs : s.TuplesHoldOlder)
    (hc : Avoids {b | s.size ≤ b} c) : (s.alloc c).2.TuplesHoldOlder :=
  tuplesHoldOlder_of_alloc hs fun _ heq => avoids_tuple.1 (heq ▸ hc)

/-- What is no tuple may refer to itself. -/
theorem tuplesHoldOlder_object {c : Cell} (hs : s.TuplesHoldOlder) (hc : ∀ items, c ≠ .tuple items) :
    (s.alloc c).2.TuplesHoldOlder :=
  tuplesHoldOlder_of_alloc hs fun items heq => absurd heq (hc items)

/-- An object that is replaced by something other than a tuple leaves the tuples that there are. -/
theorem tuplesHoldOlder_put {a : Addr} {c : Cell} (hs : s.TuplesHoldOlder)
    (hc : ∀ items, c ≠ .tuple items) : (s.put a c).TuplesHoldOlder := by
  intro b items hb
  obtain ⟨-, hold⟩ | ⟨-, hnew⟩ := cases_of_get?_put hb
  · exact hs b items hold
  · exact absurd hnew.symm (hc items)

theorem tuplesHoldOlder_moveOn (hs : s.TuplesHoldOlder) (v : Value) (read : Nat) (ranOff : Bool) :
    (s.moveOn v read ranOff).TuplesHoldOlder := by
  unfold moveOn
  split
  · exact tuplesHoldOlder_put hs fun _ => nofun
  · exact hs

theorem tuplesHoldOlder_breakOff (hs : s.TuplesHoldOlder) (v : Value) :
    (s.breakOff v).TuplesHoldOlder := by
  unfold breakOff
  split
  · exact tuplesHoldOlder_put hs fun _ => nofun
  · exact hs

theorem spares_alloc {c : Cell} (hs : Avoids K s) (hc : Avoids K c)
    (h : Withholds K s (s.alloc c).2) : Spares K s (s.alloc c).2 ∧ s.size ∉ K := by
  have hfree : s.size ∉ K := by
    intro hmem
    have := h s.size hmem (Nat.le_refl _)
    rw [size_alloc] at this
    omega
  refine ⟨⟨fun a d ha hd => ?_, fun a ha => ?_⟩, hfree⟩
  · obtain hold | ⟨-, rfl⟩ := cases_of_get?_alloc hd
    · exact hs a d ha hold
    · exact hc
  · rcases Nat.lt_trichotomy a s.size with hlt | rfl | hgt
    · exact get?_alloc_of_lt hlt c
    · exact absurd ha hfree
    · rw [get?_eq_none_iff.2 (by rw [size_alloc]; exact hgt), get?_eq_none_iff.2 (Nat.le_of_lt hgt)]

/-- An object outside `K` is replaced by one that avoids `K`. -/
theorem spares_put {a : Addr} {c : Cell} (hs : Avoids K s) (ha : a ∉ K) (hc : Avoids K c) :
    Spares K s (s.put a c) := by
  refine ⟨fun b d hb hd => ?_, fun b hb => ?_⟩
  · obtain ⟨-, hold⟩ | ⟨-, rfl⟩ := cases_of_get?_put hd
    · exact hs b d hb hold
    · exact hc
  · refine get?_put_of_ne ?_ c
    rintro rfl
    exact ha hb

theorem avoids_advance {it : Iterator} (h : Avoids K it) (read : Nat) (ranOff : Bool) :
    Avoids K (it.advance read ranOff) := by
  unfold Iterator.advance
  split
  · trivial
  · split
    · trivial
    · split
      all_goals exact h

theorem spares_moveOn {v : Value} (hs : Avoids K s) (hv : Avoids K v) (read : Nat)
    (ranOff : Bool) : Spares K s (s.moveOn v read ranOff) := by
  unfold moveOn
  split
  · exact spares_put hs hv (avoids_advance (hs _ _ hv ‹_›) read ranOff)
  · exact .refl hs

theorem spares_breakOff {v : Value} (hs : Avoids K s) (hv : Avoids K v) :
    Spares K s (s.breakOff v) := by
  unfold breakOff
  split
  · exact spares_put hs hv trivial
  · exact .refl hs

@[simp] theorem size_moveOn (v : Value) (read : Nat) (ranOff : Bool) :
    (s.moveOn v read ranOff).size = s.size := by
  unfold moveOn
  split <;> simp

@[simp] theorem size_breakOff (v : Value) : (s.breakOff v).size = s.size := by
  unfold breakOff
  split <;> simp

end Store

namespace Action

variable {α β : Type} {P P' : Set Addr → Prop} {Q Q' : Set Addr → α → Prop}
  {R : Set Addr → β → Prop}

/-! ### Actions -/

/-- An action that makes objects and takes none away, and spares every set `K` with `P K` that the
store avoids. What it gives is subject to `Q K`. The tuples that it makes hold what there was.

The first clause is what makes the second one compose: addresses that are withheld from two actions
are withheld from each of them, as no address is given back. The third clause is about sets of free
addresses, and is carried along because it composes in the same way. -/
structure Confined (P : Set Addr → Prop) (act : Action α) (Q : Set Addr → α → Prop) : Prop where
  grows : ∀ s, s.size ≤ (act.run s).2.size
  spares : ∀ K s, P K → Avoids K s → s.Withholds K (act.run s).2 →
    s.Spares K (act.run s).2 ∧ ∀ x, (act.run s).1 = .ok x → Q K x
  tuples : ∀ s : Store, s.Settled P → s.TuplesHoldOlder → (act.run s).2.TuplesHoldOlder

namespace Confined

/-- A weaker condition on what is given, and a stronger one on the set. -/
theorem weaken {act : Action α} (h : Confined P act Q) (hP : ∀ K, P' K → P K)
    (hQ : ∀ K x, P' K → Q K x → Q' K x) : Confined P' act Q' where
  grows := h.grows
  spares K s hK hs hheld := by
    obtain ⟨hspares, hgives⟩ := h.spares K s (hP K hK) hs hheld
    exact ⟨hspares, fun x hx => hQ K x hK (hgives x hx)⟩
  tuples s hs := h.tuples s fun K hK => ⟨hP K (hs K hK).1, (hs K hK).2⟩

/-- **One action after the other.** The second one may rely on what the first one gives. -/
theorem bind {act : Action α} {f : α → Action β} (hact : Confined P act Q)
    (hf : ∀ x, Confined (fun K => P K ∧ Q K x) (f x) R) : Confined P (act >>= f) R where
  grows s := by
    have hgrows := hact.grows s
    rw [run_bind]
    rcases hrun : act.run s with ⟨fault | x, t⟩ <;> rw [hrun] at hgrows
    · exact hgrows
    · exact hgrows.trans ((hf x).grows t)
  spares K s hK hs hheld := by
    have hgrows := hact.grows s
    have hspares := hact.spares K s hK hs
    rw [run_bind] at hheld ⊢
    rcases hrun : act.run s with ⟨fault | x, t⟩ <;> rw [hrun] at hgrows hspares hheld
    · exact ⟨(hspares hheld).1, fun x hx => by cases hx⟩
    · obtain ⟨hbefore, hafter⟩ := hheld.before hgrows ((hf x).grows t)
      obtain ⟨hst, hgives⟩ := hspares hbefore
      obtain ⟨htu, hlast⟩ := (hf x).spares K t ⟨hK, hgives x rfl⟩ hst.avoids hafter
      exact ⟨hst.trans htu, hlast⟩
  tuples s hs hold := by
    have hgrows := hact.grows s
    have hspares := fun K => hact.spares K s
    have hfirst := hact.tuples s hs hold
    rw [run_bind]
    rcases hrun : act.run s with ⟨fault | x, t⟩ <;> rw [hrun] at hgrows hspares hfirst
    · exact hfirst
    · refine (hf x).tuples t (Store.Spares.settled hs hgrows fun K hK hsK hheld => ?_) hfirst
      obtain ⟨hst, hgives⟩ := hspares K hK hsK hheld
      exact ⟨⟨hK, hgives x rfl⟩, hst.avoids⟩

theorem pure {x : α} (h : ∀ K, P K → Q K x) : Confined P (pure x) Q where
  grows _ := Nat.le_refl _
  spares K _ hK hs _ := ⟨.refl hs, fun _ hx => by cases hx; exact h K hK⟩
  tuples _ _ hold := hold

theorem throw (f : Fault) : Confined P (throw f : Action α) Q where
  grows _ := Nat.le_refl _
  spares _ _ _ hs _ := ⟨.refl hs, fun _ hx => by cases hx⟩
  tuples _ _ hold := hold

theorem misuse (m : Misuse) : Confined P (misuse m : Action α) Q := throw _

theorem read {f : Store → Except Fault α}
    (h : ∀ K s x, P K → Avoids K s → f s = .ok x → Q K x) : Confined P (read f) Q where
  grows _ := Nat.le_refl _
  spares K s hK hs _ := ⟨.refl hs, fun x hx => h K s x hK hs hx⟩
  tuples _ _ hold := hold

/-- An object is made. Its address is not in the set, as that has been withheld. -/
theorem make {c : Cell} (h : ∀ K, P K → Avoids K c) :
    Confined P (make c) (fun K v => Avoids K v) where
  grows s := by
    simp [Action.make, ExceptT.run, ExceptT.mk]
  spares K s hK hs hheld := by
    obtain ⟨hspares, hfree⟩ := Store.spares_alloc hs (h K hK) hheld
    exact ⟨hspares, fun x hx => by cases hx; exact hfree⟩
  tuples _ hs hold := Store.tuplesHoldOlder_alloc hold (h _ (hs _ fun _ ha => ha).1)

/-- An object outside the set is replaced, and by no tuple. -/
theorem write {a : Addr} {c : Cell} (h : ∀ K, P K → a ∉ K ∧ Avoids K c)
    (hc : ∀ items, c ≠ .tuple items) : Confined P (write a c) (fun _ _ => True) where
  grows s := by
    simp [Action.write, update, ExceptT.run, ExceptT.mk]
  spares K s hK hs _ := ⟨Store.spares_put hs (h K hK).1 (h K hK).2, fun _ _ => trivial⟩
  tuples _ _ hold := Store.tuplesHoldOlder_put hold hc

end Confined

/-! ### Actions that are given nothing that refers

Most operations are given nothing but numbers and texts at each point, and it would be tedious to
carry the condition `P` through them. They are instances of a class instead.
-/

/-- An action that spares everything. -/
class Plain [Referring α] (act : Action α) : Prop where
  confined : Confined (fun _ => True) act fun K x => Avoids K x

section Plain

variable [Referring α] [Referring β]

/-- An action that spares everything spares a set in particular. -/
theorem Confined.of_plain {act : Action α} [h : Plain act] :
    Confined P act fun K x => Avoids K x :=
  h.confined.weaken (fun _ _ => trivial) fun _ _ _ hx => hx

instance plain_pure (x : α) [h : Ground x] : Plain (pure x : Action α) :=
  ⟨.pure fun K _ => h.avoids K⟩

instance plain_throw (f : Fault) : Plain (throw f : Action α) := ⟨.throw f⟩

instance plain_misuse (m : Misuse) : Plain (misuse m : Action α) := ⟨.misuse m⟩

instance plain_read (f : Store → Except Fault α) [h : ∀ x : α, Ground x] : Plain (read f) :=
  ⟨.read fun K _ x _ _ _ => (h x).avoids K⟩

/-- What is put together from actions that spare everything spares everything. -/
theorem Plain.bind {act : Action α} {f : α → Action β} (hact : Plain act) (hf : ∀ x, Plain (f x)) :
    Plain (act >>= f) :=
  ⟨.bind hact.confined fun x => (hf x).confined.weaken (fun _ _ => trivial) fun _ _ _ hx => hx⟩

instance plain_bind {act : Action α} {f : α → Action β} [hact : Plain act]
    [hf : ∀ x, Plain (f x)] : Plain (act >>= f) :=
  hact.bind hf

instance plain_ite {p : Prop} [Decidable p] {act other : Action α} [Plain act] [Plain other] :
    Plain (if p then act else other) := by
  split <;> infer_instance

end Plain

instance plain_make (c : Cell) [h : Ground c] : Plain (make c) :=
  ⟨.make fun K _ => h.avoids K⟩

instance plain_real (x : Float) : Plain (real x) where
  confined :=
    { grows := fun _ => Nat.le_refl _
      spares := fun K s _ hs _ => ⟨⟨hs, fun _ _ => rfl⟩, fun v hv => by cases hv; exact avoids_of_ground⟩
      tuples := fun _ _ hold => hold }

instance plain_tuple (items : List Value) [Ground items] : Plain (tuple items) := plain_make _

instance plain_list (items : List Value) [h : Ground items] : Plain (list items) :=
  ⟨.make fun K _ => h.avoids K⟩

instance plain_kindOf (v : Value) : Plain (kindOf v) := plain_read _

instance plain_wrongKind [Referring α] (v : Value) (m : Kind → Misuse) :
    Plain (wrongKind v m : Action α) := plain_bind

instance plain_integer (v : Value) : Plain (integer v) := plain_read _

instance plain_word (w : Word) (v : Value) : Plain (word w v) := plain_bind

instance plain_repetitions (v : Value) : Plain (repetitions v) := plain_bind

instance plain_checkLength (length : Nat) : Plain (checkLength length) := plain_ite

end Action

end Walkthrough
