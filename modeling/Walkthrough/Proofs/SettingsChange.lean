import Walkthrough.Proofs.BuildingConfinement
import Walkthrough.Run

/-!
# Changes of the settings

While lines are emitted, the listener may set attributes of the settings. As long as these keep their
attributes in a dictionary, it is that dictionary that is changed, or the record itself, which may be
given another one; objects of other kinds stay as they are, whatever the settings refer to.

## Why settings must keep a dictionary

A record holds the address of its attributes, and setting one writes a dictionary to that address.
If something else were there, then it would be overwritten. This cannot come about by setting
attributes, since a record is only ever given a dictionary, and that is why the condition is kept
along a schedule of changes: it is assumed of the settings at the beginning, and of nothing else.

## Main definitions

* `Store.KeepsAttributes` — a record with a dictionary
* `Store.ChangesAttributes` — a store in which only records and dictionaries are different

## Main results

* `Store.changesAttributes_assign` — setting one attribute
* `Store.changesAttributes_mutate`, `Store.changesAttributes_emitLines` — emitting lines
-/

namespace Walkthrough

/-- Whether attributes are written to an object: to a record or a dictionary. -/
def Cell.holdsAttributes : Cell → Bool
  | .dict _ | .record _ => true
  | _ => false

namespace Store

variable {s t u : Store} {v w : Value} {name : String}

/-- The value is a record, and its attributes are in a dictionary. -/
def KeepsAttributes (s : Store) (v : Value) : Prop :=
  ∃ a r entries, v = .ref a ∧ s.get? a = some (.record r) ∧
    s.get? r.attributes = some (.dict entries)

/-- Of the objects that there were, those that are neither records nor dictionaries are as they
were, and the value still keeps its attributes. -/
structure ChangesAttributes (v : Value) (s t : Store) : Prop where
  keeps : t.KeepsAttributes v
  get?_eq : ∀ a c, s.get? a = some c → c.holdsAttributes = false → t.get? a = some c

namespace ChangesAttributes

theorem refl (h : s.KeepsAttributes v) : ChangesAttributes v s s := ⟨h, fun _ _ hc _ => hc⟩

theorem trans (hst : ChangesAttributes v s t) (htu : ChangesAttributes v t u) :
    ChangesAttributes v s u :=
  ⟨htu.keeps, fun a c hc hother => htu.get?_eq a c (hst.get?_eq a c hc hother) hother⟩

end ChangesAttributes

/-- Making objects changes nothing. -/
theorem Extends.changesAttributes (hst : s.Extends t) (h : s.KeepsAttributes v) :
    ChangesAttributes v s t := by
  obtain ⟨a, r, entries, rfl, hr, hentries⟩ := h
  exact ⟨⟨a, r, entries, rfl, hst.get?_of_some hr, hst.get?_of_some hentries⟩,
    fun _ _ hc _ => hst.get?_of_some hc⟩

/-! ### Setting one attribute -/

/-- What a record becomes when an attribute is set has its attributes in a dictionary, too. Objects
that are no dictionaries stay as they are. -/
theorem assignRecord_spec {r r' : Record} {entries : Table Value}
    (hr : s.get? r.attributes = some (.dict entries)) (h : s.assignRecord r name w = .ok (r', t)) :
    (∃ others, t.get? r'.attributes = some (.dict others)) ∧
      ∀ a c, s.get? a = some c → (∀ others, c ≠ .dict others) → t.get? a = some c := by
  unfold assignRecord at h
  split at h
  · split at h
    · split at h <;> cases h
      exact ⟨⟨entries, hr⟩, fun _ _ hc _ => hc⟩
    · cases h
  · split at h
    · rename_i hcell
      cases h
      exact ⟨⟨_, hcell⟩, fun _ _ hc _ => hc⟩
    · cases h
      exact ⟨⟨_, get?_alloc_self s _⟩, fun a c hc _ => (extends_alloc s _).get?_of_some hc⟩
    · cases h
  · cases h
  · cases h
    refine ⟨⟨_, get?_put_self (lt_of_get? hr) _⟩, fun a c hc hother => ?_⟩
    have hne : a ≠ r.attributes := by
      rintro rfl
      exact hother entries (Option.some.inj (hc.symm.trans hr))
    rw [putAttribute, get?_put_of_ne hne, hc]

/-- **Setting an attribute** of a record. -/
theorem changesAttributes_assign (hv : s.KeepsAttributes v) (h : s.assign v name w = .ok t) :
    ChangesAttributes v s t := by
  obtain ⟨b, r, entries, rfl, hr, hentries⟩ := hv
  simp only [assign, hr] at h
  obtain ⟨⟨r', u⟩, hassigned, h⟩ := Sorting.bind_eq_ok.1 h
  cases h
  obtain ⟨⟨others, hothers⟩, hrest⟩ := assignRecord_spec hentries hassigned
  have hb : u.get? b = some (.record r) := hrest b _ hr fun _ => nofun
  have hput {a : Addr} {c : Cell} (ha : u.get? a = some c) (hc : ∀ q, c ≠ .record q) :
      (u.put b (.record r')).get? a = some c := by
    have hne : a ≠ b := by
      rintro rfl
      exact hc r (Option.some.inj (ha.symm.trans hb))
    rw [get?_put_of_ne hne, ha]
  refine ⟨⟨b, r', others, rfl, get?_put_self (lt_of_get? hb) _,
    hput hothers fun _ => nofun⟩, fun a c hc hother => ?_⟩
  refine hput (hrest a c hc fun others => ?_) fun q => ?_
  · rintro rfl
    cases hother
  · rintro rfl
    cases hother

/-! ### Emitting lines -/

variable {settings : Value}

/-- By induction on the changes. Each sets an attribute, and the settings keep their attributes for
the next one. -/
theorem changesAttributes_mutate (h : s.KeepsAttributes settings) (vars : Bindings)
    (mutations : List Mutation) :
    ChangesAttributes settings s (s.mutate settings vars mutations).2 := by
  induction mutations generalizing s with
  | nil => exact .refl h
  | cons m rest ih =>
    simp only [mutate]
    rcases hbuilt : m.value.build vars s with f | ⟨w, t⟩
    · exact .refl h
    have hliteral := Literal.confined_build (P := fun K => Referring.Avoids K vars)
      (fun _ hK => hK) m.value
    have hst := (hliteral.extends_of_ok s w t hbuilt).changesAttributes h
    dsimp only
    rcases hassigned : t.assign settings m.field w with f | u
    · exact hst
    · have htu := changesAttributes_assign hst.keeps hassigned
      exact (hst.trans htu).trans (ih htu.keeps)

/-- **Emitting lines** changes records and dictionaries only. -/
theorem changesAttributes_emitLines {listener : Listener} (h : s.KeepsAttributes settings) (k : Nat)
    (lines : List String) :
    ChangesAttributes settings s (emitLines listener settings s k lines).store := by
  induction lines generalizing s k with
  | nil => exact .refl h
  | cons line rest ih =>
    rw [emitLines]
    split
    · exact .refl h
    · have hmutated := changesAttributes_mutate h listener.vars
        (listener.mutations.filter (·.moment = k))
      split
      · rename_i f t hfails
        rwa [hfails] at hmutated
      · rename_i t hchanged
        rw [hchanged] at hmutated
        exact hmutated.trans (ih hmutated.keeps (k + 1))

end Store

end Walkthrough
