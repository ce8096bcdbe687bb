import Walkthrough.Proofs.CallEffect
import Walkthrough.Run

/-!
# The names of steps during a run

A step of a run goes by the name that its record has when its turn comes. Earlier steps may have
changed it, by carrying out an operation of the dictionary in which the record keeps its attributes.
What such an operation can do is known, and so is what can become of a name: it stays, it is taken
away, or it is set to the default that settings have for a name. It never becomes another text, or
something that is no text.

## Why it is the dictionary that is followed

A name belongs to the dictionary in which a record keeps its attributes, and it is the dictionary
that an operation may get at: a person can be given an operation of it, and the settings can be
given the dictionary itself. So the invariant is about an address, and says nothing of the record.
It is kept by every single effect, and therefore by any number of them, and a step has no others.
That a name may get lost is no trouble, since a step without one fails when it is asked for, in a
run of its own as well.

## Main definitions

* `Store.Named` — a dictionary of attributes whose name, if it has one, is a text

## Main results

* `Store.effects_linesOfStep` — a step has the effects of calls, and no other
* `Store.Named.of_effects` — names survive effects
-/

namespace Walkthrough

/-- What is found among entries without the last is found among all of them. -/
theorem Table.get?_of_get?_dropLast {α : Type} [DecidableEq α] {t : Table α} {key : α} {v : Value}
    (h : Table.get? t.dropLast key = some v) : t.get? key = some v := by
  rcases List.eq_nil_or_concat t with rfl | ⟨front, last, rfl⟩
  · exact h
  · rw [List.concat_eq_append, List.dropLast_concat] at h
    rw [get?] at h ⊢
    rw [List.concat_eq_append, List.lookup_append, h, Option.some_or]

namespace Store

/-! ### What a step does to the store

A step reads, adds up, and tells a full name; the first does nothing, the second moves an iterator,
and the third is a call without arguments.
-/

/-- The line about a person is put together when its full name has been found. -/
theorem effects_personLine (s : Store) (v : Value) (levels : Nat) :
    Effects s (s.personLine v levels).2 := by
  have hname := effects_fullName s v (levels - 1)
  unfold personLine
  rcases hfull : s.fullName v (levels - 1) with ⟨_ | _, t⟩
  · rw [hfull] at hname
    exact hname
  · rw [hfull] at hname
    exact hname

/-- By cases on the topic. Sums move an iterator, the person tells its name, and the others read. -/
theorem effects_topicLines (s : Store) (settings : Value) (topic : Topic) :
    Effects s (s.topicLines settings topic).2 := by
  cases topic with
  | greeting | threshold | loop => exact .refl s
  | sum =>
    simp only [topicLines]
    split
    · exact .refl s
    · exact effects_sum s _
  | person =>
    simp only [topicLines]
    split
    · exact .refl s
    · exact effects_personLine s _ _

/-- **A step has effects only.** -/
theorem effects_linesOfStep (s : Store) (steps : List Record) (settings : Value) (e : Record) :
    Effects s (s.linesOfStep steps settings e).2 := by
  unfold linesOfStep stepLines
  split
  · exact .refl s
  · split
    · exact .refl s
    · exact .refl s
    · split
      · exact .refl s
      · exact effects_topicLines s settings _

/-! ### Names

The name of a step is an entry of a dictionary. What can happen to a dictionary is that it is
emptied, that its last entry is taken, or that settings which keep their attributes in it are set up
again.
-/

/-- Entries in which the name, if there is one, is a text that is not empty. -/
def NamesText (entries : Table Value) : Prop :=
  ∀ v, entries.get? (.text "name") = some v → ∃ name, name ≠ "" ∧ v = .text name

/-- At an address are attributes in which the name, if there is one, is a text that is not empty. A
name may get lost, and this stays true then; it is the invariant that every effect keeps. -/
structure Named (s : Store) (a : Addr) : Prop where
  lt_size : a < s.size
  namesText : NamesText (s.attributesAt a)

theorem namesText_nil : NamesText [] := by
  intro v hv
  cases hv

theorem attributesAt_put_self {s : Store} {a : Addr} (h : a < s.size) (entries : Table Value) :
    (s.put a (.dict entries)).attributesAt a = entries := by
  rw [attributesAt, get?_put_self h]

theorem attributesAt_put_of_ne {s : Store} {a b : Addr} (h : b ≠ a) (c : Cell) :
    (s.put a c).attributesAt b = s.attributesAt b := by
  rw [attributesAt, attributesAt, get?_put_of_ne h]

/-- A field is an attribute like any other. -/
theorem assignRecord_of_mem_fieldNames {s : Store} {r : Record} {name : String} {w : Value}
    (h : name ∈ Settings.fieldNames) :
    s.assignRecord r name w = .ok (r, s.putAttribute r name w) := by
  simp only [Settings.fieldNames, List.mem_cons, List.not_mem_nil, or_false] at h
  rcases h with rfl | rfl | rfl | rfl | rfl | rfl | rfl <;> rfl

namespace Named

variable {s t : Store} {a : Addr}

/-- Another dictionary in place of the attributes must name a text as well. -/
theorem put_dict (h : s.Named a) (b : Addr) {entries : Table Value}
    (hentries : b = a → NamesText entries) : (s.put b (.dict entries)).Named a := by
  refine ⟨by simpa using h.lt_size, ?_⟩
  by_cases hb : b = a
  · subst hb
    rw [attributesAt_put_self h.lt_size]
    exact hentries rfl
  · rw [attributesAt_put_of_ne (Ne.symm hb)]
    exact h.namesText

/-- Anything else in place of the attributes leaves none of them. -/
theorem put (h : s.Named a) (b : Addr) {c : Cell} (hc : ∀ entries, c ≠ .dict entries) :
    (s.put b c).Named a := by
  refine ⟨by simpa using h.lt_size, ?_⟩
  by_cases hb : b = a
  · subst hb
    rw [attributesAt, get?_put_self h.lt_size]
    split
    · rename_i hcell
      exact absurd (Option.some.inj hcell) (hc _)
    · exact namesText_nil
  · rw [attributesAt_put_of_ne (Ne.symm hb)]
    exact h.namesText

/-- A field of settings is set to its default. If it is the name, then the default is a text. -/
theorem of_reset (h : s.Named a) {v w : Value} {name : String}
    (hname : name ∈ Settings.fieldNames)
    (hdefault : ∀ d, Settings.defaults.get? name = some d → w = d)
    (hassign : s.assign v name w = .ok t) : t.Named a := by
  unfold assign at hassign
  split at hassign
  · split at hassign
    · rename_i r _
      rw [assignRecord_of_mem_fieldNames hname] at hassign
      cases hassign
      refine put (h.put_dict _ fun hra => ?_) _ (by simp)
      intro d hd
      by_cases hself : name = "name"
      · subst hself
        rw [Table.get?_put_self] at hd
        cases hd
        exact ⟨Settings.defaultName, by decide, hdefault _ rfl⟩
      · rw [Table.get?_put_of_ne (by simpa using Ne.symm hself), hra] at hd
        exact h.namesText d hd
    · cases hassign
  · split at hassign <;> cases hassign
    exact h
  · split at hassign <;> cases hassign
    exact h
  · cases hassign

/-- By cases on the effect. -/
theorem of_effect (h : s.Named a) (heffect : Effect s t) : t.Named a := by
  cases heffect with
  | make c =>
    refine ⟨by rw [size_alloc]; exact Nat.lt_succ_of_lt h.lt_size, ?_⟩
    rw [attributesAt, get?_alloc_of_lt h.lt_size]
    exact h.namesText
  | mark => exact ⟨h.lt_size, h.namesText⟩
  | refill _ others => exact h.put _ (by simp)
  | move _ moved => exact h.put _ (by simp)
  | empty _ => exact h.put_dict _ fun _ => namesText_nil
  | @dropLast b entries hb =>
    refine h.put_dict b fun hba v hv => ?_
    have hall : s.attributesAt a = entries := by rw [attributesAt, ← hba, hb]
    exact h.namesText v (by rw [hall]; exact Table.get?_of_get?_dropLast hv)
  | reset hname hdefault hassign => exact h.of_reset hname hdefault hassign

/-- **Names survive.** What was a name is one still, if it has not been taken away. -/
theorem of_effects (h : s.Named a) (heffects : Effects s t) : t.Named a :=
  heffects.keep (I := fun u => u.Named a) (fun _ _ heffect hu => hu.of_effect heffect) h

/-- Only settings hold a name for records that lack one. -/
theorem fieldDefault?_name {k : Kind} {v : Value} (h : k.fieldDefault? "name" = some v) :
    v = .text Settings.defaultName := by
  unfold Kind.fieldDefault? at h
  split at h
  · exact (Option.some.inj h).symm
  · cases h

/-- A record whose name is a text that is not empty. -/
theorem of_field {e : Record} {name : String} (hlt : e.attributes < s.size) (hne : name ≠ "")
    (h : s.field e "name" = .ok (.text name)) : s.Named e.attributes := by
  refine ⟨hlt, fun v hv => ⟨name, hne, ?_⟩⟩
  have hattribute : s.attribute? e "name" = some v := hv
  simp only [field, field?, hattribute, Option.some_or, Except.ok.injEq] at h
  exact h

/-- The name of such a record is a text that is not empty, or it has none at all. -/
theorem field_name {e : Record} (h : s.Named e.attributes) :
    (∃ f, s.field e "name" = .error f) ∨
      ∃ name, name ≠ "" ∧ s.field e "name" = .ok (.text name) := by
  rcases hattribute : s.attribute? e "name" with _ | v
  · rcases hdefault : e.kind.fieldDefault? "name" with _ | v
    · exact .inl ⟨_, by rw [field, field?, hattribute, hdefault, Option.none_or]⟩
    · refine .inr ⟨Settings.defaultName, by decide, ?_⟩
      rw [field, field?, hattribute, hdefault, Option.none_or, fieldDefault?_name hdefault]
  · obtain ⟨name, hne, rfl⟩ := h.namesText v hattribute
    exact .inr ⟨name, hne, by simp only [field, field?, hattribute, Option.some_or]⟩

end Named

end Store

end Walkthrough
