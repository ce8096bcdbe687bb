import Walkthrough.Equality
import Walkthrough.Proofs.Sorting.Permutation

/-!
# Displaying an object

What one step of displaying does, for an object that is not being displayed already and with enough
levels left.

A record takes three levels and any other object one. With fewer levels left a record fails, and the
fault says how far the display has come. What is displayed inside gets the levels that are left, and
the object among those that are active.

The definition goes by cases on what a value refers to, on the levels that are left, and on what is
active. The lemmas below take these cases apart once, so that an induction over a display needs to
look at one step only, with the display of the parts left as a function. In this form the texts of
the fields of a record come first, and are put together afterwards, which is how they can be
compared and read back.

## Main definitions

* `Kind.recordText` — a record, given how its fields are displayed

## Main results

* `Store.displayWithin_record`, `Store.displayWithin_object` — a record, and any other object
* `Store.displayRecord_eq`, `Store.displayRecord_of_fields` — a record is displayed by its fields
-/

namespace Walkthrough

open Sorting (bind_eq_ok)

section Traversal

variable {α β γ ε : Type} {xs : List α} {ys : List β}

/-- What comes out of one element after another came out of each of them. -/
theorem forall₂_of_mapM_eq_ok {f : α → Except ε β} (h : xs.mapM f = .ok ys) :
    List.Forall₂ (fun x y => f x = .ok y) xs ys := by
  induction xs generalizing ys with
  | nil =>
    cases h
    exact .nil
  | cons x rest ih =>
    rw [List.mapM_cons] at h
    obtain ⟨y, hy, h⟩ := bind_eq_ok.1 h
    obtain ⟨later, hlater, h⟩ := bind_eq_ok.1 h
    cases h
    exact .cons hy (ih hlater)

/-- The same comes out of two lists if it does element by element. -/
theorem mapM_eq_of_forall₂ {f : α → Except ε γ} {g : β → Except ε γ}
    (h : List.Forall₂ (fun x y => f x = g y) xs ys) : xs.mapM f = ys.mapM g := by
  induction h with
  | nil => rfl
  | cons hfirst _ ih => rw [List.mapM_cons, List.mapM_cons, hfirst, ih]

end Traversal

theorem displayInt_eq (n : Int) :
    displayInt n = if Integer.digitLimit < Integer.digitCount n then .error .tooManyDigits
      else .ok (toString n) := by
  rw [displayInt, Integer.render?]
  by_cases h : Integer.digitCount n ≤ Integer.digitLimit
  · rw [if_pos h, if_neg (Nat.not_lt.2 h)]
  · rw [if_neg h, if_pos (Nat.not_le.1 h)]

/-- An integer with few enough digits is displayed in decimal. -/
theorem displayInt_of_le {n : Int} (h : Integer.digitCount n ≤ Integer.digitLimit) :
    displayInt n = .ok (toString n) := by
  rw [displayInt_eq, if_neg (Nat.not_lt.2 h)]

/-- A record, given how its fields are displayed. -/
def Kind.recordText (k : Kind) (texts : List String) : String :=
  k.name ++ "(" ++
    commaSeparated (List.zipWith (fun name text => name ++ "=" ++ text) k.fieldNames texts) ++ ")"

namespace Store

variable {s : Store} {v : Value} {active : List Value} {level : Nat} {r : Record}

theorem displayWithin_text (t : String) :
    s.displayWithin (level + 1) active (.text t) = .ok (Text.quote t) := rfl

theorem displayWithin_int (n : Int) :
    s.displayWithin (level + 1) active (.int n) = displayInt n := rfl

theorem displayWithin_bool (b : Bool) :
    s.displayWithin (level + 1) active (.bool b) = .ok (if b then "True" else "False") := by
  cases b <;> rfl

/-- A record that is not being displayed already, with three levels taken off for it. -/
theorem displayWithin_record (hcell : s.cell? v = some (.record r)) (hactive : v ∉ active) :
    s.displayWithin (level + 3) active v =
      s.displayRecord (s.displayWithin level (v :: active)) r := by
  cases v with
  | ref a | description d => simp only [displayWithin, hcell, if_neg hactive]
  | _ => cases hcell

/-- Any other object takes one level. -/
theorem displayWithin_object {c : Cell} (hcell : s.cell? v = some c) (hrecord : ∀ r, c ≠ .record r)
    (hactive : v ∉ active) :
    s.displayWithin (level + 1) active v =
      s.displayObject (s.displayWithin level (v :: active)) c := by
  cases v with
  | ref a | description d =>
    cases c with
    | record r => exact absurd rfl (hrecord r)
    | _ => simp only [displayWithin, hcell, if_neg hactive]
  | _ => cases hcell

/-- The fields of a record are displayed one after the other, and then put behind their names. -/
theorem displayRecord_eq (inner : Value → Except Fault String) (r : Record) :
    s.displayRecord inner r = do
      let texts ← r.kind.fieldNames.mapM fun name => s.field r name >>= inner
      return r.kind.recordText texts := by
  have hnamed (names : List String) :
      (names.mapM fun name => do return name ++ "=" ++ (← inner (← s.field r name)) :
        Except Fault (List String)) = do
        let texts ← names.mapM fun name => s.field r name >>= inner
        return List.zipWith (fun name text => name ++ "=" ++ text) names texts := by
    induction names with
    | nil => rfl
    | cons name rest ih =>
      simp only [List.mapM_cons, ih, bind_assoc, pure_bind, List.zipWith_cons_cons]
  rw [displayRecord, hnamed, bind_assoc]
  simp only [pure_bind, Kind.recordText]

/-- A record that has all its fields. -/
theorem displayRecord_of_fields {vs : List Value} (h : s.fields r = .ok vs)
    (inner : Value → Except Fault String) :
    s.displayRecord inner r = do return r.kind.recordText (← vs.mapM inner) := by
  have htexts : (r.kind.fieldNames.mapM fun name => s.field r name >>= inner) = vs.mapM inner := by
    refine mapM_eq_of_forall₂ ((forall₂_of_mapM_eq_ok h).imp fun name v hv => ?_)
    rw [hv]
    rfl
  rw [displayRecord_eq, htexts]

end Store

end Walkthrough
