import Walkthrough.Proofs.DecimalText
import Walkthrough.Proofs.Displaying
import Walkthrough.Proofs.QuotedText

/-!
# Equality and display of records

Two persons of which every field holds what it is meant to hold are equal exactly if they are
displayed alike, and so are two settings. One direction says that nothing that is displayed goes
beyond what is compared. The other one says that a display can be read back: texts may hold
anything, also what looks like the name of the next field, and numbers and lists are told apart from
what follows only by where they end.

A truth value equals an integer and is displayed otherwise, so the integers are meant to be
integers. An integer with too many digits is not displayed at all.

## Reading back

A display is a text without any mark that tells where a field ends, but for what the texts of the
fields say by themselves. So each kind of field is shown to be readable in front of anything: if two
texts with something behind them are the same, then so are the values, and so is what is behind. For
quoted text this is a property of the quotes. For an integer something must follow that does not go
on like an integer, and the brackets and commas around are of this sort. Put one behind the other,
the fields of a record are read back from left to right.

## Levels

Comparing and displaying go down a few levels, and persons and settings are never deeper than these.
The levels are written as a number and something that is left, so that nothing has to be calculated.

## Main definitions

* `PersonFields`, `SettingsFields` — what the fields of a record hold
* `PersonFields.text`, `SettingsFields.text` — how they are displayed
* `Store.HoldsPerson`, `Store.HoldsSettings` — records of which every field holds what it is meant to

## Main results

* `PersonFields.text_append_inj`, `SettingsFields.text_inj` — a display can be read back
* `Store.display_of_holdsSettings`, `Store.equal_of_holdsSettings` — what display and equality give
* `equal_iff_display_eq` — equality is being displayed alike
-/

namespace Walkthrough

open Integer (digitCount digitLimit toString_append_inj)
open Text (quoteChars quoteChars_append_inj)

/-! ### What is held -/

/-- What the fields of a person hold. -/
structure PersonFields where
  firstName : String
  lastName : String
  age : Int
deriving DecidableEq

/-- What the fields of settings hold. -/
structure SettingsFields where
  greeting : String
  name : String
  count : Int
  iterations : Int
  numbers : List Int
  person : PersonFields
  isActive : Bool
deriving DecidableEq

namespace PersonFields

/-- The age does not have too many digits to be written. -/
def Fits (x : PersonFields) : Prop := digitCount x.age ≤ digitLimit

/-- How a person is displayed. -/
def text (x : PersonFields) : String :=
  Kind.person.recordText [Text.quote x.firstName, Text.quote x.lastName, toString x.age]

end PersonFields

/-- How a list of integers is displayed. -/
def numbersText (numbers : List Int) : String := "[" ++ commaSeparated (numbers.map toString) ++ "]"

namespace SettingsFields

/-- No integer has too many digits to be written. -/
structure Fits (x : SettingsFields) : Prop where
  count : digitCount x.count ≤ digitLimit
  iterations : digitCount x.iterations ≤ digitLimit
  numbers : ∀ n ∈ x.numbers, digitCount n ≤ digitLimit
  person : x.person.Fits

/-- How settings are displayed. -/
def text (x : SettingsFields) : String :=
  Kind.settings.recordText [Text.quote x.greeting, Text.quote x.name, toString x.count,
    toString x.iterations, numbersText x.numbers, x.person.text,
    if x.isActive then "True" else "False"]

end SettingsFields

namespace Store

/-! ### Persons and settings that are held -/

/-- A person of which every field holds what it is meant to. The fields are those that the record
has now, in the sequence in which its kind declares them. -/
def HoldsPerson (s : Store) (v : Value) (x : PersonFields) : Prop :=
  ∃ r, s.cell? v = some (.record r) ∧ r.kind = .person ∧
    s.fields r = .ok [.text x.firstName, .text x.lastName, .int x.age]

/-- Settings of which every field holds what it is meant to. -/
def HoldsSettings (s : Store) (v : Value) (x : SettingsFields) : Prop :=
  ∃ r numbers person, s.cell? v = some (.record r) ∧ r.kind = .settings ∧
    s.fields r = .ok [.text x.greeting, .text x.name, .int x.count, .int x.iterations, numbers,
      person, .bool x.isActive] ∧
    s.cell? numbers = some (.list (x.numbers.map .int)) ∧ s.HoldsPerson person x.person

end Store

/-! ### Reading a display back

From the inside to the outside: an integer of a list, the list, the person, the settings.
-/

/-- **A person is read back**, in front of whatever follows. -/
theorem PersonFields.text_append_inj {x y : PersonFields} {r r' : List Char}
    (h : x.text.toList ++ r = y.text.toList ++ r') : x = y ∧ r = r' := by
  have htext (x : PersonFields) : x.text.toList = "Person(first_name=".toList ++
      (quoteChars x.firstName.toList ++ (", last_name=".toList ++ (quoteChars x.lastName.toList ++
      (", age=".toList ++ ((toString x.age).toList ++ [')']))))) := by
    simp [PersonFields.text, Kind.recordText, Kind.name, Kind.fieldNames, Person.fieldNames,
      commaSeparated, Text.quote]
  simp only [htext, List.append_assoc] at h
  obtain ⟨hfirst, h⟩ := quoteChars_append_inj (List.append_cancel_left h)
  obtain ⟨hlast, h⟩ := quoteChars_append_inj (List.append_cancel_left h)
  obtain ⟨hage, h⟩ := toString_append_inj (by decide) (by decide) (List.append_cancel_left h)
  rw [String.toList_inj] at hfirst hlast
  exact ⟨by cases x; cases y; simp_all, (List.cons.inj h).2⟩

theorem PersonFields.text_inj {x y : PersonFields} (h : x.text = y.text) : x = y := by
  have happend : x.text.toList ++ [] = y.text.toList ++ [] := by rw [h]
  exact (PersonFields.text_append_inj happend).1

/-- The integers of a list after the first one. -/
def laterNumbers (numbers : List Int) : List Char :=
  numbers.flatMap fun n => ',' :: ' ' :: (toString n).toList

theorem laterNumbers_cons (n : Int) (numbers : List Int) :
    laterNumbers (n :: numbers) = ',' :: ' ' :: ((toString n).toList ++ laterNumbers numbers) := rfl

theorem intercalate_cons_eq (n : Int) (numbers : List Int) :
    [',', ' '].intercalate ((n :: numbers).map fun n => (toString n).toList) =
      (toString n).toList ++ laterNumbers numbers := by
  induction numbers generalizing n with
  | nil => simp [laterNumbers]
  | cons m rest ih =>
    have hrest := ih m
    rw [List.map_cons] at hrest
    rw [List.map_cons, List.map_cons, List.intercalate_cons_cons, hrest, laterNumbers_cons,
      List.append_assoc]
    rfl

/-- A list that is not empty, character by character. -/
theorem toList_numbersText_cons (n : Int) (numbers : List Int) :
    (numbersText (n :: numbers)).toList =
      '[' :: ((toString n).toList ++ (laterNumbers numbers ++ [']'])) := by
  rw [← List.append_assoc, ← intercalate_cons_eq]
  simp [numbersText, commaSeparated, String.toList_intercalate, Function.comp_def]

/-- What follows an integer of a list does not go on like an integer. -/
theorem laterNumbers_append_eq (numbers : List Int) (r : List Char) :
    ∃ c cs, (c ≠ '-' ∧ c.isDigit = false) ∧ laterNumbers numbers ++ ']' :: r = c :: cs := by
  cases numbers with
  | nil => exact ⟨']', r, by decide, rfl⟩
  | cons n rest => exact ⟨',', _, by decide, rfl⟩

/-- An integer of a list is read back, and so is what follows it. -/
theorem number_append_inj {m n : Int} {ms ns : List Int} {r r' : List Char}
    (h : (toString m).toList ++ (laterNumbers ms ++ ']' :: r) =
      (toString n).toList ++ (laterNumbers ns ++ ']' :: r')) :
    m = n ∧ laterNumbers ms ++ ']' :: r = laterNumbers ns ++ ']' :: r' := by
  obtain ⟨c, cs, hc, hms⟩ := laterNumbers_append_eq ms r
  obtain ⟨d, ds, hd, hns⟩ := laterNumbers_append_eq ns r'
  rw [hms, hns] at h ⊢
  exact toString_append_inj hc hd h

/-- By induction on the first list. The bracket at its end is no comma, so the second list ends
there, too. -/
theorem laterNumbers_append_inj {ms ns : List Int} {r r' : List Char}
    (h : laterNumbers ms ++ ']' :: r = laterNumbers ns ++ ']' :: r') : ms = ns ∧ r = r' := by
  induction ms generalizing ns with
  | nil =>
    cases ns with
    | nil => exact ⟨rfl, (List.cons.inj h).2⟩
    | cons n ns => cases (List.cons.inj h).1
  | cons m ms ih =>
    cases ns with
    | nil => cases (List.cons.inj h).1
    | cons n ns =>
      simp only [laterNumbers_cons, List.cons_append, List.append_assoc] at h
      obtain ⟨rfl, hlater⟩ := number_append_inj (List.cons.inj (List.cons.inj h).2).2
      obtain ⟨rfl, rfl⟩ := ih hlater
      exact ⟨rfl, rfl⟩

/-- The bracket that closes a list does not begin an integer. -/
theorem toString_append_ne (n : Int) (cs r : List Char) :
    (toString n).toList ++ cs ≠ ']' :: r := by
  intro h
  obtain ⟨c, rest, htext⟩ := List.exists_cons_of_ne_nil (Integer.toList_toString_ne_nil n)
  rw [htext, List.cons_append] at h
  refine Integer.notMem_toString (c := ']') (by decide) (by decide) n ?_
  rw [htext, (List.cons.inj h).1]
  exact List.mem_cons_self

/-- **A list of integers is read back**, in front of whatever follows. -/
theorem numbersText_append_inj {ms ns : List Int} {r r' : List Char}
    (h : (numbersText ms).toList ++ r = (numbersText ns).toList ++ r') : ms = ns ∧ r = r' := by
  have hempty : (numbersText []).toList = ['[', ']'] := by decide
  cases ms with
  | nil =>
    cases ns with
    | nil => exact ⟨rfl, List.append_cancel_left h⟩
    | cons n ns =>
      simp only [hempty, toList_numbersText_cons, List.cons_append, List.append_assoc] at h
      exact absurd (List.cons.inj h).2.symm (toString_append_ne n _ _)
  | cons m ms =>
    cases ns with
    | nil =>
      simp only [hempty, toList_numbersText_cons, List.cons_append, List.append_assoc] at h
      exact absurd (List.cons.inj h).2 (toString_append_ne m _ _)
    | cons n ns =>
      simp only [toList_numbersText_cons, List.cons_append, List.append_assoc, List.nil_append] at h
      obtain ⟨rfl, hlater⟩ := number_append_inj (List.cons.inj h).2
      obtain ⟨rfl, rfl⟩ := laterNumbers_append_inj hlater
      exact ⟨rfl, rfl⟩

/-- **Settings are read back.** -/
theorem SettingsFields.text_inj {x y : SettingsFields} (h : x.text = y.text) : x = y := by
  have htext (x : SettingsFields) : x.text.toList = "DemoConfig(greeting=".toList ++
      (quoteChars x.greeting.toList ++ (", name=".toList ++ (quoteChars x.name.toList ++
      (", count=".toList ++ ((toString x.count).toList ++ ',' :: (" iterations=".toList ++
      ((toString x.iterations).toList ++ ',' :: (" numbers=".toList ++
      ((numbersText x.numbers).toList ++ (", person=".toList ++ (x.person.text.toList ++
      (", is_active=".toList ++ ((if x.isActive then "True" else "False").toList ++
      [')']))))))))))))) := by
    simp [SettingsFields.text, Kind.recordText, Kind.name, Kind.fieldNames, Settings.fieldNames,
      commaSeparated, Text.quote]
  rw [← String.toList_inj, htext, htext] at h
  obtain ⟨hgreeting, h⟩ := quoteChars_append_inj (List.append_cancel_left h)
  obtain ⟨hname, h⟩ := quoteChars_append_inj (List.append_cancel_left h)
  obtain ⟨hcount, h⟩ := toString_append_inj (by decide) (by decide) (List.append_cancel_left h)
  obtain ⟨hiterations, h⟩ := toString_append_inj (by decide) (by decide)
    (List.append_cancel_left (List.cons.inj h).2)
  obtain ⟨hnumbers, h⟩ := numbersText_append_inj (List.append_cancel_left (List.cons.inj h).2)
  obtain ⟨hperson, h⟩ := PersonFields.text_append_inj (List.append_cancel_left h)
  have hactive : x.isActive = y.isActive := by
    have hword := List.append_cancel_right (List.append_cancel_left h)
    cases hx : x.isActive <;> cases hy : y.isActive <;> simp_all
  rw [String.toList_inj] at hgreeting hname
  cases x
  cases y
  simp_all

namespace Store

variable {s : Store} {v w : Value} {active : List Value} {level : Nat}

/-! ### What is displayed

Nothing is active that could be met again, since the objects are of different kinds.
-/

/-- **A list of integers** is displayed by its elements. -/
theorem display_numbers {numbers : List Int} (hcell : s.cell? v = some (.list (numbers.map .int)))
    (hfits : ∀ n ∈ numbers, digitCount n ≤ digitLimit) (hactive : v ∉ active) :
    s.displayWithin (level + 2) active v = .ok (numbersText numbers) := by
  have hitems : (numbers.map Value.int).mapM (s.displayWithin (level + 1) (v :: active)) =
      .ok (numbers.map toString) :=
    calc (numbers.map Value.int).mapM (s.displayWithin (level + 1) (v :: active))
      _ = numbers.mapM fun n => pure (toString n) :=
        mapM_eq_of_forall₂ (List.forall₂_map_left_iff.2 (List.forall₂_same.2 fun n hn =>
          displayInt_of_le (hfits n hn)))
      _ = .ok (numbers.map toString) := List.mapM_pure
  rw [displayWithin_object hcell (fun _ => nofun) hactive, displayObject, hitems]
  rfl

/-- **A person** is displayed by its fields. -/
theorem display_of_holdsPerson {x : PersonFields} (h : s.HoldsPerson v x) (hfits : x.Fits)
    (hactive : v ∉ active) : s.displayWithin (level + 4) active v = .ok x.text := by
  obtain ⟨r, hcell, hkind, hfields⟩ := h
  rw [displayWithin_record hcell hactive, displayRecord_of_fields hfields, hkind]
  simp only [List.mapM_cons, List.mapM_nil, displayWithin_text, displayWithin_int,
    displayInt_of_le hfits, bind, Except.bind]
  rfl

/-- **Settings** are displayed by their fields. -/
theorem display_of_holdsSettings {x : SettingsFields} (h : s.HoldsSettings v x) (hfits : x.Fits) :
    s.displayWithin (level + 7) [] v = .ok x.text := by
  obtain ⟨r, numbers, person, hcell, hkind, hfields, hnumbers, hperson⟩ := h
  -- neither the list nor the person is the settings that are being displayed
  have hne : numbers ∉ [v] := by
    rw [List.mem_singleton]
    rintro rfl
    rw [hcell] at hnumbers
    cases hnumbers
  have hne' : person ∉ [v] := by
    rw [List.mem_singleton]
    rintro rfl
    obtain ⟨q, hq, hperson, -⟩ := hperson
    rw [hcell] at hq
    cases hq
    rw [hkind] at hperson
    cases hperson
  rw [displayWithin_record hcell List.not_mem_nil, displayRecord_of_fields hfields, hkind]
  simp only [List.mapM_cons, List.mapM_nil, displayWithin_text, displayWithin_int,
    displayWithin_bool, displayInt_of_le hfits.count, displayInt_of_le hfits.iterations,
    display_numbers hnumbers hfits.numbers hne, display_of_holdsPerson hperson hfits.person hne',
    bind, Except.bind]
  rfl

/-! ### What is compared

Comparing two records compares their fields in sequence, and stops at the first that are different.
It does not fail on the way here, so it says whether all are the same.
-/

/-- Equality of the parts of collections and records, with the levels that are left. A part is
compared by identity first, and this is where no level is used. -/
def sameWithin (s : Store) (level : Nat) (v w : Value) : Except Fault Bool :=
  if v = w then .ok true else s.equalWithin level v w

/-- Asking for identity first makes no difference to the answer, if what is asked holds of a value
and itself. -/
theorem sameWithin_eq_ok {p : Prop} [Decidable p] (h : s.equalWithin level v w = .ok (decide p))
    (hself : v = w → p) : s.sameWithin level v w = .ok (decide p) := by
  rw [sameWithin]
  split
  · next heq => rw [decide_eq_true (hself heq)]
  · exact h

/-- Two sequences are compared from the front. -/
theorem partsEqual_cons {same : Value → Value → Except Fault Bool} {vs ws : List Value} {p q : Prop}
    [Decidable p] [Decidable q] (hfirst : same v w = .ok (decide p))
    (hrest : partsEqual same vs ws = .ok (decide q)) :
    partsEqual same (v :: vs) (w :: ws) = .ok (decide (p ∧ q)) := by
  rw [partsEqual, hfirst, hrest]
  by_cases hp : p <;> simp [hp, bind, Except.bind, pure, Except.pure]

theorem sameWithin_text (t u : String) :
    s.sameWithin (level + 1) (.text t) (.text u) = .ok (decide (t = u)) :=
  sameWithin_eq_ok (by simp [equalWithin, Value.number?, cell?]) Value.text.inj

theorem sameWithin_int (m n : Int) :
    s.sameWithin (level + 1) (.int m) (.int n) = .ok (decide (m = n)) :=
  sameWithin_eq_ok (by simp [equalWithin, Value.number?]) Value.int.inj

theorem sameWithin_bool (b c : Bool) :
    s.sameWithin (level + 1) (.bool b) (.bool c) = .ok (decide (b = c)) :=
  sameWithin_eq_ok (by cases b <;> cases c <;> simp [equalWithin, Value.number?]) Value.bool.inj

/-- Two objects are compared part by part. -/
theorem equalWithin_objects {c d : Cell} (hv : s.cell? v = some c) (hw : s.cell? w = some d) :
    s.equalWithin (level + 3) v w = if v = w && !c.kind.isRecord then .ok true
      else s.equalObjects (s.sameWithin (level + 2)) (s.sameWithin level) c d := by
  have hnumber : v.number? = none := by
    cases v <;> first | rfl | cases hv
  rw [equalWithin]
  · simp only [hnumber, hv, hw]
    rfl
  · rintro r t rfl
    cases hv

/-- Two records of one kind are compared field by field. -/
theorem equalWithin_record {q r : Record} {vs ws : List Value}
    (hv : s.cell? v = some (.record q)) (hw : s.cell? w = some (.record r))
    (hkind : q.kind = r.kind) (hrecord : q.kind.isRecord) (hvs : s.fields q = .ok vs)
    (hws : s.fields r = .ok ws) :
    s.equalWithin (level + 3) v w = partsEqual (s.sameWithin level) vs ws := by
  have hidentical : (decide (v = w) && !(Cell.record q).kind.isRecord) = false := by
    simp [Cell.kind, hrecord]
  rw [equalWithin_objects hv hw, hidentical, equalObjects, if_pos hkind, hvs, hws]
  rfl

theorem partsEqual_numbers (ms ns : List Int) :
    partsEqual (s.sameWithin (level + 1)) (ms.map .int) (ns.map .int) = .ok (decide (ms = ns)) := by
  induction ms generalizing ns with
  | nil => cases ns <;> rfl
  | cons m ms ih =>
    cases ns with
    | nil => rfl
    | cons n ns =>
      rw [List.map_cons, List.map_cons, partsEqual_cons (sameWithin_int m n) (ih ns)]
      simp only [List.cons.injEq]

/-- **Lists of integers** are equal if they are the same. -/
theorem sameWithin_numbers {ms ns : List Int} (hv : s.cell? v = some (.list (ms.map .int)))
    (hw : s.cell? w = some (.list (ns.map .int))) :
    s.sameWithin (level + 4) v w = .ok (decide (ms = ns)) := by
  have hself (h : v = w) : ms = ns := by
    rw [h, hw] at hv
    have hinjective : Function.Injective (List.map Value.int) :=
      List.map_injective_iff.2 fun _ _ => Value.int.inj
    exact (hinjective (Cell.list.inj (Option.some.inj hv))).symm
  refine sameWithin_eq_ok ?_ hself
  rw [equalWithin_objects hv hw, equalObjects, List.length_map, List.length_map,
    partsEqual_numbers]
  split
  · next hidentical =>
    have heq : v = w := by simpa using (Bool.and_eq_true_iff.1 hidentical).1
    rw [decide_eq_true (hself heq)]
  · split
    · rfl
    · next hlength => rw [decide_eq_false fun h => hlength (congrArg List.length h)]

/-- **Persons** are equal if their fields are. -/
theorem equal_of_holdsPerson {x y : PersonFields} (hv : s.HoldsPerson v x)
    (hw : s.HoldsPerson w y) : s.equalWithin (level + 4) v w = .ok (decide (x = y)) := by
  obtain ⟨q, hq, hqkind, hqfields⟩ := hv
  obtain ⟨r, hr, hrkind, hrfields⟩ := hw
  rw [equalWithin_record hq hr (hqkind.trans hrkind.symm) (by rw [hqkind]; rfl) hqfields hrfields,
    partsEqual_cons (sameWithin_text _ _) (partsEqual_cons (sameWithin_text _ _)
      (partsEqual_cons (q := True) (sameWithin_int _ _) rfl))]
  cases x
  cases y
  simp only [PersonFields.mk.injEq, and_true]

/-- A person holds what it holds and nothing else. -/
theorem holdsPerson_unique {x y : PersonFields} (hx : s.HoldsPerson v x) (hy : s.HoldsPerson v y) :
    x = y := by
  obtain ⟨q, hq, -, hqfields⟩ := hx
  obtain ⟨r, hr, -, hrfields⟩ := hy
  rw [hq] at hr
  cases hr
  rw [hqfields] at hrfields
  cases x
  cases y
  simp_all

/-- **Settings** are equal if their fields are. -/
theorem equal_of_holdsSettings {x y : SettingsFields} (hv : s.HoldsSettings v x)
    (hw : s.HoldsSettings w y) : s.equalWithin (level + 8) v w = .ok (decide (x = y)) := by
  obtain ⟨q, numbers, person, hq, hqkind, hqfields, hqnumbers, hqperson⟩ := hv
  obtain ⟨r, numbers', person', hr, hrkind, hrfields, hrnumbers, hrperson⟩ := hw
  have hperson : s.sameWithin (level + 5) person person' = .ok (decide (x.person = y.person)) :=
    sameWithin_eq_ok (equal_of_holdsPerson hqperson hrperson) fun h =>
      holdsPerson_unique (h ▸ hqperson) hrperson
  rw [equalWithin_record hq hr (hqkind.trans hrkind.symm) (by rw [hqkind]; rfl) hqfields hrfields,
    partsEqual_cons (sameWithin_text _ _) (partsEqual_cons (sameWithin_text _ _)
      (partsEqual_cons (sameWithin_int _ _) (partsEqual_cons (sameWithin_int _ _)
      (partsEqual_cons (sameWithin_numbers hqnumbers hrnumbers) (partsEqual_cons hperson
      (partsEqual_cons (q := True) (sameWithin_bool _ _) rfl))))))]
  cases x
  cases y
  simp only [SettingsFields.mk.injEq, and_true]

end Store

/-- **Equality is being displayed alike**, of settings and of persons of which every field holds what
it is meant to hold. -/
theorem equal_iff_display_eq (s : Store) (v w : Value) :
    (∀ x y, s.HoldsSettings v x → x.Fits → s.HoldsSettings w y → y.Fits →
      ∃ t u, s.display v = .ok t ∧ s.display w = .ok u ∧ s.equal v w = .ok (decide (t = u))) ∧
    (∀ x y, s.HoldsPerson v x → x.Fits → s.HoldsPerson w y → y.Fits →
      ∃ t u, s.display v = .ok t ∧ s.display w = .ok u ∧ s.equal v w = .ok (decide (t = u))) := by
  constructor
  · intro x y hv hx hw hy
    have htext : x = y ↔ x.text = y.text := ⟨congrArg _, SettingsFields.text_inj⟩
    refine ⟨x.text, y.text, Store.display_of_holdsSettings hv hx,
      Store.display_of_holdsSettings hw hy, ?_⟩
    rw [Store.equal, callLevels, Store.equal_of_holdsSettings hv hw, decide_eq_decide.2 htext]
  · intro x y hv hx hw hy
    have htext : x = y ↔ x.text = y.text := ⟨congrArg _, PersonFields.text_inj⟩
    refine ⟨x.text, y.text, Store.display_of_holdsPerson hv hx List.not_mem_nil,
      Store.display_of_holdsPerson hw hy List.not_mem_nil, ?_⟩
    rw [Store.equal, callLevels, Store.equal_of_holdsPerson hv hw, decide_eq_decide.2 htext]

/-- Settings and persons, two of each. The last name of the first person imitates the age, and the
first name of the second one imitates the last name and has quotes of both kinds. -/
def lookalikes : Store where
  cells := #[.dict (.ofNames (Person.make (.text "Ann") (.text "Lee', age=3") (.int (-4)))),
    .record ⟨.person, 0⟩,
    .list [.int 1, .int (-23)],
    .dict (.ofNames (Settings.withDefaults (.ref 2) (.ref 1))),
    .record ⟨.settings, 3⟩,
    .dict (.ofNames (Person.make (.text "Ann', last_name='\"\\\n\u0007") (.text "") (.int 3))),
    .record ⟨.person, 5⟩,
    .list [.int 1, .int (-23)],
    .dict (.ofNames (Settings.withDefaults (.ref 7) (.ref 6))),
    .record ⟨.settings, 8⟩]

theorem equal_iff_display_eq_lookalikes :
    (∃ t u, lookalikes.display (.ref 4) = .ok t ∧ lookalikes.display (.ref 9) = .ok u ∧
      lookalikes.equal (.ref 4) (.ref 9) = .ok (decide (t = u))) ∧
    (∃ t u, lookalikes.display (.ref 1) = .ok t ∧ lookalikes.display (.ref 6) = .ok u ∧
      lookalikes.equal (.ref 1) (.ref 6) = .ok (decide (t = u))) := by
  let ann : PersonFields := ⟨"Ann", "Lee', age=3", -4⟩
  let other : PersonFields := ⟨"Ann', last_name='\"\\\n\u0007", "", 3⟩
  let settings (person : PersonFields) : SettingsFields :=
    ⟨"Hello, World!", "Alice", 10, 3, [1, -23], person, true⟩
  have hann : lookalikes.HoldsPerson (.ref 1) ann := ⟨⟨.person, 0⟩, rfl, rfl, rfl⟩
  have hother : lookalikes.HoldsPerson (.ref 6) other := ⟨⟨.person, 5⟩, rfl, rfl, rfl⟩
  have hsmall : ∀ n ∈ [1, 3, 10, -4, -23], digitCount n ≤ digitLimit := by decide
  have hann' : ann.Fits := hsmall (-4) (by decide)
  have hother' : other.Fits := hsmall 3 (by decide)
  have hnumbers : ∀ n ∈ [1, -23], n ∈ [1, 3, 10, -4, -23] := by decide
  have hfits (person : PersonFields) (h : person.Fits) : (settings person).Fits :=
    ⟨hsmall 10 (by decide), hsmall 3 (by decide), fun n hn => hsmall n (hnumbers n hn), h⟩
  refine ⟨(equal_iff_display_eq lookalikes (.ref 4) (.ref 9)).1 (settings ann) (settings other)
      ⟨⟨.settings, 3⟩, .ref 2, .ref 1, rfl, rfl, rfl, rfl, hann⟩ (hfits ann hann')
      ⟨⟨.settings, 8⟩, .ref 7, .ref 6, rfl, rfl, rfl, rfl, hother⟩ (hfits other hother'),
    (equal_iff_display_eq lookalikes (.ref 1) (.ref 6)).2 ann other hann hann' hother
      hother'⟩

end Walkthrough
