import Mathlib.Algebra.Group.Nat.Defs
import Walkthrough.Text.Integer

/-!
# Integers and their texts

Different integers have different texts, and a text of at most `digitLimit` digits is read as the
integer that it is the text of. There is nothing in it but digits and a sign.

## Two bounds

An integer may be too large to be written, and a text of too many digits is not read. Both limits
are about the number of digits, and they are the same number, so that what can be written can be
read back. That an integer has more digits than a certain number is a bound on its size, which can
be told without writing it out.

What is said of the text of an integer goes in three steps: which characters occur in it, that it is
told apart from others also in front of something else, and that it is read back. The first is what
the other two rest on.

## Main results

* `Integer.lt_digitCount_iff` — the number of digits is a bound on the size
* `Integer.toString_inj` — different integers have different texts
* `Integer.toString_append_inj` — so they do in front of something else
* `Integer.notMem_toString` — what is neither a digit nor the sign does not occur
* `Integer.read?_toString` — reading what has been written
-/

namespace Walkthrough.Integer

open Text

/-- An integer has more than `k` digits if it is at least as large as the first number that has. -/
theorem lt_digitCount_iff {n : Int} {k : Nat} (hk : 0 < k) :
    k < digitCount n ↔ 10 ^ k ≤ n.natAbs := by
  rw [← Nat.not_le, digitCount, Nat.length_toDigits_le_iff (by decide) hk, Nat.not_lt]

/-! ### What a text consists of

Digits and a sign, so that brackets, commas and letters do not occur.
-/

theorem isDigit_of_mem_repr {k : Nat} {c : Char} (h : c ∈ k.repr.toList) : c.isDigit := by
  rw [Nat.repr_eq_ofList_toDigits, String.toList_ofList] at h
  exact Nat.isDigit_of_mem_toDigits (by decide) (by decide) h

/-- The text of an integer consists of digits, with a sign in front of them at most. -/
theorem mem_toString {n : Int} {c : Char} (h : c ∈ (toString n).toList) : c = '-' ∨ c.isDigit := by
  change c ∈ n.repr.toList at h
  rw [Int.repr_eq_if] at h
  split at h
  · exact .inr (isDigit_of_mem_repr h)
  · rw [String.toList_append, List.mem_append] at h
    rcases h with hsign | hdigits
    · exact .inl (List.mem_singleton.1 hsign)
    · exact .inr (isDigit_of_mem_repr hdigits)

theorem notMem_toString {c : Char} (hsign : c ≠ '-') (hdigit : c.isDigit = false) (n : Int) :
    c ∉ (toString n).toList := by
  intro h
  rcases mem_toString h with rfl | h
  · exact hsign rfl
  · rw [hdigit] at h
    cases h

theorem toList_toString_ne_nil (n : Int) : (toString n).toList ≠ [] := by
  change n.repr.toList ≠ []
  rw [Int.repr_eq_if]
  split
  · rw [Nat.repr_eq_ofList_toDigits, String.toList_ofList]
    exact Nat.toDigits_ne_nil
  · rw [String.toList_append]
    exact List.append_ne_nil_of_left_ne_nil (by decide) _

/-! ### Different integers have different texts

The sign tells positive from negative integers, and digits tell natural numbers apart.
-/

/-- The digits of a natural number determine it. -/
theorem repr_injective : Function.Injective Nat.repr := by
  intro m n h
  have hread := congrArg (fun t : String => Nat.ofDigitChars 10 t.toList 0) h
  simpa [Nat.repr_eq_ofList_toDigits] using hread

/-- A text that begins with a sign is that of no natural number. -/
theorem sign_append_ne_repr (t : String) (k : Nat) : "-" ++ t ≠ k.repr := by
  intro h
  have hsign : '-' ∈ k.repr.toList := by
    rw [← h, String.toList_append]
    exact List.mem_append_left _ (by decide)
  exact absurd (isDigit_of_mem_repr hsign) (by decide)

/-- **Different integers have different texts.** -/
theorem toString_inj {m n : Int} : toString m = toString n ↔ m = n := by
  refine ⟨fun h => ?_, congrArg toString⟩
  change m.repr = n.repr at h
  rw [Int.repr_eq_if, Int.repr_eq_if] at h
  split at h <;> split at h
  · have hnat := repr_injective h
    omega
  · exact absurd h.symm (sign_append_ne_repr _ _)
  · exact absurd h (sign_append_ne_repr _ _)
  · have hnat := repr_injective ((String.append_right_inj "-").1 h)
    omega

/-- An integer is read off in front of anything that does not go on like an integer. -/
theorem toString_append_inj {m n : Int} {c d : Char} {r r' : List Char}
    (hc : c ≠ '-' ∧ c.isDigit = false) (hd : d ≠ '-' ∧ d.isDigit = false)
    (h : (toString m).toList ++ c :: r = (toString n).toList ++ d :: r') :
    m = n ∧ c :: r = d :: r' := by
  have htake {k : Int} {e : Char} (he : e ≠ '-' ∧ e.isDigit = false) (cs : List Char) :
      ((toString k).toList ++ e :: cs).takeWhile (fun c => c = '-' ∨ c.isDigit) =
        (toString k).toList := by
    rw [List.takeWhile_append_of_pos fun c hc => decide_eq_true (mem_toString hc),
      List.takeWhile_cons_of_neg (by simp [he]), List.append_nil]
  have htext : (toString m).toList = (toString n).toList := by rw [← htake hc r, h, htake hd r']
  rw [htext] at h
  exact ⟨toString_inj.1 (String.toList_inj.1 htext), List.append_cancel_left h⟩

/-! ### Reading what has been written

Reading takes off white space, a sign, and digits with their values, and there is nothing but the
last two.
-/

theorem toNat_of_isDigit {c : Char} (h : c.isDigit) : 48 ≤ c.toNat ∧ c.toNat ≤ 57 := by
  simpa [Char.isDigit, UInt32.le_iff_toNat_le] using h

theorem digitValue?_of_isDigit {c : Char} (h : c.isDigit) :
    digitValue? c = some (c.toNat - 48) := by
  obtain ⟨hle, hge⟩ := toNat_of_isDigit h
  have hlt : c.toNat < 58 := by omega
  simp [digitValue?, zeroDigits, hle, hlt]

theorem digitRun?_of_isDigit {cs : List Char} (hne : cs ≠ []) (h : ∀ c ∈ cs, c.isDigit) :
    digitRun? cs = some (cs.map (·.toNat - 48)) := by
  induction cs with
  | nil => exact absurd rfl hne
  | cons c rest ih =>
    obtain ⟨hc, hrest⟩ := List.forall_mem_cons.1 h
    cases rest with
    | nil => simp [digitRun?, digitValue?_of_isDigit hc]
    | cons d rest =>
      have hd : d ≠ '_' := by
        rintro rfl
        exact absurd (hrest '_' List.mem_cons_self) (by decide)
      rw [digitRun?, digitValue?_of_isDigit hc, ih (List.cons_ne_nil _ _) hrest]
      · rfl
      · intro heq
        cases heq
      · intro _ heq
        exact absurd (List.cons.inj heq).1 hd

/-- Digits that have been written are read as the number, if there are not too many. -/
theorem magnitude?_toDigits {k : Nat} (h : (Nat.toDigits 10 k).length ≤ digitLimit) :
    magnitude? (Nat.toDigits 10 k) = some k := by
  have hdigits : ∀ c ∈ Nat.toDigits 10 k, c.isDigit := fun c hc =>
    Nat.isDigit_of_mem_toDigits (by decide) (by decide) hc
  have hvalue : ofDigits ((Nat.toDigits 10 k).map (·.toNat - 48)) = k := by
    rw [ofDigits, List.foldl_map]
    exact Nat.ofDigitChars_eq_foldl.symm.trans Nat.ofDigitChars_ten_toDigits
  simp only [magnitude?, digitRun?_of_isDigit Nat.toDigits_ne_nil hdigits]
  simp [h, hvalue]

/-- Digits alone are read without a sign. -/
theorem signed?_of_isDigit {cs : List Char} (h : ∀ c ∈ cs, c.isDigit) :
    signed? cs = (magnitude? cs).map fun k : Nat => (k : Int) := by
  unfold signed?
  split
  · exact absurd (h '-' List.mem_cons_self) (by decide)
  · exact absurd (h '+' List.mem_cons_self) (by decide)
  · cases magnitude? cs <;> rfl

theorem isSpace_of_mem_toString {n : Int} {c : Char} (h : c ∈ (toString n).toList) :
    isSpace c = false := by
  rcases mem_toString h with rfl | h
  · decide
  · obtain ⟨hle, hge⟩ := toNat_of_isDigit h
    simp [isSpace]
    omega

/-- A text without white space has none to be taken off. -/
theorem trim_of_forall {cs : List Char} (h : ∀ c ∈ cs, isSpace c = false) : trim cs = cs := by
  have hdrop {ds : List Char} (hds : ∀ c ∈ ds, isSpace c = false) : ds.dropWhile isSpace = ds := by
    cases ds with
    | nil => rfl
    | cons d rest => rw [List.dropWhile_cons_of_neg (by simp [hds d List.mem_cons_self])]
  rw [trim, hdrop h, dropTrailing, hdrop fun c hc => h c (List.mem_reverse.1 hc),
    List.reverse_reverse]

/-- **Reading what has been written.** An integer of at most `digitLimit` digits is read back. -/
theorem read?_toString {n : Int} (h : digitCount n ≤ digitLimit) :
    read? (toString n) = some n := by
  rw [read?, trim_of_forall fun c hc => isSpace_of_mem_toString hc]
  rw [digitCount] at h
  show signed? n.repr.toList = some n
  rw [Int.repr_eq_if]
  split
  · have hsize : n.toNat = n.natAbs := by omega
    rw [signed?_of_isDigit fun c => isDigit_of_mem_repr, Nat.repr_eq_ofList_toDigits,
      String.toList_ofList, hsize, magnitude?_toDigits h, Option.map_some]
    exact congrArg some (show (n.natAbs : Int) = n by omega)
  · have hsize : (-n).toNat = n.natAbs := by omega
    rw [Nat.repr_eq_ofList_toDigits, hsize, String.toList_append, String.toList_ofList,
      String.toList_ofList]
    show signed? ('-' :: Nat.toDigits 10 n.natAbs) = some n
    rw [signed?, magnitude?_toDigits h]
    exact congrArg some (show -(n.natAbs : Int) = n by omega)

end Walkthrough.Integer
