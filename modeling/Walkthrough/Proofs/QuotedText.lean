import Mathlib.Algebra.Group.Nat.Defs
import Mathlib.Tactic.SplitIfs
import Walkthrough.Expression.Quotation
import Walkthrough.Text.Quoted

/-!
# Reading back quoted text

A quoted text shows where it ends and what it is the text of, whatever follows it. This is so
although two things in it depend on the text itself: the quotes, and how many digits a character
takes that is written by its code. The quote that has been chosen is the first character, and never
begins what stands for a character inside. The letter behind a backslash tells how many digits
follow.

## Reading as the inverse of writing

The result is that writing is injective, also in front of something else, and it is shown by
reading. A reader for one character is defined here, which the program does not need, and it takes
back what writing has made of a character. So two texts with the same beginning have the same first
character, and the same remains of them; and the induction is on the first of the two texts. Where
one of them ends, the other one must end as well, because what stands for a character never begins
with the quote.

## Main definitions

* `Text.readChar?` — the character that is written at the beginning of a text, and what follows

## Main results

* `Text.readChar?_escape` — a character is read back
* `Text.quoteChars_append_inj` — so is a quoted text, in front of whatever follows
-/

namespace Walkthrough.Text

open Expression (hexValue codeDigits?)

/-! ### Hexadecimal digits -/

/-- The number that hexadecimal digits stand for, the most significant one first. -/
def ofHex (cs : List Char) : Nat := cs.foldl (fun n c => 16 * n + hexValue c) 0

theorem hexValue_hexDigit : ∀ d < 16, hexValue (hexDigit d) = d := by decide

/-- **Hexadecimal digits** are read back, as many as there are. -/
theorem ofHex_hex (width n : Nat) : ofHex (hex width n) = n % 16 ^ width := by
  induction width generalizing n with
  | zero => simp [hex, ofHex, Nat.mod_one]
  | succ width ih =>
    have happend (cs : List Char) (c : Char) : ofHex (cs ++ [c]) = 16 * ofHex cs + hexValue c := by
      simp [ofHex, List.foldl_append]
    rw [hex, happend, ih, hexValue_hexDigit _ (Nat.mod_lt _ (by decide)), Nat.pow_succ',
      Nat.mod_mul]
    omega

/-! ### One character -/

/-- The character that is written at the beginning of a text, and what follows. -/
def readChar? : List Char → Option (Char × List Char)
  | [] => none
  | ['\\'] => none
  | '\\' :: c :: cs =>
    match codeDigits? c with
    | some digits => some (Char.ofNat (ofHex (cs.take digits)), cs.drop digits)
    | none =>
      some (if c = 'n' then '\n' else if c = 'r' then '\r' else if c = 't' then '\t' else c, cs)
  | c :: cs => some (c, cs)

variable {q c d : Char} {cs ds r r' : List Char}

theorem readChar?_cons (hc : c ≠ '\\') (cs : List Char) : readChar? (c :: cs) = some (c, cs) := by
  unfold readChar?
  split <;> simp_all

/-- A code is read with as many digits as its letter tells. -/
theorem readChar?_code {letter : Char} {digits : Nat} (hletter : codeDigits? letter = some digits)
    (hc : c.toNat < 16 ^ digits) (r : List Char) :
    readChar? ('\\' :: letter :: (hex digits c.toNat ++ r)) = some (c, r) := by
  have hlength := length_hex digits c.toNat
  rw [readChar?, hletter]
  dsimp only
  rw [List.take_left' hlength, List.drop_left' hlength, ofHex_hex, Nat.mod_eq_of_lt hc,
    Char.ofNat_toNat]

/-- **A character is read back** from how it stands between quotes. -/
theorem readChar?_escape (hq : q = '\'' ∨ q = '"') (c : Char) (r : List Char) :
    readChar? (escape q c ++ r) = some (c, r) := by
  unfold escape
  split_ifs with hplain hfeed hreturn htab hprintable hshort hmiddle
  · -- a quote or a backslash begins no code
    rcases hplain with rfl | rfl
    · rcases hq with rfl | rfl <;> rfl
    · rfl
  · subst hfeed
    rfl
  · subst hreturn
    rfl
  · subst htab
    rfl
  · exact readChar?_cons (fun hbackslash => hplain (.inr hbackslash)) r
  · exact readChar?_code rfl hshort r
  · exact readChar?_code rfl hmiddle r
  · refine readChar?_code rfl ?_ r
    have hvalid : c.toNat < 0x110000 := by
      rcases c.valid with h | h
      · exact Nat.lt_of_lt_of_le h (by decide)
      · exact h.2
    exact Nat.lt_of_lt_of_le hvalid (by decide)

/-- The quote in use does not begin what stands for a character. -/
theorem escape_append_ne (hq : q = '\'' ∨ q = '"') (c : Char) (r r' : List Char) :
    escape q c ++ r ≠ q :: r' := by
  intro h
  have hquote : q ≠ '\\' := by
    rcases hq with rfl | rfl <;> decide
  have hread := readChar?_escape hq c r
  rw [h, readChar?_cons hquote] at hread
  obtain ⟨rfl, -⟩ := Prod.mk.inj (Option.some.inj hread)
  rw [escape, if_pos (.inl rfl)] at h
  exact hquote (List.cons.inj h).1.symm

/-! ### A whole text -/

theorem quoteFor_cases (cs : List Char) : quoteFor cs = '\'' ∨ quoteFor cs = '"' := by
  unfold quoteFor
  split
  · exact .inr rfl
  · exact .inl rfl

/-- What stands between quotes is read back up to the closing quote. -/
theorem flatMap_escape_append_inj (hq : q = '\'' ∨ q = '"')
    (h : cs.flatMap (escape q) ++ q :: r = ds.flatMap (escape q) ++ q :: r') :
    cs = ds ∧ r = r' := by
  induction cs generalizing ds with
  | nil =>
    cases ds with
    | nil => exact ⟨rfl, (List.cons.inj h).2⟩
    | cons d ds =>
      rw [List.flatMap_cons, List.append_assoc] at h
      exact absurd h.symm (escape_append_ne hq d _ _)
  | cons c cs ih =>
    rw [List.flatMap_cons, List.append_assoc] at h
    cases ds with
    | nil => exact absurd h (escape_append_ne hq c _ _)
    | cons d ds =>
      rw [List.flatMap_cons, List.append_assoc] at h
      have hread := readChar?_escape hq c (cs.flatMap (escape q) ++ q :: r)
      rw [h, readChar?_escape hq] at hread
      obtain ⟨rfl, hrest⟩ := Prod.mk.inj (Option.some.inj hread)
      obtain ⟨rfl, hr⟩ := ih hrest.symm
      exact ⟨rfl, hr⟩

/-- **A quoted text is read back**, in front of whatever follows. -/
theorem quoteChars_append_inj (h : quoteChars cs ++ r = quoteChars ds ++ r') :
    cs = ds ∧ r = r' := by
  simp only [quoteChars, List.cons_append, List.append_assoc] at h
  obtain ⟨hquote, h⟩ := List.cons.inj h
  rw [← hquote] at h
  exact flatMap_escape_append_inj (quoteFor_cases cs) h

end Walkthrough.Text
