import Mathlib.Data.List.Chain
import Walkthrough.Proofs.Sorting.Permutation
import Walkthrough.Proofs.Tags
import Walkthrough.Proofs.Wrapping

/-!
# What is shown of marked-up text

The text that stands between tags is shown without the backslashes before brackets. There is nothing
else to change in it if white space follows each colon, so that no emoji is named, and if each
character takes one cell, so that none moves the cursor. Where it is broken into lines nothing but
white space is added. Hence no character is printed more often than it is read.

## Two directions again

That a text is shown as it is has to be followed through every change that is made on the way, and
the two conditions exclude all of them but one. That something is not shown can be told from
numbers: the characters that are printed are among those that are read, each as often at most. This
is weaker than to say where they are, and it is enough, since a text that is printed somewhere has
all of its characters printed.

## Main definitions

* `Terminal.Spaced` — a text in which white space follows each colon

## Main results

* `Terminal.shown_eq_unescape` — only backslashes before brackets are lost
* `Terminal.chars_of_readMarkup` — what is read of a text is what is shown of its pieces
* `Terminal.readMarkup_of_tagFree` — a text without tags is read as it is, in a style
* `CommandLine.countP_printed_le` — no more is printed than is read
-/

namespace Walkthrough.Terminal

open Text

/-! ### Backslashes

A backslash before an opening bracket is left out wherever it stands in the text of a piece. Other
backslashes stay.
-/

theorem unescape_sublist (cs : List Char) : (unescape cs).Sublist cs := by
  induction cs using unescape.induct with
  | case1 rest ih => exact (ih.cons_cons '[').cons '\\'
  | case2 c rest hother ih =>
    rw [unescape]
    · exact ih.cons_cons c
    · exact hother
  | case3 => exact List.Sublist.refl _

/-- Without a backslash in front of a bracket there is nothing to be left out. -/
theorem unescape_eq_self {cs : List Char} (h : ¬ ['\\', '['] <:+: cs) : unescape cs = cs := by
  induction cs using unescape.induct with
  | case1 rest ih => exact absurd (List.prefix_append ['\\', '['] rest).isInfix h
  | case2 c rest hother ih =>
    rw [unescape]
    · rw [ih fun hpart => h (hpart.trans (List.suffix_cons c rest).isInfix)]
    · exact hother
  | case3 => rfl

/-- A backslash before a bracket is lost. -/
theorem count_unescape_lt {cs : List Char} (h : ['\\', '['] <:+: cs) :
    (unescape cs).count '\\' < cs.count '\\' := by
  induction cs using unescape.induct with
  | case1 rest ih =>
    have hkept := (unescape_sublist rest).count_le '\\'
    rw [unescape, List.count_cons_of_ne (by decide), List.count_cons_self,
      List.count_cons_of_ne (by decide)]
    omega
  | case2 c rest hother ih =>
    have hrest : ['\\', '['] <:+: rest := by
      obtain hfirst | hlater := List.infix_cons_iff.1 h
      · obtain ⟨after, heq⟩ := hfirst
        obtain ⟨rfl, rfl⟩ := List.cons.inj heq
        exact absurd rfl (hother after rfl)
      · exact hlater
    rw [unescape, List.count_cons, List.count_cons]
    · have := ih hrest
      omega
    · exact hother
  | case3 => cases List.eq_nil_of_infix_nil h

theorem unescape_cons_of_ne {c : Char} (hc : c ≠ '\\') (cs : List Char) :
    unescape (c :: cs) = c :: unescape cs := by
  rw [unescape]
  exact fun rest heq => absurd heq hc

theorem unescape_append_of_notMem {lead : List Char} (h : '\\' ∉ lead) (cs : List Char) :
    unescape (lead ++ cs) = lead ++ unescape cs := by
  induction lead with
  | nil => rfl
  | cons c lead ih =>
    obtain ⟨hc, hlead⟩ := not_or.1 (mt List.mem_cons.2 h)
    rw [List.cons_append, unescape_cons_of_ne (Ne.symm hc), ih hlead, List.cons_append]

/-! ### Colons

A name between two colons stands for an emoji. It contains no white space, so with white space
behind each colon there is no such name.
-/

/-- Behind a colon there is white space, or nothing. -/
def Spaced (cs : List Char) : Prop := cs.IsChain fun c d => c = ':' → isBlank d = true

instance (cs : List Char) : Decidable (Spaced cs) :=
  inferInstanceAs (Decidable (cs.IsChain fun c d => c = ':' → isBlank d = true))

theorem Spaced.of_isInfix {cs ds : List Char} (h : Spaced ds) (hpart : cs <:+: ds) : Spaced cs :=
  List.IsChain.infix h hpart

theorem spaced_of_notMem {cs : List Char} (h : ':' ∉ cs) : Spaced cs := by
  induction cs with
  | nil => exact .nil
  | cons c cs ih =>
    obtain ⟨hc, hcs⟩ := not_or.1 (mt List.mem_cons.2 h)
    exact (ih hcs).cons fun _ _ heq => absurd heq.symm hc

/-- Two texts may stand together if the first does not end with a colon. -/
theorem Spaced.append {cs ds : List Char} (hcs : Spaced cs) (hds : Spaced ds)
    (hlast : cs.getLast? ≠ some ':') : Spaced (cs ++ ds) := by
  refine List.IsChain.append hcs hds fun c hc d _ heq => absurd ?_ hlast
  rwa [heq] at hc

theorem Spaced.unescape {cs : List Char} (h : Spaced cs) : Spaced (unescape cs) := by
  induction cs using unescape.induct with
  | case1 rest ih =>
    obtain ⟨-, hrest⟩ := List.isChain_cons.1 (List.isChain_cons.1 h).2
    rw [Terminal.unescape]
    exact (ih hrest).cons fun _ _ heq => absurd heq (by decide)
  | case2 c rest hother ih =>
    obtain ⟨hc, hrest⟩ := List.isChain_cons.1 h
    rw [Terminal.unescape]
    · refine (ih hrest).cons fun d hd heq => ?_
      cases rest with
      | nil => cases hd
      | cons e rest =>
        have he := hc e rfl heq
        rw [unescape_cons_of_ne (by rintro rfl; exact absurd he (by decide))] at hd
        cases hd
        exact he
    · exact hother
  | case3 => exact h

/-- What stands between two colons names no emoji if there is white space behind the first. -/
theorem withEmojiFrom_of_spaced {cs : List Char} (h : Spaced cs) (fuel : Nat) :
    withEmojiFrom fuel cs = cs := by
  induction cs generalizing fuel with
  | nil => cases fuel <;> rfl
  | cons c cs ih =>
    obtain ⟨hc, hcs⟩ := List.isChain_cons.1 h
    cases fuel with
    | zero => rfl
    | succ fuel =>
      by_cases heq : c = ':'
      · subst heq
        have hnone : betweenColons? cs = none := by
          cases cs with
          | nil => rfl
          | cons d cs =>
            have hd := hc d rfl rfl
            have hcolon : d ≠ ':' := by
              rintro rfl
              exact absurd hd (by decide)
            simp [betweenColons?, hd, hcolon]
        simp only [withEmojiFrom, hnone, ih hcs]
      · rw [withEmojiFrom, ih hcs]
        simpa using heq

theorem isMotion_eq_false {c : Char} (h : cellWidth c = 1) : isMotion c = false := by
  by_contra hmotion
  simp only [Bool.not_eq_false, isMotion, Bool.or_eq_true, decide_eq_true_eq] at hmotion
  have hnone : cellWidth c = 0 := by
    rcases hmotion with (((hc | hc) | hc) | hc) | hc <;> simp only [cellWidth, hc] <;> rfl
  rw [hnone] at h
  cases h

/-! ### Reading

The text that is read is put together from the texts of the pieces, and tags contribute nothing to
it.
-/

/-- Text is shown as it is, except for backslashes before brackets. -/
theorem shown_eq_unescape {cs : List Char} (hnarrow : Narrow cs) (hspaced : Spaced cs) :
    shown cs = unescape cs := by
  rw [shown, withEmoji, withEmojiFrom_of_spaced hspaced.unescape]
  refine List.filter_eq_self.2 fun c hc => ?_
  have hcell := hnarrow c ((unescape_sublist cs).subset hc)
  rw [isMotion_eq_false hcell]
  rfl

/-- What is read is what is shown of the pieces. -/
theorem chars_of_assemble {ps : List Piece} {done : List Char} {spans : List Span}
    {openTags : List OpenTag} {t : StyledText} (h : assemble done spans openTags ps = .ok t) :
    t.chars = done.reverse ++ ps.flatMap fun piece => shown piece.text := by
  induction ps generalizing done spans openTags with
  | nil =>
    cases h
    simp
  | cons piece ps ih =>
    cases piece with
    | plain cs =>
      rw [ih h, List.reverse_append, List.reverse_reverse, List.append_assoc]
      rfl
    | tag position body =>
      have hlater : ∀ spans openTags, assemble done spans openTags ps = .ok t →
          t.chars = done.reverse ++ (Piece.tag position body :: ps).flatMap
            fun piece => shown piece.text := fun spans openTags hrest => ih hrest
      rw [assemble] at h
      split at h
      · obtain ⟨⟨closed, others⟩, -, h⟩ := Sorting.bind_eq_ok.1 h
        obtain ⟨span, -, h⟩ := Sorting.bind_eq_ok.1 h
        exact hlater _ _ h
      · obtain ⟨name, -, h⟩ := Sorting.bind_eq_ok.1 h
        exact hlater _ _ h

/-- **What is read of a text** is the text of its pieces, except for backslashes before brackets. -/
theorem chars_of_readMarkup {markup : List Char} (hnarrow : Narrow markup) (hspaced : Spaced markup)
    {t : StyledText} (h : readMarkup markup = .ok t) :
    t.chars = (pieces markup).flatMap fun piece => unescape piece.text := by
  rw [chars_of_assemble h, List.reverse_nil, List.nil_append]
  refine List.flatMap_congr fun piece hpiece => ?_
  have hpart : piece.text <:+: markup := infix_of_mem_piecesFrom hpiece
  exact shown_eq_unescape (fun c hc => hnarrow c (hpart.subset hc)) (hspaced.of_isInfix hpart)

/-- Nothing is read that is not written. -/
theorem narrow_of_readMarkup {markup : List Char} (hnarrow : Narrow markup)
    (hspaced : Spaced markup) {t : StyledText} (h : readMarkup markup = .ok t) :
    Narrow t.chars := by
  intro c hc
  rw [chars_of_readMarkup hnarrow hspaced h] at hc
  obtain ⟨piece, hpiece, hmem⟩ := List.mem_flatMap.1 hc
  exact hnarrow c ((infix_of_mem_piecesFrom hpiece).subset ((unescape_sublist _).subset hmem))

/-- Leaving backslashes out of each piece leaves them out of the whole. -/
theorem unescape_texts_sublist (ps : List Piece) :
    (ps.flatMap fun piece => unescape piece.text).Sublist (ps.flatMap Piece.text) := by
  induction ps with
  | nil => exact List.Sublist.refl _
  | cons piece ps ih => exact (unescape_sublist piece.text).append ih

/-- A piece of text that is shown as it is comes behind what has been read. -/
theorem assemble_withPlain {cs : List Char} (h : shown cs = cs) (done : List Char)
    (spans : List Span) (openTags : List OpenTag) (rest : List Piece) :
    assemble done spans openTags (withPlain cs rest) =
      assemble (cs.reverse ++ done) spans openTags rest := by
  cases cs with
  | nil => rfl
  | cons c cs =>
    show assemble done spans openTags (.plain (c :: cs) :: rest) = _
    rw [assemble, h]

/-- **A text in a style and one behind it** are read as they are. -/
theorem readMarkup_of_tagFree {word body after : List Char} (hword : StyleWord word)
    (hbody : TagFree body) (hlast : ¬ ['\\'] <:+ body) (hshown : shown body = body)
    (hafter : TagFree after) (hlast' : ¬ ['\\'] <:+ after) (hshown' : shown after = after) :
    readMarkup ('[' :: (word ++ ']' :: (body ++ '[' :: '/' :: (word ++ ']' :: after)))) =
      .ok ⟨body ++ after, [⟨0, body.length, word⟩]⟩ := by
  obtain ⟨position, hpieces⟩ := pieces_of_tagFree hword hbody hlast 0 hafter hlast'
  have hclosing : escapedTag position 0 ('/' :: word) = [.tag position ('/' :: word)] := rfl
  rw [List.replicate_zero, List.nil_append, hclosing, List.singleton_append] at hpieces
  rw [readMarkup, hpieces, assemble_opening hword, assemble_withPlain hshown,
    assemble_closes hword, assemble_withPlain hshown']
  simp [assemble]

end Walkthrough.Terminal

namespace Walkthrough.CommandLine

open Terminal

/-! ### What is printed

Lines are broken after reading, and end with line feeds. Neither adds a character that counts.
-/

/-- Lines that are printed end with line feeds, and nothing else comes between them. -/
theorem filter_unlines (lines : List (List Char)) :
    (unlines lines).toList.filter (· ≠ '\n') = lines.flatten.filter (· ≠ '\n') := by
  rw [unlines, String.toList_ofList]
  induction lines with
  | nil => rfl
  | cons line lines ih =>
    rw [List.flatMap_cons, List.filter_append, ih, List.flatten_cons, List.filter_append,
      List.filter_append]
    simp

/-- **No more is printed than is read**, white space apart. -/
theorem countP_printed_le {p : Char → Bool} (hp : p ' ' = false) {markup text : String}
    (hnarrow : Narrow markup.toList) (hspaced : Spaced markup.toList)
    (h : printed markup = .ok text) :
    (text.toList.filter (· ≠ '\n')).countP p ≤
      ((pieces markup.toList).flatMap fun piece => unescape piece.text).countP p := by
  obtain ⟨t, hread, h⟩ := Sorting.bind_eq_ok.1 h
  obtain ⟨-, -, h⟩ := Sorting.bind_eq_ok.1 h
  cases h
  rw [filter_unlines, ← chars_of_readMarkup hnarrow hspaced hread]
  exact ((List.filter_sublist).countP_le).trans
    (countP_flatten_wrap_le hp terminalWidth (narrow_of_readMarkup hnarrow hspaced hread))

end Walkthrough.CommandLine
