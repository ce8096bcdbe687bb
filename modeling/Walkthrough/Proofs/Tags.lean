import Mathlib.Data.List.Infix
import Mathlib.Data.List.TakeWhile
import Walkthrough.Proofs.PrintedMarkup

/-!
# Tags in marked-up text

A text in which no tag begins is passed over, whatever brackets and backslashes there are in it.
Where a tag does begin something is lost: the bracket of the tag, or a backslash before it. So there
is a bound on the brackets and backslashes that remain, in terms of those that are written and of
the number of tags. It is a bound on their number, and says nothing of where they stand, because a
bracket that remains may come from the markup around a text as well as from the text.

## How a text is read

Reading goes from left to right and takes one of two steps: it takes a tag, with all backslashes
right before it, or it takes text in which no tag begins. `Terminal.piecesFrom_succ_cases` puts it
in this form, and everything that is said of all pieces is shown by going through the two cases.
Backslashes before a tag are halved, and if their number is odd then the tag is text. In either case
a mark is lost that was written, a bracket or a backslash, and this is all that the bound counts.

## Where a text ends

A text in which no tag begins may still matter to what follows. A backslash at its end would count
among those before the next tag, and an opening bracket in it might be closed only behind it. The
first is excluded by a hypothesis. The second cannot happen where a bracket that opens comes next,
since a tag has no bracket inside.

## Main definitions

* `Terminal.TagFree` — a text in which no tag begins
* `Terminal.Piece.text` — what remains of a piece
* `Terminal.tagCount` — the number of places in a text where a tag begins

## Main results

* `Terminal.pieces_of_tagFree` — the pieces of a text in a style, if there is no other tag
* `Terminal.piecesFrom_succ_cases` — what is done in a step, with a tag or without
* `Terminal.countP_text_pieces_add_tagCount_le` — each tag costs a bracket or a backslash
* `Terminal.infix_of_mem_piecesFrom` — each piece is a part of the text
-/

namespace Walkthrough.Terminal

open Text

/-! ### Tags

A tag is a bracket, a character that a tag may start with, and text without brackets up to the one
that closes it.
-/

/-- What begins like a tag is none if the next bracket does not close it, or if there is none. -/
theorem tagAt?_eq_none_iff {c : Char} {cs : List Char} (hc : startsTag c = true) :
    tagAt? ('[' :: c :: cs) = none ↔
      (cs.dropWhile fun d => d ≠ ']' ∧ d ≠ '[').head? ≠ some ']' := by
  simp only [tagAt?, if_pos hc]
  split
  · rename_i heq
    refine iff_of_false (Option.some_ne_none _) fun hhead => hhead ?_
    rw [heq]
    rfl
  · rename_i hother
    refine iff_of_true rfl fun hhead => ?_
    obtain ⟨after, hafter⟩ := List.head?_eq_some_iff.1 hhead
    exact hother after hafter

/-- A tag has no bracket in it but those around it. -/
theorem exists_of_tagAt? {cs body after : List Char} (h : tagAt? cs = some (body, after)) :
    ∃ c inner, body = c :: inner ∧ startsTag c = true ∧ (∀ d ∈ inner, d ≠ ']' ∧ d ≠ '[') ∧
      cs = '[' :: c :: (inner ++ ']' :: after) := by
  unfold tagAt? at h
  split at h
  · rename_i c rest
    split at h
    · rename_i hc
      split at h
      · rename_i hclosed
        cases h
        refine ⟨c, _, rfl, hc, fun d hd => by simpa using List.mem_takeWhile_imp hd, ?_⟩
        rw [← hclosed, List.takeWhile_append_dropWhile]
      · cases h
    · cases h
  · cases h

theorem tagAt?_of_inner {c : Char} (hc : startsTag c = true) {inner : List Char}
    (hinner : ∀ d ∈ inner, d ≠ ']' ∧ d ≠ '[') (after : List Char) :
    tagAt? ('[' :: c :: (inner ++ ']' :: after)) = some (c :: inner, after) := by
  have hpos : ∀ d ∈ inner, (decide (d ≠ ']' ∧ d ≠ '[')) = true := fun d hd =>
    decide_eq_true (hinner d hd)
  simp only [tagAt?, if_pos hc, List.dropWhile_append_of_pos hpos,
    List.takeWhile_append_of_pos hpos]
  simp

/-- A tag is one whatever follows. -/
theorem tagAt?_append {cs body after : List Char} (h : tagAt? cs = some (body, after))
    (rest : List Char) : tagAt? (cs ++ rest) = some (body, after ++ rest) := by
  obtain ⟨c, inner, rfl, hc, hinner, rfl⟩ := exists_of_tagAt? h
  simpa using tagAt?_of_inner hc hinner (after ++ rest)

/-- What is none is not made one by an opening bracket, nor by backslashes in front of that. -/
theorem tagAt?_append_bracket {cs : List Char} (hne : cs ≠ []) (h : tagAt? cs = none) (n : Nat)
    (rest : List Char) : tagAt? (cs ++ (List.replicate n '\\' ++ '[' :: rest)) = none := by
  obtain ⟨c, cs, rfl⟩ := List.exists_cons_of_ne_nil hne
  by_cases hc : c = '['
  · subst hc
    have hopens : ((List.replicate n '\\' ++ '[' :: rest).dropWhile
        fun d => d ≠ ']' ∧ d ≠ '[').head? ≠ some ']' := by
      rw [List.dropWhile_append_of_pos fun d hd => by simp [List.eq_of_mem_replicate hd]]
      simp
    cases cs with
    | nil => cases n <;> rfl
    | cons d ds =>
      by_cases hd : startsTag d = true
      · rw [tagAt?_eq_none_iff hd] at h
        rw [List.cons_append, List.cons_append, tagAt?_eq_none_iff hd, List.dropWhile_append]
        split
        · exact hopens
        · rename_i hsome
          rwa [List.head?_append_of_ne_nil _ (mt List.isEmpty_iff.2 hsome)]
      · simp [tagAt?, hd]
  · exact tagAt?_cons_of_ne hc

/-! ### Text without tags

A text without tags is a property of all its tails, so that it passes to the end of a text. It
passes to the beginning as well, because what begins a tag there would begin one in the whole.
-/

/-- No tag begins in a text. It is a property of all tails, and decidable, so that it can be
evaluated for what a program writes by itself. -/
def TagFree (cs : List Char) : Prop := ∀ rest ∈ cs.tails, tagAt? rest = none

instance (cs : List Char) : Decidable (TagFree cs) :=
  inferInstanceAs (Decidable (∀ rest ∈ cs.tails, tagAt? rest = none))

theorem tagFree_cons {c : Char} {cs : List Char} :
    TagFree (c :: cs) ↔ tagAt? (c :: cs) = none ∧ TagFree cs :=
  List.forall_mem_cons

theorem TagFree.of_append {cs ds : List Char} (h : TagFree (cs ++ ds)) : TagFree ds :=
  fun rest hrest => h rest ((List.mem_tails _ _).2
    (((List.mem_tails _ _).1 hrest).trans (List.suffix_append cs ds)))

/-- A tag in the first part would be one in the whole, as it is one whatever follows. -/
theorem TagFree.of_append_left {cs ds : List Char} (h : TagFree (cs ++ ds)) : TagFree cs := by
  intro rest hrest
  obtain ⟨lead, rfl⟩ := (List.mem_tails _ _).1 hrest
  have hnone := h (rest ++ ds) ((List.mem_tails _ _).2 ⟨lead, (List.append_assoc _ _ _).symm⟩)
  cases htag : tagAt? rest with
  | none => rfl
  | some found =>
    rw [tagAt?_append htag] at hnone
    cases hnone

theorem tagFree_append_of_notMem {lead cs : List Char} (hlead : '[' ∉ lead) (hcs : TagFree cs) :
    TagFree (lead ++ cs) := by
  induction lead with
  | nil => exact hcs
  | cons c lead ih =>
    obtain ⟨hc, hlead⟩ := not_or.1 (mt List.mem_cons.2 hlead)
    exact tagFree_cons.2 ⟨tagAt?_cons_of_ne (Ne.symm hc), ih hlead⟩

/-- Backslashes that are not at the end have something else behind them. -/
theorem slashes_append_of_not_suffix {cs : List Char} (h : ¬ ['\\'] <:+ '\\' :: cs) :
    ∃ n d ds, '\\' :: cs = List.replicate (n + 1) '\\' ++ d :: ds ∧ d ≠ '\\' := by
  induction cs with
  | nil => exact absurd List.suffix_rfl h
  | cons c cs ih =>
    by_cases hc : c = '\\'
    · subst hc
      obtain ⟨n, d, ds, heq, hd⟩ := ih fun hsuffix => h (hsuffix.trans (List.suffix_cons _ _))
      exact ⟨n + 1, d, ds, by rw [heq]; rfl, hd⟩
    · exact ⟨0, c, cs, rfl, hc⟩

/-- **Text without tags is passed over**, up to what follows, if it does not end with a backslash
and what follows does not make a tag of anything in it. -/
theorem piecesFrom_append_of_tagFree {body : List Char} (hbody : TagFree body)
    (hlast : ¬ ['\\'] <:+ body) (rest : List Char)
    (hrest : ∀ cs, cs ≠ [] → tagAt? cs = none → tagAt? (cs ++ rest) = none) (fuel : Nat)
    (hfuel : (body ++ rest).length ≤ fuel) (before : List Char) (position : Nat) :
    ∃ left further, rest.length ≤ left ∧ piecesFrom fuel before position (body ++ rest) =
      piecesFrom left (body.reverse ++ before) further rest := by
  induction fuel generalizing body before position with
  | zero =>
    obtain ⟨rfl, rfl⟩ := List.append_eq_nil_iff.1 (List.length_eq_zero_iff.1 (Nat.le_zero.1 hfuel))
    exact ⟨0, position, Nat.le_refl _, rfl⟩
  | succ fuel ih =>
    cases body with
    | nil => exact ⟨fuel + 1, position, hfuel, rfl⟩
    | cons c body =>
      by_cases hc : c = '\\'
      · subst hc
        obtain ⟨n, d, ds, heq, hslash⟩ := slashes_append_of_not_suffix hlast
        rw [heq] at hbody hlast hfuel ⊢
        have htag := hrest (d :: ds) (List.cons_ne_nil d ds) (tagFree_cons.1 hbody.of_append).1
        have hescapes : (((List.replicate (n + 1) '\\' ++ d :: ds) ++ rest).takeWhile
            (· = '\\')).length = n + 1 := by
          simp [List.takeWhile_append_of_pos, hslash]
        have hdrop : ((List.replicate (n + 1) '\\' ++ d :: ds) ++ rest).drop (n + 1) =
            (d :: ds) ++ rest := by
          simp
        rw [piecesFrom_of_escapes hescapes (Nat.succ_pos n) (by rwa [hdrop]), hdrop]
        have hfuel' : (d :: ds ++ rest).length ≤ fuel := by
          simp only [List.length_append, List.length_replicate] at hfuel ⊢
          omega
        obtain ⟨left, further, hleft, heq⟩ := ih hbody.of_append
          (fun hsuffix => hlast (hsuffix.trans (List.suffix_append _ _))) hfuel'
          (List.replicate (n + 1) '\\' ++ before) (position + (n + 1))
        refine ⟨left, further, hleft, ?_⟩
        rw [heq, List.reverse_append, List.reverse_replicate, List.append_assoc]
      · obtain ⟨htag, hbody⟩ := tagFree_cons.1 hbody
        have htag' : tagAt? (c :: (body ++ rest)) = none :=
          hrest (c :: body) (List.cons_ne_nil c body) htag
        obtain ⟨left, further, hleft, heq⟩ := ih hbody
          (fun hsuffix => hlast (hsuffix.trans (List.suffix_cons _ _)))
          (Nat.le_of_succ_le_succ hfuel) (c :: before) (position + 1)
        refine ⟨left, further, hleft, ?_⟩
        rw [List.cons_append, piecesFrom_cons hc htag', heq, List.reverse_cons, List.append_assoc]
        rfl

/-- Such a text is one piece. -/
theorem piecesFrom_of_tagFree {cs : List Char} (h : TagFree cs) (hlast : ¬ ['\\'] <:+ cs)
    (fuel : Nat) (hfuel : cs.length ≤ fuel) (position : Nat) :
    piecesFrom fuel [] position cs = withPlain cs [] := by
  obtain ⟨left, further, -, heq⟩ := piecesFrom_append_of_tagFree h hlast []
    (fun ds _ hds => by rwa [List.append_nil]) fuel (by rwa [List.append_nil]) [] position
  rw [List.append_nil, List.append_nil] at heq
  rw [heq]
  cases left <;> simp [piecesFrom]

/-- **A style is opened in front of such a text.** The tag behind it closes the style, or is text
itself, depending on the backslashes between. -/
theorem pieces_of_tagFree {word body after : List Char} (hword : StyleWord word)
    (hbody : TagFree body) (hlast : ¬ ['\\'] <:+ body) (escapes : Nat) (hafter : TagFree after)
    (hlast' : ¬ ['\\'] <:+ after) :
    ∃ position, pieces ('[' :: (word ++ ']' :: (body ++ (List.replicate escapes '\\' ++
        '[' :: '/' :: (word ++ ']' :: after))))) =
      .tag 0 word :: withPlain body (escapedTag position escapes ('/' :: word) ++
        withPlain after []) := by
  have hnone (tail : List Char) : (('[' :: tail).takeWhile (· = '\\')).length = 0 := rfl
  have hescapes : ((List.replicate escapes '\\' ++ '[' :: '/' :: (word ++ ']' :: after)).takeWhile
      (· = '\\')).length = escapes := by
    simp [List.takeWhile_append_of_pos]
  have hdrop : (List.replicate escapes '\\' ++ '[' :: '/' :: (word ++ ']' :: after)).drop escapes =
      '[' :: '/' :: (word ++ ']' :: after) := by
    simp
  obtain ⟨left, further, hleft, hpassed⟩ := piecesFrom_append_of_tagFree hbody hlast _
    (fun cs hne htag => tagAt?_append_bracket hne htag escapes ('/' :: (word ++ ']' :: after)))
    (word ++ ']' :: (body ++ (List.replicate escapes '\\' ++
      '[' :: '/' :: (word ++ ']' :: after)))).length
    (by simp only [List.length_append, List.length_cons]; omega) [] (word.length + 2)
  cases left with
  | zero => simp at hleft
  | succ left =>
    have hafter' : after.length ≤ left := by
      simp only [List.length_append, List.length_cons] at hleft
      omega
    refine ⟨further, ?_⟩
    rw [pieces, List.length_cons, piecesFrom_of_tagAt? (hnone _) (hword.opens _)]
    simp only [Nat.zero_add, Nat.add_zero]
    rw [hpassed, piecesFrom_of_tagAt? hescapes (by rw [hdrop]; exact hword.closes after),
      piecesFrom_of_tagFree hafter hlast' left hafter']
    simp [escapedTag, withPlain]

/-! ### What remains of a text

Two numbers are compared: the marks in the text of all pieces, and the marks that are written. The
number of tags stands between them.
-/

/-- The text of a piece; a tag has none. -/
def Piece.text : Piece → List Char
  | .plain cs => cs
  | .tag _ _ => []

theorem flatMap_withPlain {f : Piece → List Char} (hplain : f (.plain []) = []) (cs : List Char)
    (ps : List Piece) : (withPlain cs ps).flatMap f = f (.plain cs) ++ ps.flatMap f := by
  cases cs with
  | nil => rw [hplain]; rfl
  | cons c cs => rfl

/-- What is collected from a tag with its backslashes: half of them, and the tag itself if it is
text. -/
theorem flatMap_escapedTag {f : Piece → List Char} (hplain : f (.plain []) = [])
    (htag : ∀ position body, f (.tag position body) = []) (position escapes : Nat)
    (body : List Char) :
    (escapedTag position escapes body).flatMap f =
      f (.plain (List.replicate (escapes / 2) '\\')) ++
        if escapes % 2 = 1 then f (.plain ('[' :: (body ++ [']']))) else [] := by
  have hnone : escapes < 2 → escapes / 2 = 0 := by omega
  rw [escapedTag, List.flatMap_append]
  split <;> rename_i hfew <;> split <;> simp [hnone, hfew, hplain, htag]

/-- The number of places where a tag begins. Tags do not overlap, so this is also the number of
tags; but it is defined without reading the text, and can be compared for parts of it. -/
def tagCount : List Char → Nat
  | [] => 0
  | c :: cs => (if (tagAt? (c :: cs)).isSome then 1 else 0) + tagCount cs

theorem tagCount_cons_of_none {c : Char} {cs : List Char} (h : tagAt? (c :: cs) = none) :
    tagCount (c :: cs) = tagCount cs := by
  simp [tagCount, h]

theorem tagCount_append_of_notMem {lead : List Char} (h : '[' ∉ lead) (cs : List Char) :
    tagCount (lead ++ cs) = tagCount cs := by
  induction lead with
  | nil => rfl
  | cons c lead ih =>
    obtain ⟨hc, hlead⟩ := not_or.1 (mt List.mem_cons.2 h)
    rw [List.cons_append, tagCount_cons_of_none (tagAt?_cons_of_ne (Ne.symm hc)), ih hlead]

/-- Behind a tag the count goes on after its closing bracket, since no tag begins inside. -/
theorem tagCount_of_tagAt? {cs body after : List Char} (h : tagAt? cs = some (body, after)) :
    cs = '[' :: (body ++ ']' :: after) ∧ tagCount cs = 1 + tagCount after := by
  obtain ⟨c, inner, rfl, hc, hinner, rfl⟩ := exists_of_tagAt? h
  refine ⟨rfl, ?_⟩
  have hnone : '[' ∉ c :: (inner ++ [']']) := by
    simp only [List.mem_cons, List.mem_append, List.not_mem_nil, or_false, not_or]
    refine ⟨?_, fun hmem => (hinner _ hmem).2 rfl, by decide⟩
    rintro rfl
    exact absurd hc (by decide)
  have hskipped := tagCount_append_of_notMem hnone after
  rw [List.cons_append, List.append_assoc, List.singleton_append] at hskipped
  rw [tagCount, h, hskipped]
  rfl

/-- Putting texts together may make more tags, and does not make fewer. -/
theorem tagCount_add_le (cs ds : List Char) : tagCount cs + tagCount ds ≤ tagCount (cs ++ ds) := by
  induction cs with
  | nil => simp [tagCount]
  | cons c cs ih =>
    cases htag : tagAt? (c :: cs) with
    | none =>
      rw [tagCount_cons_of_none htag, List.cons_append, tagCount]
      omega
    | some found =>
      have hkept : tagAt? (c :: (cs ++ ds)) = _ := tagAt?_append htag ds
      rw [List.cons_append, tagCount, tagCount, htag, hkept]
      simp only [Option.isSome_some, if_true]
      omega

theorem tagFree_of_tagCount_eq_zero {cs : List Char} (h : tagCount cs = 0) : TagFree cs := by
  induction cs with
  | nil => simp [TagFree, tagAt?]
  | cons c cs ih =>
    obtain ⟨hfirst, hrest⟩ := Nat.add_eq_zero_iff.1 h
    exact tagFree_cons.2 ⟨by simpa using hfirst, ih hrest⟩

/-- A text in a style has the two tags of the style, and its own. -/
theorem tagCount_add_two_le {word : List Char} (hword : StyleWord word) (body after : List Char) :
    tagCount body + 2 ≤
      tagCount ('[' :: (word ++ ']' :: (body ++ '[' :: '/' :: (word ++ ']' :: after)))) := by
  obtain ⟨-, hopens⟩ := tagCount_of_tagAt?
    (hword.opens (body ++ '[' :: '/' :: (word ++ ']' :: after)))
  obtain ⟨-, hcloses⟩ := tagCount_of_tagAt? (hword.closes after)
  have hinner := tagCount_add_le body ('[' :: '/' :: (word ++ ']' :: after))
  rw [hcloses] at hinner
  rw [hopens]
  omega

theorem slashes_append_drop (cs : List Char) :
    List.replicate (cs.takeWhile (· = '\\')).length '\\' ++
      cs.drop (cs.takeWhile (· = '\\')).length = cs := by
  induction cs with
  | nil => rfl
  | cons c cs ih =>
    by_cases hc : c = '\\'
    · simpa [hc, List.replicate_succ] using ih
    · simp [hc]

/-- **What a step does**: it takes a tag with the backslashes before it, or text in which no tag
begins. -/
theorem piecesFrom_succ_cases (fuel : Nat) (before : List Char) (position : Nat) {cs : List Char}
    (hne : cs ≠ []) :
    (∃ escapes body after, cs = List.replicate escapes '\\' ++ '[' :: (body ++ ']' :: after) ∧
      tagCount cs = 1 + tagCount after ∧
      piecesFrom (fuel + 1) before position cs =
        withPlain before.reverse (escapedTag position escapes body ++
          piecesFrom fuel [] (position + escapes + body.length + 2) after)) ∨
    ∃ lead rest further, lead ≠ [] ∧ cs = lead ++ rest ∧ tagCount cs = tagCount rest ∧
      piecesFrom (fuel + 1) before position cs =
        piecesFrom fuel (lead.reverse ++ before) further rest := by
  have hwhole := slashes_append_drop cs
  generalize hescapes : (cs.takeWhile (· = '\\')).length = escapes at hwhole
  have hskipped : tagCount cs = tagCount (cs.drop escapes) := by
    conv_lhs => rw [← hwhole]
    refine tagCount_append_of_notMem (fun hmem => ?_) _
    exact absurd (List.eq_of_mem_replicate hmem) (by decide)
  cases htag : tagAt? (cs.drop escapes) with
  | some found =>
    obtain ⟨body, after⟩ := found
    obtain ⟨heq, hcount⟩ := tagCount_of_tagAt? htag
    exact .inl ⟨escapes, body, after, by rw [← heq, hwhole], by rw [hskipped, hcount],
      piecesFrom_of_tagAt? hescapes htag⟩
  | none =>
    obtain ⟨c, cs, rfl⟩ := List.exists_cons_of_ne_nil hne
    by_cases hzero : escapes = 0
    · subst hzero
      have hslash : c ≠ '\\' := by
        rintro rfl
        simp at hescapes
      rw [List.drop_zero] at htag
      exact .inr ⟨[c], cs, position + 1, List.cons_ne_nil _ _, rfl, tagCount_cons_of_none htag,
        piecesFrom_cons hslash htag⟩
    · refine .inr ⟨List.replicate escapes '\\', _, position + escapes, ?_, hwhole.symm, hskipped,
        ?_⟩
      · simpa using hzero
      · rw [List.reverse_replicate]
        exact piecesFrom_of_escapes hescapes (Nat.pos_of_ne_zero hzero) htag

theorem piecesFrom_nil_right (fuel : Nat) (before : List Char) (position : Nat) :
    piecesFrom fuel before position [] = withPlain before.reverse [] := by
  cases fuel <;> simp [piecesFrom]

/-- Whether a character may be lost as markup: an opening bracket, or a backslash. -/
def isMark (c : Char) : Bool := c == '[' || c == '\\'

/-- **Each tag costs a bracket or a backslash**: its own bracket, or, if it is text, one of the
backslashes before it. -/
theorem countP_text_piecesFrom_add_tagCount_le {fuel : Nat} {cs : List Char}
    (hfuel : cs.length ≤ fuel) (before : List Char) (position : Nat) :
    ((piecesFrom fuel before position cs).flatMap Piece.text).countP isMark + tagCount cs ≤
      before.countP isMark + cs.countP isMark := by
  induction fuel generalizing cs before position with
  | zero =>
    obtain rfl := List.length_eq_zero_iff.1 (Nat.le_zero.1 hfuel)
    rw [piecesFrom_nil_right, flatMap_withPlain rfl]
    simp [tagCount, Piece.text]
  | succ fuel ih =>
    by_cases hne : cs = []
    · subst hne
      rw [piecesFrom_nil_right, flatMap_withPlain rfl]
      simp [tagCount, Piece.text]
    · obtain ⟨escapes, body, after, rfl, hcount, heq⟩ |
          ⟨lead, rest, further, hlead, rfl, hcount, heq⟩ :=
        piecesFrom_succ_cases fuel before position hne
      · have hshorter : after.length ≤ fuel := by
          simp only [List.length_append, List.length_cons] at hfuel
          omega
        have hafter := ih hshorter [] (position + escapes + body.length + 2)
        have hslashes (n : Nat) : (List.replicate n '\\').countP isMark = n := by
          rw [List.countP_replicate]
          rfl
        have hopening (cs : List Char) : ('[' :: cs).countP isMark = cs.countP isMark + 1 :=
          List.countP_cons_of_pos rfl
        have hclosing (cs : List Char) : (']' :: cs).countP isMark = cs.countP isMark :=
          List.countP_cons_of_neg Bool.false_ne_true
        rw [heq, hcount, flatMap_withPlain rfl, List.flatMap_append,
          flatMap_escapedTag rfl fun _ _ => rfl]
        split <;>
          simp only [Piece.text, List.countP_append, List.countP_reverse, List.countP_nil, hslashes,
            hopening, hclosing] at hafter ⊢ <;>
          omega
      · have hshorter : rest.length ≤ fuel := by
          have := List.length_pos_of_ne_nil hlead
          simp only [List.length_append] at hfuel
          omega
        have hrest := ih hshorter (lead.reverse ++ before) further
        rw [heq, hcount]
        simp only [List.countP_append, List.countP_reverse] at hrest ⊢
        omega

/-- The bound for a whole text, which has nothing before it. -/
theorem countP_text_pieces_add_tagCount_le (cs : List Char) :
    ((pieces cs).flatMap Piece.text).countP isMark + tagCount cs ≤ cs.countP isMark := by
  have h := countP_text_piecesFrom_add_tagCount_le (Nat.le_refl cs.length) [] 0
  rwa [List.countP_nil, Nat.zero_add] at h

theorem mem_withPlain {piece : Piece} {cs : List Char} {ps : List Piece}
    (h : piece ∈ withPlain cs ps) : piece = .plain cs ∨ piece ∈ ps := by
  unfold withPlain at h
  split at h
  · exact .inr h
  · exact List.mem_cons.1 h

/-- A tag that is text is given as it is written, with backslashes that stand there. -/
theorem infix_of_mem_escapedTag {piece : Piece} {position escapes : Nat} {body : List Char}
    (h : piece ∈ escapedTag position escapes body) :
    piece.text <:+: List.replicate escapes '\\' ++ '[' :: (body ++ [']']) := by
  rw [escapedTag, List.mem_append, List.mem_singleton] at h
  obtain hslashes | htag := h
  · split at hslashes
    · cases hslashes
    · rw [List.mem_singleton.1 hslashes]
      have hhalf : List.replicate (escapes / 2) '\\' <+: List.replicate escapes '\\' :=
        ⟨List.replicate (escapes - escapes / 2) '\\', by simp; omega⟩
      exact (hhalf.trans (List.prefix_append _ _)).isInfix
  · split at htag
    · rw [htag]
      exact (List.suffix_append _ _).isInfix
    · rw [htag]
      exact List.nil_infix

/-- The text of a piece is a part of the whole. -/
theorem infix_of_mem_piecesFrom {fuel position : Nat} {before cs : List Char} {piece : Piece}
    (h : piece ∈ piecesFrom fuel before position cs) : piece.text <:+: before.reverse ++ cs := by
  induction fuel generalizing before position cs with
  | zero =>
    obtain rfl | hnone := mem_withPlain h
    · exact List.infix_rfl
    · cases hnone
  | succ fuel ih =>
    by_cases hne : cs = []
    · subst hne
      rw [piecesFrom_nil_right] at h
      obtain rfl | hnone := mem_withPlain h
      · exact (List.prefix_append _ _).isInfix
      · cases hnone
    · obtain ⟨escapes, body, after, rfl, -, heq⟩ | ⟨lead, rest, further, -, rfl, -, heq⟩ :=
        piecesFrom_succ_cases fuel before position hne
      · rw [heq] at h
        obtain rfl | hlater := mem_withPlain h
        · exact (List.prefix_append _ _).isInfix
        · refine List.IsInfix.trans ?_ (List.suffix_append _ _).isInfix
          obtain htag | hafter := List.mem_append.1 hlater
          · refine (infix_of_mem_escapedTag htag).trans (List.IsPrefix.isInfix ⟨after, ?_⟩)
            simp
          · refine (ih hafter).trans (List.IsSuffix.isInfix
              ⟨List.replicate escapes '\\' ++ '[' :: (body ++ [']']), ?_⟩)
            simp
      · rw [heq] at h
        simpa using ih h

end Walkthrough.Terminal
