import Mathlib.Data.List.DropRight
import Walkthrough.Terminal.Wrap

/-!
# What breaking lines keeps

Where a text is broken into lines, white space may be lost at the end of a line, and nothing else.
So the text can be read off its lines one behind the other, up to the first place where white space
has been lost. It is enough here that this is so for the words that still fit on the first line, and
for the next one, however long that is: whether it is put behind them, or on a line of its own, or
cut into pieces, it comes right behind them, and is whole.

All this is about text of which each character takes one cell. What carries the induction on the
words is that the line that is being filled fits, without the white space at its end, and that its
cells have been counted right.

## Cropping

Lines are laid out first, with the white space between words at their ends, and cropped afterwards.
A line may be longer than the width only by such white space. Cropping takes away what hangs over,
and it is here that something is lost. `Terminal.runOn` is the text after cropping, with the lines
put together again.

## Why not the whole text

One might wish to say that everything but white space is kept, and it is true; but what is needed
elsewhere is where the beginning of a text is found again, without any gap. So the statement is
about a prefix: the words that fit on the first line are put there with the white space between
them, and the word that comes next follows without a gap wherever it is put.

## Main definitions

* `Terminal.Narrow` — a text of which each character takes one cell
* `Terminal.runOn` — the text of lines that are cropped, without the breaks between them

## Main results

* `Terminal.append_prefix_layOut` — the word behind a line comes right behind it, and is whole
* `Terminal.prefix_flatten_wrap` — a text begins with the words that fit on its first line, and the
  next one
-/

namespace Walkthrough.Text

variable {p : Char → Bool}

/-! ### White space at the end

Of two texts put together, the white space at the end is that of the second one, unless there is
nothing else in it. Then it reaches into the first.
-/

theorem dropTrailing_eq_rdropWhile (p : Char → Bool) (cs : List Char) :
    dropTrailing p cs = cs.rdropWhile p := rfl

/-- What is left when the white space at the end is taken off is a beginning of the text. -/
theorem dropTrailing_prefix_self (p : Char → Bool) (cs : List Char) : dropTrailing p cs <+: cs := by
  rw [dropTrailing_eq_rdropWhile]
  exact List.rdropWhile_prefix p cs

theorem dropTrailing_append (p : Char → Bool) (cs ds : List Char) :
    dropTrailing p (cs ++ ds) =
      if dropTrailing p ds = [] then dropTrailing p cs else cs ++ dropTrailing p ds := by
  simp only [dropTrailing, List.reverse_append, List.dropWhile_append, List.isEmpty_iff,
    List.reverse_eq_nil_iff]
  split <;> simp

theorem dropTrailing_prefix_append (p : Char → Bool) (cs ds : List Char) :
    dropTrailing p cs <+: dropTrailing p (cs ++ ds) := by
  rw [dropTrailing_append]
  split
  · exact List.prefix_rfl
  · exact (dropTrailing_prefix_self p cs).trans (List.prefix_append _ _)

theorem dropTrailing_append_prefix_append (p : Char → Bool) (cs ds : List Char) :
    dropTrailing p (cs ++ ds) <+: cs ++ dropTrailing p ds := by
  rw [dropTrailing_append]
  split
  · exact (dropTrailing_prefix_self p cs).trans (List.prefix_append _ _)
  · exact List.prefix_rfl

end Walkthrough.Text

namespace Walkthrough.Terminal

open Text

variable {width : Nat} {line word : List Char} {ws : List (List Char)}

/-! ### Cells

With one cell for each character, the width of a text is its length, and so are the counts that
laying out keeps.
-/

/-- Each character of a text takes one cell. -/
def Narrow (cs : List Char) : Prop := ∀ c ∈ cs, cellWidth c = 1

instance (cs : List Char) : Decidable (Narrow cs) :=
  List.decidableBAll (fun c => cellWidth c = 1) cs

theorem Narrow.append {cs ds : List Char} (hcs : Narrow cs) (hds : Narrow ds) :
    Narrow (cs ++ ds) :=
  fun c hc => (List.mem_append.1 hc).elim (hcs c) (hds c)

theorem Narrow.cellCount {cs : List Char} (h : Narrow cs) : cellCount cs = cs.length := by
  induction cs with
  | nil => rfl
  | cons c cs ih =>
    obtain ⟨hc, hcs⟩ := List.forall_mem_cons.1 h
    rw [Terminal.cellCount, hc, ih hcs, List.length_cons, Nat.add_comm]

theorem Narrow.of_isPrefix {cs ds : List Char} (h : Narrow ds) (hkeeps : cs <+: ds) : Narrow cs :=
  fun c hc => h c (hkeeps.subset hc)

/-! ### A line that is cropped

A line that fits is not changed, and of a line that does not fit no more is lost than white space.
-/

theorem dropOverhang_prefix_self (width : Nat) (line : List Char) :
    dropOverhang width line <+: line :=
  List.take_prefix _ _

/-- Cropping a line takes off no more than the white space at its end. -/
theorem dropTrailing_prefix_dropOverhang (width : Nat) (line : List Char) :
    dropTrailing isBlank line <+: dropOverhang width line := by
  have hkeeps := dropTrailing_prefix_self isBlank line
  refine List.prefix_take_iff.2 ⟨hkeeps, ?_⟩
  have := hkeeps.length_le
  omega

/-- A line that fits is not cropped. -/
theorem dropOverhang_of_length_le (h : line.length ≤ width) : dropOverhang width line = line := by
  refine List.take_of_length_le ?_
  omega

theorem length_dropOverhang_le (h : (dropTrailing isBlank line).length ≤ width) :
    (dropOverhang width line).length ≤ width := by
  rw [dropOverhang, List.length_take]
  omega

/-- The text of lines, cropped as they are printed, without the breaks between them. It depends on
the lines and the width alone, and is defined for lines that do not come from laying out words as
well. -/
def runOn (width : Nat) (lines : List (List Char)) : List Char :=
  lines.flatMap fun line => truncate width .fold (dropOverhang width line)

theorem runOn_append (width : Nat) (lines others : List (List Char)) :
    runOn width (lines ++ others) = runOn width lines ++ runOn width others :=
  List.flatMap_append

/-- A line that fits without the white space at its end keeps the rest. -/
theorem dropTrailing_prefix_runOn (hline : Narrow line)
    (hfits : (dropTrailing isBlank line).length ≤ width) (rest : List (List Char)) :
    dropTrailing isBlank line <+: runOn width (line :: rest) := by
  have hcells : cellCount (dropOverhang width line) ≤ width := by
    rw [(hline.of_isPrefix (dropOverhang_prefix_self width line)).cellCount]
    exact length_dropOverhang_le hfits
  rw [runOn, List.flatMap_cons, truncate, if_pos hcells]
  exact (dropTrailing_prefix_dropOverhang width line).trans (List.prefix_append _ _)

/-- A line that fits is kept as it is. -/
theorem runOn_cons_of_length_le (hline : Narrow line) (h : line.length ≤ width)
    (rest : List (List Char)) : runOn width (line :: rest) = line ++ runOn width rest := by
  rw [runOn, List.flatMap_cons, dropOverhang_of_length_le h, truncate,
    if_pos (hline.cellCount ▸ h)]
  rfl

/-- Lines that fit are put together as they are. -/
theorem runOn_of_length_le {lines : List (List Char)}
    (h : ∀ line ∈ lines, Narrow line ∧ line.length ≤ width) :
    runOn width lines = lines.flatten := by
  induction lines with
  | nil => rfl
  | cons line lines ih =>
    obtain ⟨⟨hline, hlength⟩, hlines⟩ := List.forall_mem_cons.1 h
    rw [runOn_cons_of_length_le hline hlength, ih hlines, List.flatten_cons]

/-- A line that fits is whole in front of the others. -/
theorem runOn_finishLine (hline : Narrow line) (h : line.length ≤ width)
    (rest : List (List Char)) : runOn width (finishLine line rest) = line ++ runOn width rest := by
  cases line with
  | nil => rfl
  | cons c line => exact runOn_cons_of_length_le hline h rest

theorem dropTrailing_prefix_runOn_finishLine (hline : Narrow line)
    (hfits : (dropTrailing isBlank line).length ≤ width) (rest : List (List Char)) :
    dropTrailing isBlank line <+: runOn width (finishLine line rest) := by
  cases line with
  | nil => exact List.nil_prefix
  | cons c line => exact dropTrailing_prefix_runOn hline hfits rest

/-! ### A word that is cut

A word that is too long for a line is cut into pieces. The last one begins the next line, and more
words may be put behind it.
-/

/-- The pieces that a word is cut into are the word. -/
theorem flatten_chop (width : Nat) (cs piece : List Char) (used : Nat) :
    (chop width piece used cs).flatten = piece.reverse ++ cs := by
  induction cs generalizing piece used with
  | nil => simp [chop]
  | cons c cs ih =>
    rw [chop]
    split <;> simp [ih]

theorem chop_ne_nil (width : Nat) (cs piece : List Char) (used : Nat) :
    chop width piece used cs ≠ [] := by
  induction cs generalizing piece used with
  | nil => exact List.cons_ne_nil _ _
  | cons c cs ih =>
    rw [chop]
    split
    · exact ih _ _
    · exact List.cons_ne_nil _ _

/-- The pieces of a word fit. -/
theorem length_le_of_mem_chop (hwidth : 0 < width) {cs : List Char} (hcs : Narrow cs)
    (piece : List Char) (hpiece : piece.length ≤ width) {part : List Char}
    (hpart : part ∈ chop width piece piece.length cs) : part.length ≤ width := by
  induction cs generalizing piece with
  | nil =>
    rw [chop, List.mem_singleton] at hpart
    rwa [hpart, List.length_reverse]
  | cons c cs ih =>
    obtain ⟨hc, hcs⟩ := List.forall_mem_cons.1 hcs
    rw [chop, hc] at hpart
    split at hpart
    · rename_i hroom
      exact ih hcs (c :: piece) hroom hpart
    · obtain rfl | hlater := List.mem_cons.1 hpart
      · rwa [List.length_reverse]
      · exact ih hcs [c] hwidth hlater

/-- The last piece of a word that is cut, which begins the next line. -/
def lastPiece (width : Nat) (word : List Char) : List Char := (chop width [] 0 word).getLastD []

theorem dropLast_chop_append (width : Nat) (word : List Char) :
    (chop width [] 0 word).dropLast ++ [lastPiece width word] = chop width [] 0 word := by
  rw [lastPiece, List.getLastD_eq_getLast?, List.getLast?_eq_some_getLast (chop_ne_nil _ _ _ _)]
  exact List.dropLast_append_getLast _

/-- Nothing of a word is lost where it is cut. -/
theorem flatten_dropLast_chop_append (width : Nat) (word : List Char) :
    (chop width [] 0 word).dropLast.flatten ++ lastPiece width word = word := by
  have hflat := flatten_chop width word [] 0
  rw [← dropLast_chop_append, List.flatten_append] at hflat
  simpa using hflat

/-- The pieces of a word are parts of it. -/
theorem Narrow.of_mem_chop (hword : Narrow word) {part : List Char}
    (hpart : part ∈ chop width [] 0 word) : Narrow part := by
  intro c hc
  have hmem := List.mem_flatten_of_mem hpart hc
  rw [flatten_chop] at hmem
  exact hword c hmem

theorem lastPiece_mem_chop (width : Nat) (word : List Char) :
    lastPiece width word ∈ chop width [] 0 word := by
  rw [← dropLast_chop_append]
  exact List.mem_append_right _ (List.mem_singleton_self _)

/-! ### Laying out words

By induction on the words that are left. The line that is being filled comes from the words before.
-/

/-- What is done with the next word: it is put on the line, or cut, or put on the next line. -/
theorem layOut_cons_of_narrow (width : Nat) (line : List Char) (hword : Narrow word)
    (ws : List (List Char)) :
    layOut width .fold line line.length (word :: ws) =
      if (line ++ dropTrailing isBlank word).length ≤ width then
        layOut width .fold (line ++ word) (line ++ word).length ws
      else if width < (dropTrailing isBlank word).length then
        finishLine line ((chop width [] 0 word).dropLast ++
          layOut width .fold (lastPiece width word) (lastPiece width word).length ws)
      else finishLine line (layOut width .fold word word.length ws) := by
  have hneeded := (hword.of_isPrefix (dropTrailing_prefix_self isBlank word)).cellCount
  have hlast := (hword.of_mem_chop (lastPiece_mem_chop width word)).cellCount
  simp only [layOut, hneeded, hword.cellCount, List.length_append, and_true]
  rw [← lastPiece, hlast]

/-- **The line that is being filled** comes first, without the white space at its end. -/
theorem dropTrailing_prefix_layOut (hline : Narrow line) (hws : ∀ w ∈ ws, Narrow w)
    (hfits : (dropTrailing isBlank line).length ≤ width) :
    dropTrailing isBlank line <+: runOn width (layOut width .fold line line.length ws) := by
  induction ws generalizing line with
  | nil => exact dropTrailing_prefix_runOn hline hfits []
  | cons word ws ih =>
    obtain ⟨hword, hws⟩ := List.forall_mem_cons.1 hws
    rw [layOut_cons_of_narrow width line hword ws]
    split
    · rename_i hroom
      have hfits' := (dropTrailing_append_prefix_append isBlank line word).length_le.trans hroom
      exact (dropTrailing_prefix_append isBlank line word).trans
        (ih (hline.append hword) hws hfits')
    · split <;> exact dropTrailing_prefix_runOn_finishLine hline hfits _

/-- **The next word** comes right behind a line that fits, and is whole: on the same line, on lines
that it fills, or on the next one. -/
theorem append_prefix_layOut (hwidth : 0 < width) (hline : Narrow line)
    (hlength : line.length ≤ width) (hword : Narrow word) (hws : ∀ w ∈ ws, Narrow w)
    (hne : dropTrailing isBlank word ≠ []) :
    line ++ dropTrailing isBlank word <+:
      runOn width (layOut width .fold line line.length (word :: ws)) := by
  rw [layOut_cons_of_narrow width line hword ws]
  split
  · rename_i hroom
    have hbehind : dropTrailing isBlank (line ++ word) = line ++ dropTrailing isBlank word := by
      rw [dropTrailing_append, if_neg hne]
    rw [← hbehind] at hroom ⊢
    exact dropTrailing_prefix_layOut (hline.append hword) hws hroom
  · split
    · -- the word is cut, and only its last piece may lose white space
      have hpieces : ∀ part ∈ chop width [] 0 word, Narrow part ∧ part.length ≤ width :=
        fun part hpart => ⟨hword.of_mem_chop hpart,
          length_le_of_mem_chop hwidth hword [] (Nat.zero_le width) hpart⟩
      obtain ⟨hnarrow, hlength'⟩ := hpieces _ (lastPiece_mem_chop width word)
      have hlater := dropTrailing_prefix_layOut hnarrow hws
        ((dropTrailing_prefix_self isBlank _).length_le.trans hlength')
      have hkept := dropTrailing_append_prefix_append isBlank
        (chop width [] 0 word).dropLast.flatten (lastPiece width word)
      rw [flatten_dropLast_chop_append] at hkept
      rw [runOn_finishLine hline hlength, List.prefix_append_right_inj, runOn_append,
        runOn_of_length_le fun part hpart => hpieces part (List.dropLast_subset _ hpart)]
      exact hkept.trans ((List.prefix_append_right_inj _).2 hlater)
    · rename_i hlong
      rw [runOn_finishLine hline hlength, List.prefix_append_right_inj]
      exact dropTrailing_prefix_layOut hword hws (Nat.le_of_not_lt hlong)

/-- Words that fit on a line are put on it. -/
theorem layOut_append (width : Nat) {front : List (List Char)} (hfront : ∀ w ∈ front, Narrow w)
    (line : List Char) (hlength : (line ++ front.flatten).length ≤ width)
    (rest : List (List Char)) :
    layOut width .fold line line.length (front ++ rest) =
      layOut width .fold (line ++ front.flatten) (line ++ front.flatten).length rest := by
  induction front generalizing line with
  | nil => simp
  | cons word front ih =>
    obtain ⟨hword, hfront⟩ := List.forall_mem_cons.1 hfront
    rw [List.flatten_cons, ← List.append_assoc] at hlength ⊢
    have hroom : (line ++ dropTrailing isBlank word).length ≤ width := by
      have hkeeps := (List.prefix_append_right_inj line).2 (dropTrailing_prefix_self isBlank word)
      exact ((hkeeps.trans (List.prefix_append _ _)).length_le).trans hlength
    rw [List.cons_append, layOut_cons_of_narrow width line hword, if_pos hroom,
      ih hfront (line ++ word) hlength]

/-! ### Words

A word takes the white space behind it along, and the first one also what is in front of it. So a
text is its words put together, or it is nothing but white space.
-/

theorem expandTabsFrom_of_notMem {cs : List Char} (h : '\t' ∉ cs) (used : Nat) :
    expandTabsFrom used cs = cs := by
  induction cs generalizing used with
  | nil => rfl
  | cons c cs ih =>
    obtain ⟨hc, hcs⟩ := not_or.1 (mt List.mem_cons.2 h)
    rw [expandTabsFrom, if_neg (Ne.symm hc), ih hcs]

/-- A text begins with its words. -/
theorem flatten_wordsWithin_prefix_self (fuel : Nat) (cs : List Char) :
    (wordsWithin fuel cs).flatten <+: cs := by
  induction fuel generalizing cs with
  | zero => exact List.nil_prefix
  | succ fuel ih =>
    rw [wordsWithin]
    split
    · exact List.nil_prefix
    · have hblanks : cs.takeWhile isBlank ++ cs.dropWhile isBlank = cs :=
        List.takeWhile_append_dropWhile
      generalize cs.takeWhile isBlank = blanks at hblanks ⊢
      generalize cs.dropWhile isBlank = afterBlanks at hblanks ⊢
      have hletters : afterBlanks.takeWhile (!isBlank ·) ++ afterBlanks.dropWhile (!isBlank ·) =
          afterBlanks := List.takeWhile_append_dropWhile
      generalize afterBlanks.takeWhile (!isBlank ·) = letters at hletters ⊢
      generalize afterBlanks.dropWhile (!isBlank ·) = afterLetters at hletters ⊢
      have hrest : afterLetters.takeWhile isBlank ++ afterLetters.dropWhile isBlank =
          afterLetters := List.takeWhile_append_dropWhile
      have hlater := (List.prefix_append_right_inj (afterLetters.takeWhile isBlank)).2
        (ih (afterLetters.dropWhile isBlank))
      rw [hrest] at hlater
      rw [List.flatten_cons, List.append_assoc, List.append_assoc, ← hblanks, ← hletters]
      exact (List.prefix_append_right_inj _).2 ((List.prefix_append_right_inj _).2 hlater)

/-- Letters up to a blank are the first word, with the blank, if no other blank follows. -/
theorem wordsWithin_succ {letters rest : List Char} {blank : Char} (fuel : Nat)
    (hletters : letters.any isBlank = false) (hne : letters ≠ [])
    (hblank : isBlank blank = true) (hrest : rest.head?.any isBlank = false) :
    wordsWithin (fuel + 1) (letters ++ blank :: rest) =
      (letters ++ [blank]) :: wordsWithin fuel rest := by
  have hletter : ∀ c ∈ letters, isBlank c = false := by simpa using hletters
  have hnone : rest.takeWhile isBlank = [] ∧ rest.dropWhile isBlank = rest := by
    cases rest with
    | nil => exact ⟨rfl, rfl⟩
    | cons c rest =>
      have hc : isBlank c = false := hrest
      simp [hc]
  have hfirst : (letters ++ blank :: rest).takeWhile isBlank = [] ∧
      (letters ++ blank :: rest).dropWhile isBlank = letters ++ blank :: rest := by
    cases letters with
    | nil => exact absurd rfl hne
    | cons c letters => simp [hletter c List.mem_cons_self]
  have hword : (letters ++ blank :: rest).takeWhile (!isBlank ·) = letters ∧
      (letters ++ blank :: rest).dropWhile (!isBlank ·) = blank :: rest := by
    have hpos : ∀ c ∈ letters, (!isBlank c) = true := fun c hc => by simp [hletter c hc]
    simp [List.takeWhile_append_of_pos hpos, List.dropWhile_append_of_pos hpos, hblank]
  simp [wordsWithin, hfirst, hword, hblank, hnone, hne]

/-! ### A text that is printed -/

theorem flatten_finishLine (line : List Char) (rest : List (List Char)) :
    (finishLine line rest).flatten = line ++ rest.flatten := by
  cases line <;> rfl

/-- Nothing is lost where words are laid out, and nothing is added. -/
theorem flatten_layOut (width : Nat) (overflow : Overflow) (line : List Char) (used : Nat)
    (ws : List (List Char)) :
    (layOut width overflow line used ws).flatten = line ++ ws.flatten := by
  induction ws generalizing line used with
  | nil => simp [layOut]
  | cons word ws ih =>
    rw [layOut]
    split
    · rw [ih, List.append_assoc, List.flatten_cons]
    · split
      · rw [flatten_finishLine, List.flatten_append, ih, ← List.append_assoc _ _ ws.flatten,
          ← lastPiece, flatten_dropLast_chop_append, List.flatten_cons]
      · rw [flatten_finishLine, ih, List.flatten_cons]

/-- A text without tabs and line feeds is broken into the lines of its words. -/
theorem wrap_of_narrow (width : Nat) {cs : List Char} (hcs : Narrow cs) :
    ∃ lines : List (List Char), lines.flatten <+: cs ∧
      wrap width .fold cs = lines.map (dropOverhang width) ∧
      (words cs ≠ [] → lines = layOut width .fold [] 0 (words cs)) := by
  have hfeed : '\n' ∉ cs := fun hmem => absurd (hcs _ hmem) (by decide)
  have htab : '\t' ∉ cs := fun hmem => absurd (hcs _ hmem) (by decide)
  rw [wrap, List.splitOn_eq_singleton hfeed, List.flatMap_singleton, wrapLine, expandTabs,
    expandTabsFrom_of_notMem htab]
  rcases hwords : words cs with _ | ⟨word, ws⟩
  · exact ⟨[cs], by simp, rfl, by simp⟩
  · refine ⟨_, ?_, rfl, fun _ => rfl⟩
    rw [flatten_layOut, ← hwords]
    exact flatten_wordsWithin_prefix_self _ _

/-- **A text begins with the words that fit on its first line**, and with the next word, whole. -/
theorem prefix_flatten_wrap (hwidth : 0 < width) {cs : List Char} (hcs : Narrow cs)
    {front : List (List Char)} (hwords : words cs = front ++ word :: ws)
    (hlength : front.flatten.length ≤ width) (hne : dropTrailing isBlank word ≠ []) :
    front.flatten ++ dropTrailing isBlank word <+:
      ((wrap width .fold cs).map (truncate width .fold)).flatten := by
  obtain ⟨lines, -, hwrap, hlines⟩ := wrap_of_narrow width hcs
  have hlaid := hlines (by simp [hwords])
  rw [hwords] at hlaid
  have hflat : Narrow (front.flatten ++ (word ++ ws.flatten)) := by
    have hkept := flatten_wordsWithin_prefix_self cs.length cs
    rw [← words, hwords, List.flatten_append, List.flatten_cons] at hkept
    exact hcs.of_isPrefix hkept
  have hfront : ∀ w ∈ front, Narrow w := fun w hw c hc =>
    hflat c (List.mem_append_left _ (List.mem_flatten_of_mem hw hc))
  have hws : ∀ w ∈ ws, Narrow w := fun w hw c hc =>
    hflat c (List.mem_append_right _ (List.mem_append_right _ (List.mem_flatten_of_mem hw hc)))
  have hword : Narrow word := fun c hc =>
    hflat c (List.mem_append_right _ (List.mem_append_left _ hc))
  have hbegun := layOut_append width hfront [] hlength (word :: ws)
  rw [List.nil_append, List.length_nil] at hbegun
  rw [hwrap, hlaid, hbegun, List.map_map]
  exact append_prefix_layOut hwidth (hflat.of_isPrefix (List.prefix_append _ _)) hlength hword hws
    hne

/-! ### What is not added

Counting characters that are no blanks gives a bound in the other direction, with no regard to where
they stand.
-/

section Count

variable {p : Char → Bool}

theorem countP_cutWithin_le (hp : p ' ' = false) (total : Nat) (cs : List Char)
    (fuel low high : Nat) : (cutWithin total cs fuel low high).countP p ≤ cs.countP p := by
  induction fuel generalizing low high with
  | zero => exact Nat.le_refl _
  | succ fuel ih =>
    have hfront (n : Nat) : (cs.take n).countP p ≤ cs.countP p := (List.take_sublist n cs).countP_le
    rw [cutWithin]
    split
    · rw [List.countP_append, List.countP_singleton, hp]
      exact ((List.dropLast_sublist _).countP_le).trans (hfront _)
    · split
      · exact hfront _
      · split
        · exact ih _ _
        · exact ih _ _

/-- A line that is truncated gets spaces at most. -/
theorem countP_truncate_le (hp : p ' ' = false) (width : Nat) (line : List Char) :
    (truncate width .fold line).countP p ≤ line.countP p := by
  rw [truncate]
  split
  · exact Nat.le_refl _
  · rename_i hwide
    show (setCells width line).countP p ≤ line.countP p
    rw [setCells, if_neg hwide]
    split
    · exact Nat.zero_le _
    · exact countP_cutWithin_le hp _ _ _ _ _

/-- **Only white space is added** where a text is broken into lines. -/
theorem countP_flatten_wrap_le (hp : p ' ' = false) (width : Nat) {cs : List Char}
    (hcs : Narrow cs) :
    (((wrap width .fold cs).map (truncate width .fold)).flatten).countP p ≤ cs.countP p := by
  obtain ⟨lines, hkept, hwrap, -⟩ := wrap_of_narrow width hcs
  have hcropped : ∀ lines : List (List Char),
      (runOn width lines).countP p ≤ lines.flatten.countP p := by
    intro lines
    induction lines with
    | nil => exact Nat.le_refl _
    | cons line lines ih =>
      have hline := (countP_truncate_le hp width (dropOverhang width line)).trans
        (dropOverhang_prefix_self width line).countP_le
      rw [runOn] at ih ⊢
      rw [List.flatMap_cons, List.flatten_cons, List.countP_append, List.countP_append]
      omega
  rw [hwrap, List.map_map]
  exact (hcropped lines).trans hkept.countP_le

end Count

end Walkthrough.Terminal
