import Walkthrough.CommandLine.Execution

/-!
# What can be printed

Text that is spliced into a marked-up text is read as markup, too, and printing it may fail. It does
not if the text that surrounds it opens one style by a plain word, and closes it, and the text
itself has no opening bracket. This is how a step is announced, and how a verbose run is opened.

That such a text cannot keep the style from being closed is not quite true: a backslash at its end
makes the closing tag a part of the text. Then the style stays open to the end, which is no mistake.

If printing fails, a tag does not match, or it names a handler or a colour that cannot be read. So
the fault is one of two sorts.

## Two directions

To show that something can be printed, all of the way has to be followed: the pieces of the text,
how they are put together, and the styles in the end. This is possible because nothing happens in it
but one style, and there is no bracket that could begin anything else. The words of the style are
concrete, and what is needed of them is listed in `Terminal.StyleWord` and evaluated for each of the
two words.

To show what may go wrong if something cannot be printed, no such detail is needed. Every part is
looked at by itself, and its faults belong to one of two categories. `Terminal.MarkupFaults` is
closed under doing one thing after another, so that the lemmas follow the definitions.

## Main definitions

* `Terminal.StyleWord` — a word that opens and closes a style
* `Terminal.MarkupFaults` — a computation has no faults but those of markup

## Main results

* `CommandLine.printed_of_notMem` — text without opening brackets can be printed in a style
* `CommandLine.markupFaults_printed` — what goes wrong if printing fails
-/

namespace Walkthrough.Terminal

/-! ### Text without an opening bracket

Pieces are cut off in rounds, with what has been passed over in an accumulator. So the inductions
are on the fuel, for any accumulator and any text that is left.
-/

/-- A word that opens and closes a style. What is required of it are the steps that reading takes at
its two tags, in the order in which they are taken, so that a proof for a word is a list of
evaluations. -/
structure StyleWord (word : List Char) : Prop where
  /-- As a tag it is taken as it stands, whatever follows. -/
  opens : ∀ rest, tagAt? ('[' :: (word ++ ']' :: rest)) = some (word, rest)
  closes : ∀ rest, tagAt? ('[' :: '/' :: (word ++ ']' :: rest)) = some ('/' :: word, rest)
  /-- It has no parameters. -/
  opening : splitTag word = (word, none)
  closing : splitTag ('/' :: word) = ('/' :: word, none)
  noSlash : word.head? ≠ some '/'
  /-- It is its own name, and none of a handler. -/
  stripped : strip word = word
  nonempty : word.isEmpty = false
  canonical : canonicalName word = .ok (String.ofList word)
  noHandler : (String.ofList word).startsWith "@" = false
  named : ∃ style, namedStyle? word = .ok style

theorem eq_ok_of_toOption {α : Type} {x : Except Fault α} {a : α} (h : x.toOption = some a) :
    x = .ok a := by
  cases x with
  | error f => cases h
  | ok b =>
    cases h
    rfl

theorem exists_eq_ok_of_isOk {α : Type} {x : Except Fault α} (h : x.isOk = true) :
    ∃ a, x = .ok a := by
  cases x with
  | error f => cases h
  | ok a => exact ⟨a, rfl⟩

/-- The style in which a verbose run is opened. Each property is evaluated. -/
theorem styleWord_bold : StyleWord "bold".toList where
  opens _ := rfl
  closes _ := rfl
  opening := rfl
  closing := rfl
  noSlash := by decide
  stripped := rfl
  nonempty := rfl
  canonical := eq_ok_of_toOption (by decide +kernel)
  noHandler := by decide +kernel
  named := exists_eq_ok_of_isOk (by decide +kernel)

/-- The style in which steps are announced. -/
theorem styleWord_dim : StyleWord "dim".toList where
  opens _ := rfl
  closes _ := rfl
  opening := rfl
  closing := rfl
  noSlash := by decide
  stripped := rfl
  nonempty := rfl
  canonical := eq_ok_of_toOption (by decide +kernel)
  noHandler := by decide +kernel
  named := exists_eq_ok_of_isOk (by decide +kernel)

/-- Pieces of text, and behind them perhaps the tag that closes a style. This is the form in which
the rest of a text in a style may come, whatever backslashes there are at its end. -/
def Closing (word : List Char) (ps : List Piece) : Prop :=
  ∃ texts : List (List Char), ps = texts.map .plain ∨
    ∃ position, ps = texts.map .plain ++ [.tag position ('/' :: word)]

/-- Text in front makes no difference. -/
theorem Closing.withPlain {word : List Char} {ps : List Piece} (h : Closing word ps)
    (cs : List Char) : Closing word (withPlain cs ps) := by
  unfold Terminal.withPlain
  split
  · exact h
  · obtain ⟨texts, rfl | ⟨position, rfl⟩⟩ := h
    · exact ⟨cs :: texts, .inl rfl⟩
    · exact ⟨cs :: texts, .inr ⟨position, rfl⟩⟩

/-- A closing tag stays one behind an even number of backslashes, and is text behind an odd one. -/
theorem closing_escapedTag (word : List Char) (position escapes : Nat) :
    Closing word (escapedTag position escapes ('/' :: word)) := by
  have htag : Closing word [if escapes % 2 = 1 then .plain ('[' :: ('/' :: word) ++ [']'])
      else .tag (position + escapes) ('/' :: word)] := by
    split
    · exact ⟨[_], .inl rfl⟩
    · exact ⟨[], .inr ⟨_, rfl⟩⟩
  unfold escapedTag
  split
  · exact htag
  · obtain ⟨texts, heq | ⟨at_, heq⟩⟩ := htag
    · exact ⟨_ :: texts, .inl (by rw [heq]; rfl)⟩
    · exact ⟨_ :: texts, .inr ⟨at_, by rw [heq]; rfl⟩⟩

theorem piecesFrom_nil (fuel position : Nat) : piecesFrom fuel [] position [] = [] := by
  cases fuel <;> rfl

theorem tagAt?_cons_of_ne {c : Char} {cs : List Char} (h : c ≠ '[') : tagAt? (c :: cs) = none := by
  unfold tagAt?
  split
  · rename_i heq
    exact absurd (List.cons.inj heq).1 h
  · rfl

/-- Text that begins with a tag, perhaps after backslashes. -/
theorem piecesFrom_of_tagAt? {fuel position escapes : Nat} {before cs body after : List Char}
    (hescapes : (cs.takeWhile (· = '\\')).length = escapes)
    (htag : tagAt? (cs.drop escapes) = some (body, after)) :
    piecesFrom (fuel + 1) before position cs =
      withPlain before.reverse (escapedTag position escapes body ++
        piecesFrom fuel [] (position + escapes + body.length + 2) after) := by
  subst hescapes
  cases cs with
  | nil => cases htag
  | cons c rest => simp only [piecesFrom, htag]

/-- Text that begins neither with a tag nor with a backslash. -/
theorem piecesFrom_cons {fuel position : Nat} {before cs : List Char} {c : Char}
    (hslash : c ≠ '\\') (htag : tagAt? (c :: cs) = none) :
    piecesFrom (fuel + 1) before position (c :: cs) =
      piecesFrom fuel (c :: before) (position + 1) cs := by
  have hescapes : ((c :: cs).takeWhile (· = '\\')).length = 0 := by
    rw [List.takeWhile_cons_of_neg (by simpa using hslash), List.length_nil]
  simp only [piecesFrom, hescapes, List.drop_zero, htag, if_true]

/-- Backslashes in front of what is no tag. -/
theorem piecesFrom_of_escapes {fuel position escapes : Nat} {before cs : List Char}
    (hescapes : (cs.takeWhile (· = '\\')).length = escapes) (hpos : 0 < escapes)
    (htag : tagAt? (cs.drop escapes) = none) :
    piecesFrom (fuel + 1) before position cs =
      piecesFrom fuel (List.replicate escapes '\\' ++ before) (position + escapes)
        (cs.drop escapes) := by
  subst hescapes
  cases cs with
  | nil => cases hpos
  | cons c rest => simp only [piecesFrom, htag, if_neg (Nat.ne_of_gt hpos)]

/-- The backslashes at the beginning of a text end where a bracket stands behind it. -/
theorem takeWhile_append_bracket (body rest : List Char) :
    (body ++ '[' :: rest).takeWhile (· = '\\') = body.takeWhile (· = '\\') ∧
      (body ++ '[' :: rest).drop (body.takeWhile (· = '\\')).length =
        body.dropWhile (· = '\\') ++ '[' :: rest := by
  induction body with
  | nil => exact ⟨rfl, rfl⟩
  | cons c body ih =>
    by_cases hc : c = '\\'
    · simpa [hc] using ih
    · simp [hc]

/-- **Text without an opening bracket** has no tag in it, and of the closing tag behind it nothing
is left but a tag, or text. By induction on the fuel: each round passes over a character that is no
backslash, or over all backslashes that stand together. -/
theorem closing_piecesFrom {word : List Char} (hword : StyleWord word) (fuel : Nat)
    {body : List Char} (hbody : '[' ∉ body) (before : List Char) (position : Nat) :
    Closing word (piecesFrom fuel before position (body ++ '[' :: '/' :: (word ++ [']']))) := by
  induction fuel generalizing body before position with
  | zero => exact Closing.withPlain ⟨[], .inl rfl⟩ _
  | succ fuel ih =>
    obtain ⟨hescapes, hdrop⟩ := takeWhile_append_bracket body ('/' :: (word ++ [']']))
    have hlength := congrArg List.length hescapes
    have hbehind : '[' ∉ body.dropWhile (· = '\\') :=
      fun hmem => hbody ((List.dropWhile_suffix _).subset hmem)
    rcases hrest : body.dropWhile (· = '\\') with _ | ⟨d, rest⟩
    · -- the closing tag comes next
      rw [hrest, List.nil_append] at hdrop
      rw [piecesFrom_of_tagAt? hlength (by rw [hdrop]; exact hword.closes []), piecesFrom_nil,
        List.append_nil]
      exact (closing_escapedTag word position _).withPlain _
    · rw [hrest] at hdrop hbehind
      have hd : d ≠ '[' := fun heq => hbehind (heq ▸ List.mem_cons_self)
      rcases hslashes : body.takeWhile (· = '\\') with _ | ⟨slash, slashes⟩
      · obtain rfl : body = d :: rest := by
          have hwhole : body.takeWhile (· = '\\') ++ body.dropWhile (· = '\\') = body :=
            List.takeWhile_append_dropWhile
          rw [hslashes, hrest] at hwhole
          exact hwhole.symm
        have hslash : d ≠ '\\' := by
          rintro rfl
          simp at hslashes
        rw [List.cons_append, piecesFrom_cons hslash (tagAt?_cons_of_ne hd)]
        exact ih (fun hmem => hbehind (List.mem_cons_of_mem d hmem)) _ _
      · have hpos : 0 < (body.takeWhile (· = '\\')).length := by
          rw [hslashes]
          exact Nat.succ_pos _
        rw [piecesFrom_of_escapes hlength hpos (by rw [hdrop]; exact tagAt?_cons_of_ne hd), hdrop]
        exact ih hbehind _ _

/-! ### Putting the pieces together

The pieces are put together from left to right, with the tags that are open on a stack. There is one
at most.
-/

/-- Pieces of text are put one behind the other, and leave the open tags as they are. -/
theorem assemble_texts (texts : List (List Char)) (done : List Char) (spans : List Span)
    (openTags : List OpenTag) (rest : List Piece) :
    ∃ further, assemble done spans openTags (texts.map .plain ++ rest) =
      assemble further spans openTags rest := by
  induction texts generalizing done with
  | nil => exact ⟨done, rfl⟩
  | cons cs texts ih => exact ih _

theorem style_of_word (word : List Char) (start : Nat) :
    (⟨String.ofList word, none, start⟩ : OpenTag).style = word := by
  simp [OpenTag.style]

/-- The closing tag of a plain word closes its style. -/
theorem assemble_closes {word : List Char} (hword : StyleWord word) (position start : Nat)
    (done : List Char) (rest : List Piece) :
    assemble done [] [⟨String.ofList word, none, start⟩] (.tag position ('/' :: word) :: rest) =
      assemble done [⟨start, done.length, word⟩] [] rest := by
  simp [assemble, hword.closing, closedTag, hword.stripped, hword.nonempty, hword.canonical,
    takeTag?, closingSpan, OpenTag.isHandler, hword.noHandler, style_of_word, bind, Except.bind,
    pure, Except.pure]

/-- A style that is opened is closed by the tag that is left, or at the end. -/
theorem assemble_closing {word : List Char} (hword : StyleWord word) {ps : List Piece}
    (hps : Closing word ps) (done : List Char) (start : Nat) :
    ∃ chars span, assemble done [] [⟨String.ofList word, none, start⟩] ps = .ok ⟨chars, [span]⟩ ∧
      span.style = word := by
  obtain ⟨texts, rfl | ⟨position, rfl⟩⟩ := hps
  · obtain ⟨further, heq⟩ :=
      assemble_texts texts done [] [⟨String.ofList word, none, start⟩] []
    rw [List.append_nil] at heq
    exact ⟨_, _, heq, style_of_word word start⟩
  · obtain ⟨further, heq⟩ := assemble_texts texts done [] [⟨String.ofList word, none, start⟩]
      [.tag position ('/' :: word)]
    refine ⟨further.reverse, ⟨start, further.length, word⟩, ?_, rfl⟩
    rw [heq, assemble_closes hword]
    rfl

/-- A tag of a plain word opens its style. -/
theorem assemble_opening {word : List Char} (hword : StyleWord word) (position : Nat)
    (done : List Char) (rest : List Piece) :
    assemble done [] [] (.tag position word :: rest) =
      assemble done [] [⟨String.ofList word, none, done.length⟩] rest := by
  rw [assemble, hword.opening]
  split
  · rename_i heq
    exact absurd (congrArg List.head? (Prod.mk.inj heq).1) hword.noSlash
  · rename_i heq
    obtain ⟨rfl, rfl⟩ := Prod.mk.inj heq
    rw [hword.canonical]
    rfl

/-- Text without brackets and backslashes is passed over one character at a time. -/
theorem piecesFrom_lead {lead : List Char} (h : ∀ c ∈ lead, c ≠ '\\' ∧ c ≠ '[') (fuel : Nat)
    (before : List Char) (position : Nat) (cs : List Char) :
    piecesFrom (lead.length + fuel) before position (lead ++ cs) =
      piecesFrom fuel (lead.reverse ++ before) (position + lead.length) cs := by
  induction lead generalizing before position with
  | nil => simp
  | cons c lead ih =>
    obtain ⟨⟨hslash, hbracket⟩, hrest⟩ := List.forall_mem_cons.1 h
    rw [List.length_cons, Nat.add_right_comm, List.cons_append,
      piecesFrom_cons hslash (tagAt?_cons_of_ne hbracket), ih hrest, List.reverse_cons,
      List.append_assoc, List.singleton_append, Nat.add_assoc, Nat.add_comm 1]

/-- **A text in a style can be read** if it has no opening bracket. -/
theorem readMarkup_of_notMem {word lead body : List Char} (hword : StyleWord word)
    (hlead : ∀ c ∈ lead, c ≠ '\\' ∧ c ≠ '[') (hbody : '[' ∉ body) :
    ∃ chars span, readMarkup (lead ++ '[' :: (word ++ ']' ::
      (body ++ '[' :: '/' :: (word ++ [']'])))) = .ok ⟨chars, [span]⟩ ∧ span.style = word := by
  generalize htail : body ++ '[' :: '/' :: (word ++ [']']) = tail
  have hescapes : (('[' :: (word ++ ']' :: tail)).takeWhile (· = '\\')).length = 0 := rfl
  have hpieces : pieces (lead ++ '[' :: (word ++ ']' :: tail)) =
      withPlain lead (.tag lead.length word ::
        piecesFrom (word ++ ']' :: tail).length [] (lead.length + word.length + 2) tail) := by
    rw [pieces, List.length_append, piecesFrom_lead hlead, List.length_cons,
      piecesFrom_of_tagAt? hescapes (hword.opens tail)]
    simp [escapedTag]
  have hclosing := closing_piecesFrom hword (word ++ ']' :: tail).length hbody []
    (lead.length + word.length + 2)
  rw [htail] at hclosing
  have hlead' : ∃ further, ∀ rest, assemble [] [] [] (withPlain lead rest) =
      assemble further [] [] rest := by
    cases lead with
    | nil => exact ⟨[], fun rest => rfl⟩
    | cons c lead => exact ⟨_, fun rest => rfl⟩
  obtain ⟨further, hfurther⟩ := hlead'
  rw [readMarkup, hpieces, hfurther, assemble_opening hword]
  exact assemble_closing hword hclosing _ _

theorem tagAt?_of_notMem {cs : List Char} (h : '[' ∉ cs) : tagAt? cs = none := by
  cases cs with
  | nil => rfl
  | cons c rest => exact tagAt?_cons_of_ne fun heq => h (heq ▸ List.mem_cons_self)

/-- Without an opening bracket there is no tag. -/
theorem piecesFrom_of_notMem (fuel : Nat) {cs : List Char} (h : '[' ∉ cs) (before : List Char)
    (position : Nat) : ∃ texts : List (List Char),
      piecesFrom fuel before position cs = texts.map .plain := by
  have hplain (ds : List Char) :
      ∃ texts : List (List Char), withPlain ds [] = texts.map .plain := by
    cases ds with
    | nil => exact ⟨[], rfl⟩
    | cons d ds => exact ⟨[d :: ds], rfl⟩
  induction fuel generalizing cs before position with
  | zero => exact hplain _
  | succ fuel ih =>
    cases cs with
    | nil => exact hplain _
    | cons c rest =>
      have htag := tagAt?_of_notMem fun hmem => h
        ((List.drop_subset ((c :: rest).takeWhile (· = '\\')).length (c :: rest)) hmem)
      simp only [piecesFrom, htag]
      split
      · exact ih (fun hmem => h (List.mem_cons_of_mem c hmem)) _ _
      · exact ih (fun hmem => h (List.drop_subset _ _ hmem)) _ _

/-- **Text without an opening bracket** is read as text, in no style. -/
theorem readMarkup_plain {cs : List Char} (h : '[' ∉ cs) :
    ∃ chars, readMarkup cs = .ok ⟨chars, []⟩ := by
  obtain ⟨texts, htexts⟩ := piecesFrom_of_notMem cs.length h [] 0
  obtain ⟨further, heq⟩ := assemble_texts texts [] [] [] []
  rw [List.append_nil] at heq
  exact ⟨_, by rw [readMarkup, pieces, htexts, heq]; rfl⟩

end Walkthrough.Terminal

namespace Walkthrough.CommandLine

open Terminal

/-- A text in the style of a word is printed once it has been read. -/
theorem printed_of_readMarkup {word chars : List Char} {markup : String} {span : Span}
    (hword : StyleWord word) (hread : readMarkup markup.toList = .ok ⟨chars, [span]⟩)
    (hstyle : span.style = word) :
    printed markup =
      .ok (unlines ((wrap terminalWidth .fold chars).map (truncate terminalWidth .fold))) := by
  obtain ⟨style, hnamed⟩ := hword.named
  have hchecked (whole : Bool) : StyledText.checkStyles ⟨chars, [span]⟩ whole = .ok () := by
    simp only [StyledText.checkStyles, List.forM, hstyle, hnamed]
    split <;> rfl
  rw [printed, hread]
  simp only [bind, Except.bind, hchecked]
  rfl

/-- **Text without opening brackets can be printed** in a style. -/
theorem printed_of_notMem {word : List Char} {markup : String} (hword : StyleWord word)
    (lead body : List Char) (hlead : ∀ c ∈ lead, c ≠ '\\' ∧ c ≠ '[') (hbody : '[' ∉ body)
    (h : markup.toList = lead ++ '[' :: (word ++ ']' :: (body ++ '[' :: '/' :: (word ++ [']'])))) :
    ∃ text, printed markup = .ok text := by
  obtain ⟨chars, span, hread, hstyle⟩ := readMarkup_of_notMem hword hlead hbody
  rw [← h] at hread
  exact ⟨_, printed_of_readMarkup hword hread hstyle⟩

/-! ### The table of steps

A table is printed cell by cell, and each cell is text without an opening bracket.
-/

theorem mapM_eq_ok {α β : Type} {f : α → Except Fault β} {P : β → Prop} {as : List α}
    (h : ∀ a ∈ as, ∃ b, f a = .ok b ∧ P b) : ∃ bs, as.mapM f = .ok bs ∧ ∀ b ∈ bs, P b := by
  induction as with
  | nil => exact ⟨[], rfl, by simp⟩
  | cons a as ih =>
    obtain ⟨⟨b, hb, hP⟩, hrest⟩ := List.forall_mem_cons.1 h
    obtain ⟨bs, hbs, hPs⟩ := ih hrest
    refine ⟨b :: bs, ?_, List.forall_mem_cons.2 ⟨hP, hPs⟩⟩
    rw [List.mapM_cons, hb, hbs]
    rfl

theorem exists_bind_eq_ok {α β : Type} {x : Except Fault α} {next : α → Except Fault β}
    (hx : ∃ a, x = .ok a) (hnext : ∀ a, x = .ok a → ∃ b, next a = .ok b) :
    ∃ b, x >>= next = .ok b := by
  obtain ⟨a, rfl⟩ := hx
  exact hnext a rfl

/-- A loop that only checks, and never fails, comes to its end. -/
theorem forIn_eq_ok {α : Type} {as : List α} {check : α → Except Fault (ForInStep PUnit)}
    (h : ∀ a ∈ as, check a = .ok (.yield ⟨⟩)) :
    forIn as PUnit.unit (fun a _ => check a) = .ok ⟨⟩ := by
  induction as with
  | nil => rfl
  | cons a as ih =>
    obtain ⟨ha, hrest⟩ := List.forall_mem_cons.1 h
    rw [List.forIn_cons, ha]
    exact ih hrest

/-- **A table can be printed** if there is no opening bracket in its cells. -/
theorem stepTable_of_notMem {rows : List (List Char × List Char × List Char)}
    (h : ∀ row ∈ rows, '[' ∉ row.1 ∧ '[' ∉ row.2.1 ∧ '[' ∉ row.2.2) :
    ∃ table, stepTable rows = .ok table := by
  have hread {cell : List Char × List Char × List Char → List Char}
      (hcell : ∀ row ∈ rows, '[' ∉ cell row) :
      ∃ texts, (rows.map cell).mapM readMarkup = .ok texts ∧ ∀ t ∈ texts, t.spans = [] := by
    refine mapM_eq_ok fun cs hcs => ?_
    obtain ⟨row, hrow, rfl⟩ := List.mem_map.1 hcs
    obtain ⟨chars, hchars⟩ := readMarkup_plain (hcell row hrow)
    exact ⟨_, hchars, rfl⟩
  obtain ⟨orders, horders, hplain⟩ := hread fun row hrow => (h row hrow).1
  obtain ⟨names, hnames, hplain'⟩ := hread fun row hrow => (h row hrow).2.1
  obtain ⟨descriptions, hdescriptions, hplain''⟩ := hread fun row hrow => (h row hrow).2.2
  have hcheck {t : StyledText} (ht : t.spans = []) (whole : Bool) :
      t.checkStyles whole = .ok () := by
    rw [StyledText.checkStyles, ht]
    rfl
  rw [stepTable, horders, hnames, hdescriptions]
  refine exists_bind_eq_ok ⟨orders, rfl⟩ fun _ h => ?_
  cases h
  refine exists_bind_eq_ok ⟨names, rfl⟩ fun _ h => ?_
  cases h
  refine exists_bind_eq_ok ⟨descriptions, rfl⟩ fun _ h => ?_
  cases h
  refine exists_bind_eq_ok ⟨⟨⟩, forIn_eq_ok fun cells hcells => ?_⟩ fun _ _ => ⟨_, rfl⟩
  obtain ⟨horder, hrest⟩ := List.of_mem_zip hcells
  obtain ⟨hname, hdescription⟩ := List.of_mem_zip hrest
  have hspans : ∀ t ∈ [cells.1, cells.2.1, cells.2.2], t.spans = [] := by
    simp [hplain _ horder, hplain' _ hname, hplain'' _ hdescription]
  rw [forIn_eq_ok fun x hx => ?_]
  · rfl
  simp only [hcheck (hspans _ (List.of_mem_zip hx).1)]
  rfl

end Walkthrough.CommandLine

/-! ### What goes wrong

A tag may close nothing, name a handler that cannot be read, or ask for a colour whose parts are no
numbers. Nothing else fails.
-/

namespace Walkthrough.Terminal

/-- A computation has no faults but those of markup, and of values in it. -/
def MarkupFaults {α : Type} (x : Except Fault α) : Prop :=
  ∀ f, x = .error f → f.category = .markup ∨ f.category = .value

namespace MarkupFaults

variable {α β : Type}

theorem ok (a : α) : MarkupFaults (.ok a) := by
  intro f h
  cases h

theorem error {f : Fault} (h : f.category = .markup ∨ f.category = .value) :
    MarkupFaults (.error f : Except Fault α) := by
  intro g hg
  cases hg
  exact h

/-- **One thing after another** has the faults of both. -/
theorem bind {x : Except Fault α} {next : α → Except Fault β} (hx : MarkupFaults x)
    (hnext : ∀ a, MarkupFaults (next a)) : MarkupFaults (x >>= next) := by
  intro f h
  cases x with
  | error g =>
    cases h
    exact hx _ rfl
  | ok a => exact hnext a f h

theorem mapM {f : α → Except Fault β} (h : ∀ a, MarkupFaults (f a)) (as : List α) :
    MarkupFaults (as.mapM f) := by
  induction as with
  | nil => exact ok []
  | cons a as ih =>
    rw [List.mapM_cons]
    exact (h a).bind fun b => ih.bind fun bs => ok _

theorem forM {f : α → Except Fault PUnit} (h : ∀ a, MarkupFaults (f a)) (as : List α) :
    MarkupFaults (as.forM f) := by
  induction as with
  | nil => exact ok _
  | cons a as ih => exact (h a).bind fun _ => ih

end MarkupFaults

theorem markupFaults_colourPart (digits : List Char) : MarkupFaults (colourPart digits) := by
  unfold colourPart
  split
  · exact .ok _
  · split
    · exact .error (.inr rfl)
    · exact .error (.inr rfl)

theorem markupFaults_isColour (word : String) : MarkupFaults (isColour word) := by
  unfold isColour
  split
  · exact .ok _
  · split
    · exact .ok _
    · exact .ok _
    · unfold isTriple
      split
      · split
        · exact (MarkupFaults.mapM markupFaults_colourPart _).bind fun parts => .ok _
        · exact .ok _
      · exact .ok _
    · exact .ok _

theorem markupFaults_withWord? (style : Style) (word : String) :
    MarkupFaults (style.withWord? word) := by
  unfold Style.withWord?
  split
  · exact .ok _
  · refine (markupFaults_isColour _).bind fun isColour => ?_
    split <;> exact .ok _

theorem markupFaults_withWords? (style : Style) (words : List String) :
    MarkupFaults (style.withWords? words) := by
  induction style, words using Style.withWords?.induct with
  | case1 style => exact .ok _
  | case2 style word => exact markupFaults_withWord? style word
  | case3 style word next rest hon ih =>
    simp only [Style.withWords?, hon]
    refine (markupFaults_isColour _).bind fun isColour => ?_
    split
    · exact ih
    · exact .ok _
  | case4 style word next rest hnot effect heffect ih =>
    simp only [Style.withWords?, hnot, heffect]
    exact ih
  | case5 style word next rest hnot heffect =>
    simp only [Style.withWords?, hnot, heffect]
    exact .ok _
  | case6 style word next rest hlink ih =>
    simp only [Style.withWords?, hlink]
    exact ih
  | case7 style word next rest hon hnot hlink ih =>
    rw [Style.withWords?]
    split
    · exact absurd ‹_› hon
    · exact absurd ‹_› hnot
    · exact absurd ‹_› hlink
    · refine (markupFaults_withWord? style word).bind fun further => ?_
      split
      · exact ih _
      · exact .ok _

theorem markupFaults_namedStyle? (cs : List Char) : MarkupFaults (namedStyle? cs) := by
  unfold namedStyle?
  split
  · exact .ok _
  · exact markupFaults_withWords? _ _

/-- A name in a tag is looked up, and a handler in it may not be known. -/
theorem markupFaults_canonicalName (cs : List Char) : MarkupFaults (canonicalName cs) := by
  refine (markupFaults_namedStyle? cs).bind fun style => ?_
  split <;> exact .ok _

/-- A closing tag must find an open one of its name. -/
theorem markupFaults_closedTag (position : Nat) (body name : List Char) (openTags : List OpenTag) :
    MarkupFaults (closedTag position body name openTags) := by
  unfold closedTag
  split
  · split
    · exact .ok _
    · exact .error (.inl rfl)
  · refine (markupFaults_canonicalName _).bind fun canonical => ?_
    split
    · exact .ok _
    · exact .error (.inl rfl)

theorem markupFaults_checkHandler (parameters : List Char) :
    MarkupFaults (checkHandler parameters) := by
  unfold checkHandler
  split
  · exact .ok _
  · intro f h
    dsimp only at h
    rcases hconstant : Expression.constant _ with refusal | ⟨⟩ <;> rw [hconstant] at h <;> cases h
    exact .inl rfl

theorem markupFaults_closingSpan (tag : OpenTag) (stop : Nat) :
    MarkupFaults (closingSpan tag stop) := by
  unfold closingSpan
  split
  · split
    · exact (markupFaults_checkHandler _).bind fun _ => .ok _
    · exact .ok _
  · exact .ok _

/-- By recursion on the pieces. Only tags have something to check. -/
theorem markupFaults_assemble (ps : List Piece) (done : List Char) (spans : List Span)
    (openTags : List OpenTag) : MarkupFaults (assemble done spans openTags ps) := by
  induction ps generalizing done spans openTags with
  | nil => exact .ok _
  | cons piece rest ih =>
    cases piece with
    | plain cs => exact ih _ _ _
    | tag position body =>
      rw [assemble]
      split
      · refine (markupFaults_closedTag _ _ _ _).bind fun found => ?_
        exact (markupFaults_closingSpan _ _).bind fun closed => ih _ _ _
      · exact (markupFaults_canonicalName _).bind fun name => ih _ _ _

/-- Styles are named in the text, and a colour may not be read. -/
theorem markupFaults_checkStyles (t : StyledText) (onOneLine : Bool) :
    MarkupFaults (t.checkStyles onOneLine) := by
  refine MarkupFaults.forM (fun span => ?_) _
  split
  · exact (markupFaults_namedStyle? _).bind fun _ => .ok _
  · exact .ok _

end Walkthrough.Terminal

namespace Walkthrough.CommandLine

open Terminal

/-- **If printing fails**, a tag or a handler cannot be read, or a number in a colour. Reading,
checking styles and laying out come one after the other, and only the first two can fail. -/
theorem markupFaults_printed (markup : String) : MarkupFaults (printed markup) :=
  (markupFaults_assemble _ _ _ _).bind fun text =>
    (markupFaults_checkStyles text _).bind fun _ => .ok _

end Walkthrough.CommandLine
