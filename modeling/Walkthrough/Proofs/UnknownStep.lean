import Walkthrough.Proofs.CommandExit
import Walkthrough.Proofs.ShownMarkup

/-!
# The report on a step that there is not

Who asks for a step that there is not is told so, and its name is put into the report. As the report
is marked-up text, a tag in the name is read as a tag: it vanishes, or closes a style that the name
has not opened, so that nothing can be printed. A backslash is lost before a bracket, and at the end
of the name it makes text of the tag that follows.

In all other names brackets and backslashes are text, however many there are, and the report has the
name as it is. That it is broken into lines makes no difference: the name comes right behind the
words before it, cut between two lines if it fits none.

So a name is reported exactly if there is no markup in it. That a name with markup is nowhere in the
report is shown by counting: if a tag begins in the name there are too few brackets and backslashes
in the report, and otherwise there are too few backslashes.

## Two ways to lose a character

A name that has markup in it contains a tag, or a backslash before a bracket or at its end. In the
first case the number of brackets and backslashes that are printed is smaller than the number in the
name and the rest of the report together, by the bound for tags; so the name cannot be in what is
printed. In the second case no tag begins in the name, its pieces are known, and it is the
backslashes that are too few.

For the other direction the report is followed through all of printing: it is read as text in a
style, nothing is changed in it, and the name is a word of it that is not pulled apart from the
words before.

## Main definitions

* `Terminal.Unmarked` — a text without tags, and without backslashes that are lost
* `CommandLine.OneWord` — a name of which each character takes a cell, without white space or colons

## Main results

* `CommandLine.printed_report` — a report has the name as it is, if there is no markup in it
* `CommandLine.unmarked_of_printed` — only then does it have the name anywhere
* `Session.command_reports_unknown_step` — so has standard error
-/

namespace Walkthrough.Terminal

/-! ### Text without markup

Three conditions on the text alone, which can be decided.
-/

/-- No tag begins in a text, and no backslash stands in it before a bracket, or at its end. -/
structure Unmarked (cs : List Char) : Prop where
  tagFree : TagFree cs
  endsOtherwise : ¬ ['\\'] <:+ cs
  escapesNothing : ¬ ['\\', '['] <:+: cs

instance (cs : List Char) : Decidable (Unmarked cs) :=
  decidable_of_iff (TagFree cs ∧ ¬ ['\\'] <:+ cs ∧ ¬ ['\\', '['] <:+: cs)
    ⟨fun h => ⟨h.1, h.2.1, h.2.2⟩, fun h => ⟨h.1, h.2, h.3⟩⟩

theorem not_suffix_append {lead cs : List Char} (hlead : '\\' ∉ lead) (hcs : ¬ ['\\'] <:+ cs) :
    ¬ ['\\'] <:+ lead ++ cs := by
  rw [List.singleton_suffix_iff_getLast?_eq_some] at hcs ⊢
  rw [List.getLast?_append, Option.or_eq_some_iff, not_or]
  exact ⟨hcs, fun hlast => hlead (List.mem_of_getLast? hlast.2)⟩

/-- The backslashes at the end of a text. -/
theorem exists_append_slashes (cs : List Char) :
    ∃ front n, cs = front ++ List.replicate n '\\' ∧ ¬ ['\\'] <:+ front := by
  induction cs using List.reverseRecOn with
  | nil => exact ⟨[], 0, rfl, by decide⟩
  | append_singleton cs c ih =>
    by_cases hc : c = '\\'
    · obtain ⟨front, n, rfl, hfront⟩ := ih
      refine ⟨front, n + 1, ?_, hfront⟩
      rw [hc, List.replicate_succ', List.append_assoc]
    · refine ⟨cs ++ [c], 0, (List.append_nil _).symm, ?_⟩
      rw [List.singleton_suffix_iff_getLast?_eq_some, List.getLast?_append]
      exact fun heq => hc (Option.some.inj heq)

theorem styleWord_red : StyleWord "red".toList where
  opens _ := rfl
  closes _ := rfl
  opening := rfl
  closing := rfl
  noSlash := by decide
  stripped := rfl
  nonempty := rfl
  canonical := eq_ok_of_toOption (by decide +kernel)
  noHandler := by decide +kernel
  named := exists_eq_ok_of_isOk (by decide +kernel)

end Walkthrough.Terminal

namespace Walkthrough.CommandLine

open Terminal Text

variable {step : String}

/-! ### The report

What stands around the name is fixed, so that what is needed of it is evaluated.
-/

/-- Each character of a name takes one cell, and is neither white space nor a colon. -/
def OneWord (step : String) : Prop :=
  ∀ c ∈ step.toList, cellWidth c = 1 ∧ isBlank c = false ∧ c ≠ ':'

instance (step : String) : Decidable (OneWord step) :=
  List.decidableBAll (fun c => cellWidth c = 1 ∧ isBlank c = false ∧ c ≠ ':') step.toList

theorem OneWord.narrow (h : OneWord step) : Narrow step.toList := fun c hc => (h c hc).1

theorem OneWord.colon_notMem (h : OneWord step) : ':' ∉ step.toList :=
  fun hmem => (h _ hmem).2.2 rfl

/-- The report on a step that there is not. -/
def report (step : String) : String :=
  "[red]Unknown step: " ++ step ++ "[/red]. Choose: " ++ "greeting, sum, threshold, loop, person"

/-- What the report begins with. -/
def reportLead : List Char := "Unknown step: ".toList

/-- What stands behind the name. -/
def choices : List Char := ". Choose: greeting, sum, threshold, loop, person".toList

theorem toList_append_step (step : String) :
    ("Unknown step: " ++ step).toList = reportLead ++ step.toList :=
  String.toList_append

theorem toList_report (step : String) :
    (report step).toList =
      '[' :: ("red".toList ++ ']' :: ((reportLead ++ step.toList) ++
        '[' :: '/' :: ("red".toList ++ ']' :: choices))) := by
  have hopening : "[red]Unknown step: ".toList = '[' :: ("red".toList ++ ']' :: reportLead) := by
    decide
  have hclosing : "[/red]. Choose: ".toList ++ "greeting, sum, threshold, loop, person".toList =
      '[' :: '/' :: ("red".toList ++ ']' :: choices) := by decide
  unfold report
  rw [String.toList_append, String.toList_append, String.toList_append, List.append_assoc, hopening,
    hclosing]
  simp only [List.append_assoc, List.cons_append]

/-- The report is cut into the tags and what they enclose. -/
theorem toList_report_append (step : String) :
    (report step).toList =
      "[red]".toList ++ ((reportLead ++ step.toList) ++ ("[/red]".toList ++ choices)) :=
  toList_report step

theorem narrow_reportLead : Narrow reportLead := by decide

theorem narrow_choices : Narrow choices := by decide

theorem spaced_reportLead : Spaced reportLead := by decide

theorem spaced_choices : Spaced choices := by decide

theorem tagFree_choices : TagFree choices := by decide

/-- The report consists of characters of one cell if the name does. -/
theorem narrow_report (h : OneWord step) : Narrow (report step).toList := by
  have hopening : Narrow "[red]".toList := by decide
  have hclosing : Narrow "[/red]".toList := by decide
  rw [toList_report_append]
  exact hopening.append ((narrow_reportLead.append h.narrow).append
    (hclosing.append narrow_choices))

/-- The only colons of the report have a space behind them, as the name has none. -/
theorem spaced_report (h : OneWord step) : Spaced (report step).toList := by
  have hopening : Spaced "[red]".toList := by decide
  have hclosing : Spaced "[/red]".toList := by decide
  have hbehind := (spaced_of_notMem h.colon_notMem).append
    (hclosing.append spaced_choices (by decide))
    fun hlast => h.colon_notMem (List.mem_of_getLast? hlast)
  rw [toList_report_append, List.append_assoc]
  exact hopening.append (spaced_reportLead.append hbehind (by decide)) (by decide)

/-- The third word of the report is the name, with a full stop. -/
theorem words_report (h : OneWord step) :
    ∃ ws, Terminal.words (reportLead ++ step.toList ++ choices) =
      ["Unknown ".toList, "step: ".toList] ++ (step.toList ++ ['.', ' ']) :: ws := by
  have hlead : reportLead = "Unknown".toList ++ ' ' :: ("step:".toList ++ [' ']) := by decide
  have hchoices : choices =
      '.' :: ' ' :: "Choose: greeting, sum, threshold, loop, person".toList := by decide
  have hcut : reportLead ++ step.toList ++ choices =
      "Unknown".toList ++ ' ' :: ("step:".toList ++ ' ' :: ((step.toList ++ ['.']) ++
        ' ' :: "Choose: greeting, sum, threshold, loop, person".toList)) := by
    rw [hlead, hchoices]
    simp only [List.append_assoc, List.cons_append, List.nil_append]
  have hname : (step.toList ++ ['.']).any isBlank = false := by
    have hletters : step.toList.any isBlank = false :=
      List.any_eq_false.2 fun c hc => by rw [(h c hc).2.1]; exact Bool.false_ne_true
    rw [List.any_append, hletters]
    rfl
  have hne : step.toList ++ ['.'] ≠ [] := by simp
  have hfirst (rest : List Char) : ((step.toList ++ ['.']) ++ rest).head?.any isBlank = false := by
    obtain ⟨c, cs, hcs⟩ := List.exists_cons_of_ne_nil hne
    rw [hcs] at hname ⊢
    exact (Bool.or_eq_false_iff.1 hname).1
  generalize hfuel : (reportLead ++ step.toList ++ choices).length = fuel
  have hthree : 3 ≤ fuel := by
    have : reportLead.length = 14 := rfl
    simp only [List.length_append] at hfuel
    omega
  obtain ⟨fuel, rfl⟩ := Nat.exists_eq_add_of_le' hthree
  refine ⟨wordsWithin fuel "Choose: greeting, sum, threshold, loop, person".toList, ?_⟩
  rw [Terminal.words, hfuel, hcut,
    wordsWithin_succ _ (by decide) (by decide) rfl rfl,
    wordsWithin_succ _ (by decide) (by decide) rfl (hfirst _),
    wordsWithin_succ _ hname hne rfl rfl, List.append_assoc]
  rfl

/-- **The report** on a step that there is not has its name right behind the words that it begins
with, if there is no markup in the name. -/
theorem printed_report (hstep : OneWord step) (hmarkup : Unmarked step.toList) :
    ∃ stderr, printed (report step) = .ok stderr ∧
      ("Unknown step: " ++ step).toList <+: stderr.toList.filter (· ≠ '\n') := by
  have hnarrow := narrow_reportLead.append hstep.narrow
  have hspaced := spaced_reportLead.append (spaced_of_notMem hstep.colon_notMem) (by decide)
  have hshown : shown (reportLead ++ step.toList) = reportLead ++ step.toList := by
    rw [shown_eq_unescape hnarrow hspaced, unescape_append_of_notMem (by decide),
      unescape_eq_self hmarkup.escapesNothing]
  have hshown' : shown choices = choices := by
    rw [shown_eq_unescape narrow_choices spaced_choices, unescape_eq_self (by decide)]
  have hread := readMarkup_of_tagFree styleWord_red
    (tagFree_append_of_notMem (by decide : '[' ∉ reportLead) hmarkup.tagFree)
    (not_suffix_append (by decide) hmarkup.endsOtherwise) hshown
    tagFree_choices (by decide) hshown'
  rw [← toList_report] at hread
  refine ⟨_, printed_of_readMarkup styleWord_red hread rfl, ?_⟩
  obtain ⟨ws, hwords⟩ := words_report hstep
  have hkept : dropTrailing isBlank (step.toList ++ ['.', ' ']) = step.toList ++ ['.'] := by
    rw [dropTrailing_append]
    rfl
  have hkeeps := prefix_flatten_wrap (by decide : 0 < terminalWidth) (hnarrow.append narrow_choices)
    hwords (by decide) (by rw [hkept]; simp)
  rw [hkept] at hkeeps
  have hname : ("Unknown step: " ++ step).toList <+: _ :=
    List.IsPrefix.trans ⟨['.'], by rw [String.toList_append, List.append_assoc]; rfl⟩ hkeeps
  rw [filter_unlines]
  have hwhole : ("Unknown step: " ++ step).toList.filter (· ≠ '\n') =
      ("Unknown step: " ++ step).toList := by
    refine List.filter_eq_self.2 fun c hc => decide_eq_true ?_
    rintro rfl
    exact absurd (hnarrow _ (toList_append_step step ▸ hc)) (by decide)
  rw [← hwhole]
  exact hname.filter _

/-- A report that has the name has all its characters. -/
theorem countP_le_of_printed (hstep : OneWord step) {stderr : String}
    (hprinted : printed (report step) = .ok stderr)
    (hname : ("Unknown step: " ++ step).toList <:+: stderr.toList.filter (· ≠ '\n'))
    (p : Char → Bool) (hp : p ' ' = false) :
    step.toList.countP p ≤
      ((pieces (report step).toList).flatMap fun piece => unescape piece.text).countP p := by
  have hpart : step.toList <:+: stderr.toList.filter (· ≠ '\n') := by
    rw [toList_append_step] at hname
    exact (List.suffix_append _ _).isInfix.trans hname
  exact hpart.countP_le.trans
    (countP_printed_le hp (narrow_report hstep) (spaced_report hstep) hprinted)

/-- With backslashes at the end of the name, and no tag in it, half of them are in the report. -/
theorem count_slashes_report {front : List Char} {n : Nat}
    (hstep : step.toList = front ++ List.replicate n '\\') (hfree : TagFree front)
    (hlast : ¬ ['\\'] <:+ front) :
    ((pieces (report step).toList).flatMap fun piece => unescape piece.text).count '\\' =
      (unescape front).count '\\' + n / 2 := by
  have hcut : (report step).toList = '[' :: ("red".toList ++ ']' :: ((reportLead ++ front) ++
      (List.replicate n '\\' ++ '[' :: '/' :: ("red".toList ++ ']' :: choices)))) := by
    rw [toList_report, hstep]
    simp only [List.append_assoc]
  obtain ⟨position, hpieces⟩ := pieces_of_tagFree styleWord_red
    (tagFree_append_of_notMem (by decide : '[' ∉ reportLead) hfree)
    (not_suffix_append (by decide) hlast) n tagFree_choices (by decide : ¬ ['\\'] <:+ choices)
  have hslashes (k : Nat) : (unescape (List.replicate k '\\')).count '\\' = k := by
    rw [unescape_eq_self, List.count_replicate_self]
    exact fun hpart => absurd (List.eq_of_mem_replicate (hpart.subset (by decide : '[' ∈ _)))
      (by decide)
  have hclosing : (if n % 2 = 1 then unescape ('[' :: ('/' :: "red".toList ++ [']'])) else []).count
      '\\' = 0 := by
    split <;> decide
  have hlead : reportLead.count '\\' = 0 := by decide
  have hchoices : (unescape choices).count '\\' = 0 := by decide
  rw [hcut, hpieces, List.flatMap_cons, flatMap_withPlain rfl, List.flatMap_append,
    flatMap_escapedTag rfl fun _ _ => rfl, flatMap_withPlain rfl]
  simp only [Piece.text, List.count_append, hslashes, hlead, hclosing, hchoices, List.flatMap_nil,
    unescape_append_of_notMem (by decide : '\\' ∉ reportLead), unescape, List.count_nil,
    Nat.zero_add, Nat.add_zero]

/-- **Nothing else is reported**: a report has the name of the step somewhere only if there is no
markup in the name. -/
theorem unmarked_of_printed (hstep : OneWord step) {stderr : String}
    (hprinted : printed (report step) = .ok stderr)
    (hname : ("Unknown step: " ++ step).toList <:+: stderr.toList.filter (· ≠ '\n')) :
    Unmarked step.toList := by
  have hfree : TagFree step.toList := by
    refine tagFree_of_tagCount_eq_zero (Nat.eq_zero_of_not_pos fun htags => ?_)
    have hkept := (countP_le_of_printed hstep hprinted hname isMark rfl).trans
      (unescape_texts_sublist _).countP_le
    have hlost := countP_text_pieces_add_tagCount_le (report step).toList
    have htags' := tagCount_add_two_le styleWord_red (reportLead ++ step.toList) choices
    rw [← toList_report, tagCount_append_of_notMem (by decide)] at htags'
    have hmarks : (report step).toList.countP isMark = step.toList.countP isMark + 2 := by
      have hopening : "[red]".toList.countP isMark = 1 := by decide
      have hlead : reportLead.countP isMark = 0 := by decide
      have hbehind : ("[/red]".toList ++ choices).countP isMark = 1 := by decide
      rw [toList_report_append, List.countP_append, List.countP_append, List.countP_append]
      omega
    omega
  obtain ⟨front, n, hfront, hlast⟩ := exists_append_slashes step.toList
  rw [hfront] at hfree
  have hkept := countP_le_of_printed hstep hprinted hname (· == '\\') rfl
  have hcount := count_slashes_report hfront hfree.of_append_left hlast
  rw [List.count] at hcount
  rw [hcount, hfront, ← List.count, List.count_append, List.count_replicate_self] at hkept
  have hlost := (unescape_sublist front).count_le '\\'
  obtain rfl : n = 0 := by omega
  rw [List.replicate_zero, List.append_nil] at hfront hfree
  rw [hfront]
  refine ⟨hfree, hlast, fun hescape => ?_⟩
  have := count_unescape_lt hescape
  omega

/-- Arguments that ask for a run of a step of any name. -/
theorem parse_run_step (step : String) :
    parse ["run", "--step", step] = .ok (.run { step := some step }) := by
  have hscan := scan_of_wanting "--step" .step (by decide) (by decide) rfl step []
  have hparsed : parse ["run", "--step", step] = parseRun ["--step", step] := rfl
  rw [hparsed, parseRun, hscan]
  rfl

end Walkthrough.CommandLine

namespace Walkthrough.Session

open CommandLine Terminal

variable {step : String}

/-! ### The command

The command looks for a step of the name, finds none, and prints the report. Nothing else is done by
it.
-/

/-- A run of a step that there is not is reported, and nothing else happens. -/
theorem perform_unknownStep (σ : Session) (h : σ.store.HoldsCatalogue σ.steps) (hne : step ≠ "")
    (hunknown : ∀ topic : Topic, step ≠ topic.name) {result : Except Fault String}
    (hprinted : printed (report step) = result) :
    σ.perform (.command ["run", "--step", step]) =
      (match result with
        | .ok stderr => .command 1 "" stderr none
        | .error f => .command 1 "" "" (some (.fault (f.report σ.store))), σ) := by
  have hstep := unknownStep?_of_forall_ne h hne hunknown
  unfold report at hprinted
  simp only [perform, performCommand, execute, parse_run_step, executeRun, hstep, reportUnknownStep,
    unknownStepMarkup_of_holdsCatalogue h, bind, Except.bind, hprinted]
  cases result <;> rfl

/-- **A step that there is not is reported if there is no markup in its name**, and only then. Let
the catalogue be as it was at the beginning, and let a name be neither empty nor that of a topic. To
ask for a run of its step ends with exit code one, puts nothing on standard output, and leaves
everything as it is.

Let each character of the name take one cell, and be neither white space nor a colon. Then nothing
else goes wrong and standard error, without its line feeds, has `Unknown step: ` and the name in it,
exactly if there is no markup in the name. -/
theorem command_reports_unknown_step (σ : Session) (h : σ.store.HoldsCatalogue σ.steps)
    {step : String} (hne : step ≠ "") (hunknown : ∀ topic : Topic, step ≠ topic.name) :
    ∃ stderr problem,
      σ.perform (.command ["run", "--step", step]) = (.command 1 "" stderr problem, σ) ∧
      ((∀ c ∈ step.toList, cellWidth c = 1 ∧ Text.isBlank c = false ∧ c ≠ ':') →
        (problem = none ∧
            ("Unknown step: " ++ step).toList <:+: stderr.toList.filter (· ≠ '\n') ↔
          Unmarked step.toList)) := by
  cases hprinted : printed (report step) with
  | ok stderr =>
    refine ⟨stderr, none, perform_unknownStep σ h hne hunknown hprinted, fun hstep => ?_⟩
    constructor
    · rintro ⟨-, hname⟩
      exact unmarked_of_printed hstep hprinted hname
    · intro hmarkup
      obtain ⟨printed, heq, hname⟩ := printed_report hstep hmarkup
      cases hprinted.symm.trans heq
      exact ⟨rfl, hname.isInfix⟩
  | error f =>
    refine ⟨"", _, perform_unknownStep σ h hne hunknown hprinted, fun hstep => ?_⟩
    refine iff_of_false (fun hreported => Option.some_ne_none _ hreported.1) fun hmarkup => ?_
    obtain ⟨stderr, heq, -⟩ := printed_report hstep hmarkup
    cases hprinted.symm.trans heq

/-- Brackets that begin no tag are reported as they are, and so is a backslash before a letter. -/
theorem command_reports_unknown_step_of_brackets :
    ∃ stderr, Session.perform {} (.command ["run", "--step", "rows[0]\\cols[A]/"]) =
        (.command 1 "" stderr none, {}) ∧
      ("Unknown step: " ++ "rows[0]\\cols[A]/").toList <:+:
        stderr.toList.filter (· ≠ '\n') := by
  obtain ⟨stderr, problem, heq, hname⟩ := command_reports_unknown_step {} rfl
    (by decide : "rows[0]\\cols[A]/" ≠ "") (by intro topic; cases topic <;> decide)
  have hword : OneWord "rows[0]\\cols[A]/" := by decide +kernel
  obtain ⟨rfl, hpart⟩ := (hname hword).2 (by decide +kernel)
  exact ⟨stderr, heq, hpart⟩

/-- A name that is a tag is not reported: one that opens a style vanishes from the report, and one
that closes the style of the report keeps it from being printed. -/
theorem not_command_reports_every_unknown_step :
    (∀ step ∈ ["[b]", "[/]"], step ≠ "" ∧ (∀ topic : Topic, step ≠ topic.name) ∧
      ∀ c ∈ step.toList, cellWidth c = 1 ∧ Text.isBlank c = false ∧ c ≠ ':') ∧
    (∃ stderr, Session.perform {} (.command ["run", "--step", "[b]"]) =
        (.command 1 "" stderr none, {}) ∧
      ¬ ("Unknown step: " ++ "[b]").toList <:+: stderr.toList.filter (· ≠ '\n')) ∧
    Session.perform {} (.command ["run", "--step", "[/]"]) =
      (.command 1 "" "" (some (.fault
        ⟨.markup, "closing tag '[/red]' at position 22 doesn't match any open tag"⟩)), {}) := by
  have hword : ∀ step ∈ ["[b]", "[/]"], OneWord step := by decide +kernel
  have hnone (step : String) (hstep : step ∈ ["[b]", "[/]"]) (topic : Topic) :
      step ≠ topic.name := by
    simp only [List.mem_cons, List.not_mem_nil, or_false] at hstep
    rcases hstep with rfl | rfl <;> cases topic <;> decide
  have hvanishes : printed (report "[b]") =
      .ok "Unknown step: . Choose: greeting, sum, threshold, loop, person\n" := by decide +kernel
  have hcloses : printed (report "[/]") = .error (.unmatchedTag "[/red]" 22) := by decide +kernel
  have hne : ∀ step ∈ ["[b]", "[/]"], step ≠ "" := by decide
  exact ⟨fun step hstep => ⟨hne step hstep, hnone step hstep, hword step hstep⟩,
    ⟨_, perform_unknownStep {} rfl (hne "[b]" (by simp)) (hnone "[b]" (by simp)) hvanishes,
      by decide +kernel⟩,
    perform_unknownStep {} rfl (hne "[/]" (by simp)) (hnone "[/]" (by simp)) hcloses⟩

end Walkthrough.Session
