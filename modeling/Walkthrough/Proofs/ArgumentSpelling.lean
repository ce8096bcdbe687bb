import Walkthrough.Proofs.CommandRun

/-!
# Spellings of the options of a run

What a run is asked for can be written in many ways. A value may follow its option as the next
argument or behind an equals sign; the step has a short option besides, with its value attached or
as the next argument, and flags may stand in front of it behind the same dash. In whatever way a
list of settings is written, it is read back.

Nothing is asked of the values. One that looks like an option, or ends the options elsewhere, is
still the value of the option that wants it, and an equals sign only ever separates a value from a
*long* option: behind one dash it belongs to the value. A count that is not the last one need not
even be a number, as only the last is read. So the one thing that can go wrong is the text of that
count.

## Main definitions

* `CommandLine.Setting` — one thing that a run is asked for
* `CommandLine.Spelling` — settings that are written together, and how
* `CommandLine.Spelling.settings`, `CommandLine.Spelling.arguments` — what is meant, and what is
  written

## Main results

* `CommandLine.scan_spelled` — arguments are read back as the settings that they were written for
* `CommandLine.parse_spelled` — a run is asked for what was given last
-/

namespace Walkthrough.CommandLine

/-! ### Settings and their spellings -/

/-- One thing that a run is asked for. The count is given as a text, which may be read or not. -/
inductive Setting
  | step (name : String)
  | name (name : String)
  | count (text : String)
  | verbose
deriving DecidableEq, Repr

/-- The option that a setting belongs to. -/
def Setting.switch : Setting → Switch
  | .step _ => .step
  | .name _ => .name
  | .count _ => .count
  | .verbose => .verbose

/-- The value of the option, which is empty for one that has none. -/
def Setting.value : Setting → String
  | .step x | .name x | .count x => x
  | .verbose => ""

/-- The long spelling of the option. -/
def Setting.option : Setting → String
  | .step _ => "--step"
  | .name _ => "--name"
  | .count _ => "--count"
  | .verbose => "--verbose"

/-- A setting as it is found among the arguments. -/
def Setting.given (setting : Setting) : Given := (setting.switch, setting.value)

/-- Settings that are written together, and how. Several of them share an argument if flags stand
behind one dash. -/
inductive Spelling
  /-- A long option, and its value as the next argument: `--step x`, `--verbose`. -/
  | long (setting : Setting)
  /-- A long option with its value behind an equals sign: `--step=x`. -/
  | joined (setting : Setting) (hvalue : setting ≠ .verbose)
  /-- One flag and `more` of them: `-v`, `-vv`. -/
  | cluster (more : Nat)
  /-- The short option of the step behind some flags, and its value as the next argument: `-s x`,
  `-vvs x`. -/
  | apart (flags : Nat) (x : String)
  /-- The short option of the step behind some flags, with its value attached: `-sx`, `-vvsx`. -/
  | attached (flags : Nat) (x : String) (hx : x ≠ "")

/-- The settings that are meant. -/
def Spelling.settings : Spelling → List Setting
  | .long setting => [setting]
  | .joined setting _ => [setting]
  | .cluster more => List.replicate (more + 1) .verbose
  | .apart flags x => List.replicate flags .verbose ++ [.step x]
  | .attached flags x _ => List.replicate flags .verbose ++ [.step x]

/-- The arguments that are written. -/
def Spelling.arguments : Spelling → List String
  | .long .verbose => ["--verbose"]
  | .long setting => [setting.option, setting.value]
  | .joined setting _ => [setting.option ++ "=" ++ setting.value]
  | .cluster more => [String.ofList ('-' :: List.replicate (more + 1) 'v')]
  | .apart flags x => [String.ofList ('-' :: (List.replicate flags 'v' ++ ['s'])), x]
  | .attached flags x _ => [String.ofList ('-' :: (List.replicate flags 'v' ++ 's' :: x.toList))]

/-- All settings can be written, in every order. -/
theorem exists_spelled (settings : List Setting) :
    ∃ spelled : List Spelling, spelled.flatMap Spelling.settings = settings :=
  ⟨settings.map .long, by simp [List.flatMap_map, Spelling.settings]⟩

/-! ### Reading one argument -/

section Reading

variable {argument : String} {given : List Given} {flags : Nat} {cs : List Char}

/-- An argument that leaves no option wanting a value takes nothing of what follows. -/
theorem scan_of_given (hdashes : argument ≠ "--") (hoption : looksLikeOption argument = true)
    (hread : readOption .run argument = .ok { given }) (rest : List String) :
    scan .run (argument :: rest) = (scan .run rest).map (.after given) := by
  rw [scan, if_neg hdashes, if_pos hoption, hread]

/-- A long option ends at the first equals sign, so all that is behind that sign is the value. -/
theorem splitValue_append {name value : List Char} (hname : '=' ∉ name) :
    splitValue (name ++ '=' :: value) = (String.ofList name, some (String.ofList value)) := by
  have hall : ∀ c ∈ name, decide (c ≠ '=') = true := by
    intro c hc
    rw [decide_eq_true_iff]
    rintro rfl
    exact hname hc
  rw [splitValue, List.takeWhile_append_of_pos hall, List.dropWhile_append_of_pos hall,
    List.takeWhile_cons_of_neg (by decide), List.dropWhile_cons_of_neg (by decide),
    List.append_nil]

/-- Long spellings begin with two dashes. -/
theorem lookup_long_eq_none {c : Char} (hdash : c ≠ '-') :
    Grammar.run.long.lookup (String.ofList ('-' :: c :: cs)) = none := by
  rw [List.lookup_eq_none_iff]
  intro p hp
  rw [bne_iff_ne]
  intro heq
  have hsecond : ∃ ds, p.1.toList = '-' :: '-' :: ds := by
    simp only [Grammar.run, List.mem_cons, List.not_mem_nil, or_false] at hp
    obtain rfl | rfl | rfl | rfl | rfl := hp <;> exact ⟨_, rfl⟩
  obtain ⟨ds, hds⟩ := hsecond
  rw [← heq, String.toList_ofList] at hds
  exact hdash (List.cons.inj (List.cons.inj hds).2).1

/-- Behind a single dash there are short options, and an equals sign is none of its business. -/
theorem readOption_short {c : Char} (hdash : c ≠ '-') (hsign : c ≠ '=') :
    readOption .run (String.ofList ('-' :: c :: cs)) = readShort .run (c :: cs) := by
  have hspelling : (splitValue ('-' :: c :: cs)).1 =
      String.ofList ('-' :: c :: cs.takeWhile (· ≠ '=')) := by
    rw [splitValue, List.takeWhile_cons_of_pos (by decide),
      List.takeWhile_cons_of_pos (by rwa [decide_eq_true_iff])]
  rw [readOption, String.toList_ofList]
  simp only [hspelling, lookup_long_eq_none hdash]
  split
  · rename_i heq
    exact absurd (List.cons.inj (List.cons.inj heq).2).1 hdash
  · rfl

/-- Flags behind a dash are read one after the other. -/
theorem readShort_flags (flags : Nat) (cs : List Char) :
    readShort .run (List.replicate flags 'v' ++ cs) = (readShort .run cs).map fun later =>
      { later with given := List.replicate flags (.verbose, "") ++ later.given } := by
  induction flags with
  | zero => cases h : readShort .run cs <;> rw [List.replicate_zero, List.nil_append, h] <;> rfl
  | succ flags ih =>
    rw [List.replicate_succ, List.cons_append, readShort,
      show Grammar.run.short.lookup 'v' = some .verbose from rfl]
    simp only [Switch.takesValue, ih]
    cases readShort .run cs <;> rfl

/-- The short option of the step takes what is attached to it. -/
theorem readShort_step (hcs : cs ≠ []) :
    readShort .run ('s' :: cs) = .ok { given := [(.step, String.ofList cs)] } := by
  obtain ⟨c, cs, rfl⟩ := List.exists_cons_of_ne_nil hcs
  rfl

/-- Behind flags or not, what is behind a single dash is read as short options. -/
theorem readOption_cluster {c : Char} (hc : c = 'v' ∨ c = 's') (flags : Nat) (cs : List Char) :
    let argument := String.ofList ('-' :: (List.replicate flags 'v' ++ c :: cs))
    argument ≠ "--" ∧ looksLikeOption argument = true ∧
      readOption .run argument = readShort .run (List.replicate flags 'v' ++ c :: cs) := by
  intro argument
  obtain ⟨d, ds, hd, hds⟩ : ∃ d ds, (d = 'v' ∨ d = 's') ∧
      List.replicate flags 'v' ++ c :: cs = d :: ds := by
    cases flags with
    | zero => exact ⟨c, cs, hc, rfl⟩
    | succ flags => exact ⟨'v', _, .inl rfl, rfl⟩
  have hdash : d ≠ '-' ∧ d ≠ '=' := by
    obtain rfl | rfl := hd <;> decide
  have hargument : argument.toList = '-' :: d :: ds := by
    rw [String.toList_ofList, hds]
  refine ⟨fun heq => ?_, ?_, ?_⟩
  · rw [heq] at hargument
    exact hdash.1 (List.cons.inj (List.cons.inj hargument).2).1.symm
  · rw [looksLikeOption, hargument]
    rfl
  · show readOption .run (String.ofList ('-' :: (List.replicate flags 'v' ++ c :: cs))) = _
    rw [hds, readOption_short hdash.1 hdash.2]

end Reading

/-! ### Reading all of them -/

/-- Settings as they are found among the arguments. -/
def Spelling.given (spelling : Spelling) : List Given := spelling.settings.map Setting.given

/-- A long spelling is two dashes and a word without an equals sign. -/
theorem Setting.exists_option_toList (setting : Setting) :
    ∃ word, setting.option.toList = '-' :: '-' :: word ∧ '=' ∉ word := by
  cases setting with
  | step => exact ⟨"step".toList, show "--step".toList = _ by decide, by decide⟩
  | name => exact ⟨"name".toList, show "--name".toList = _ by decide, by decide⟩
  | count => exact ⟨"count".toList, show "--count".toList = _ by decide, by decide⟩
  | verbose => exact ⟨"verbose".toList, show "--verbose".toList = _ by decide, by decide⟩

/-- A long option with its value behind an equals sign is one argument of its own. -/
theorem readOption_joined {setting : Setting} (hvalue : setting ≠ .verbose) :
    let argument := setting.option ++ "=" ++ setting.value
    argument ≠ "--" ∧ looksLikeOption argument = true ∧
      readOption .run argument = .ok { given := [setting.given] } := by
  intro argument
  have hargument : argument.toList = setting.option.toList ++ '=' :: setting.value.toList := by
    rw [String.toList_append, String.toList_append, List.append_assoc]
    rfl
  obtain ⟨name, hoption, hname⟩ := setting.exists_option_toList
  have hsign : '=' ∉ setting.option.toList := by
    rw [hoption, List.mem_cons, List.mem_cons, not_or, not_or]
    exact ⟨by decide, by decide, hname⟩
  refine ⟨fun heq => ?_, ?_, ?_⟩
  · have hmem : '=' ∈ argument.toList := by
      rw [hargument]
      exact List.mem_append_right _ List.mem_cons_self
    rw [heq] at hmem
    exact absurd hmem (by decide)
  · rw [looksLikeOption, hargument, hoption]
    rfl
  · rw [readOption, hargument]
    simp only [splitValue_append hsign, String.ofList_toList]
    cases setting with
    | verbose => exact absurd rfl hvalue
    | step | name | count => rfl

/-- **One spelling is read back** as the settings that it was written for, and nothing else of the
arguments is touched. -/
theorem scan_spelling (spelling : Spelling) (rest : List String) :
    scan .run (spelling.arguments ++ rest) =
      (scan .run rest).map (.after spelling.given) := by
  cases spelling with
  | long setting =>
    cases setting with
    | verbose => exact scan_of_given (by decide) (by decide) rfl rest
    | step x => exact scan_of_wanting "--step" .step (by decide) (by decide) rfl x rest
    | name x => exact scan_of_wanting "--name" .name (by decide) (by decide) rfl x rest
    | count x => exact scan_of_wanting "--count" .count (by decide) (by decide) rfl x rest
  | joined setting hvalue =>
    obtain ⟨hdashes, hoption, hread⟩ := readOption_joined hvalue
    exact scan_of_given hdashes hoption hread rest
  | cluster more =>
    have hflags : List.replicate (more + 1) 'v' = List.replicate more 'v' ++ ['v'] :=
      List.replicate_succ'
    obtain ⟨hdashes, hoption, hread⟩ := readOption_cluster (.inl rfl) more []
    rw [← hflags] at hdashes hoption hread
    refine scan_of_given hdashes hoption (hread.trans ?_) rest
    have hread := readShort_flags (more + 1) []
    rw [List.append_nil] at hread
    rw [hread]
    simp [readShort, Spelling.given, Spelling.settings, Setting.given, Setting.switch,
      Setting.value, Except.map]
  | apart flags x =>
    obtain ⟨hdashes, hoption, hread⟩ := readOption_cluster (.inr rfl) flags []
    have hread := hread.trans (readShort_flags flags ['s'])
    refine (scan_of_wanting _ .step hdashes hoption hread x rest).trans ?_
    simp [Spelling.given, Spelling.settings, Setting.given, Setting.switch, Setting.value]
  | attached flags x hx =>
    have hcs : x.toList ≠ [] := fun h => hx (String.toList_eq_nil_iff.1 h)
    obtain ⟨hdashes, hoption, hread⟩ := readOption_cluster (.inr rfl) flags x.toList
    rw [readShort_flags, readShort_step hcs, String.ofList_toList] at hread
    refine (scan_of_given hdashes hoption hread rest).trans ?_
    simp [Spelling.given, Spelling.settings, Setting.given, Setting.switch, Setting.value]

/-- **Arguments are read back** as the settings that they were written for, and none is left
over. -/
theorem scan_spelled (spelled : List Spelling) :
    scan .run (spelled.flatMap Spelling.arguments) =
      .ok { given := (spelled.flatMap Spelling.settings).map Setting.given } := by
  induction spelled with
  | nil => rfl
  | cons spelling spelled ih =>
    rw [List.flatMap_cons, scan_spelling, ih, List.flatMap_cons, List.map_append]
    rfl

/-! ### What is given last -/

/-- The step of a setting. -/
def Setting.step? : Setting → Option String
  | .step x => some x
  | _ => none

/-- The name of a setting. -/
def Setting.name? : Setting → Option String
  | .name x => some x
  | _ => none

/-- The text of the count of a setting. -/
def Setting.count? : Setting → Option String
  | .count text => some text
  | _ => none

section Last

variable (settings : List Setting)

/-- Of several values of an option, the last one counts. -/
theorem last?_given (read : Setting → Option String) {switch : Switch}
    (hread : ∀ setting : Setting,
      read setting = if setting.switch = switch then some setting.value else none) :
    Scan.last? { given := settings.map Setting.given } switch =
      (settings.filterMap read).getLast? := by
  rw [Scan.last?, List.getLast?_filterMap, List.lookup_eq_findSome?, ← List.map_reverse,
    List.findSome?_map]
  refine congrArg (List.findSome? · _) (funext fun setting => ?_)
  rw [hread]
  cases setting <;> cases switch <;> rfl

theorem last?_step : Scan.last? { given := settings.map Setting.given } .step =
    (settings.filterMap Setting.step?).getLast? :=
  last?_given settings _ fun setting => by cases setting <;> rfl

theorem last?_name : Scan.last? { given := settings.map Setting.given } .name =
    (settings.filterMap Setting.name?).getLast? :=
  last?_given settings _ fun setting => by cases setting <;> rfl

theorem last?_count : Scan.last? { given := settings.map Setting.given } .count =
    (settings.filterMap Setting.count?).getLast? :=
  last?_given settings _ fun setting => by cases setting <;> rfl

/-- A run is verbose if that is asked for once or more. -/
theorem last?_verbose_isSome :
    (Scan.last? { given := settings.map Setting.given } .verbose).isSome = true ↔
      .verbose ∈ settings := by
  rw [last?_given settings (fun setting => if setting = .verbose then some "" else none)
      fun setting => by cases setting <;> rfl,
    List.getLast?_isSome, Ne, List.filterMap_eq_nil_iff]
  simp

end Last

/-- The last count is read if it is the text of an integer that does not have too many digits. -/
theorem exists_count {settings : List Setting}
    (hcount : ∀ text ∈ (settings.filterMap Setting.count?).getLast?,
      ∃ n : Int, text = toString n ∧ Integer.digitCount n ≤ 4300) :
    ∃ count : Int, Scan.count { given := settings.map Setting.given } = .ok count ∧
      ((settings.filterMap Setting.count?).getLast? = none → count = Settings.defaultCount) ∧
      ∀ n : Int, (settings.filterMap Setting.count?).getLast? = some (toString n) → count = n := by
  rw [Scan.count, last?_count]
  cases hlast : (settings.filterMap Setting.count?).getLast? with
  | none => exact ⟨Settings.defaultCount, rfl, fun _ => rfl, by rintro n ⟨⟩⟩
  | some text =>
    obtain ⟨n, rfl, hdigits⟩ := hcount text hlast
    simp only [Integer.read?_toString hdigits]
    refine ⟨n, rfl, by rintro ⟨⟩, fun m hm => ?_⟩
    exact Integer.toString_inj.1 (Option.some.inj hm)

/-- No setting asks for help. -/
theorem asksHelp_given (settings : List Setting) :
    Scan.asksHelp { given := settings.map Setting.given } = false := by
  rw [Scan.asksHelp, List.any_eq_false]
  intro given hgiven
  obtain ⟨setting, -, rfl⟩ := List.mem_map.1 hgiven
  cases setting <;> exact nofun

/-- **A run is asked for what was given last.** Let settings be written in any way, and let the last
count, if there is one, be the text of an integer that does not have too many digits. Then the
arguments are those of a run, and it gets the last step and the last name that were given, the last
count, and is verbose if that was asked for once or more; without a step it is a run of all steps,
and without a name or a count it gets the default. -/
theorem parse_spelled (spelled : List Spelling)
    (hcount : ∀ text ∈ ((spelled.flatMap Spelling.settings).filterMap Setting.count?).getLast?,
      ∃ n : Int, text = toString n ∧ Integer.digitCount n ≤ 4300) :
    let settings := spelled.flatMap Spelling.settings
    let arguments := "run" :: spelled.flatMap Spelling.arguments
    ∃ options : RunOptions, parse arguments = .ok (.run options) ∧
      options.step = (settings.filterMap Setting.step?).getLast? ∧
      options.name = (settings.filterMap Setting.name?).getLast?.getD "Alice" ∧
      ((settings.filterMap Setting.count?).getLast? = none → options.count = 10) ∧
      (∀ n : Int, (settings.filterMap Setting.count?).getLast? = some (toString n) →
        options.count = n) ∧
      (options.verbose = true ↔ .verbose ∈ settings) ∧
      ∀ s steps, execute s steps arguments = executeRun s steps options := by
  intro settings arguments
  obtain ⟨count, hread, hdefault, hlast⟩ := exists_count hcount
  have hparsed : parse arguments = parseRun (spelled.flatMap Spelling.arguments) := rfl
  rw [parseRun, scan_spelled] at hparsed
  simp only [bind, Except.bind, asksHelp_given, hread, last?_step, last?_name] at hparsed
  refine ⟨_, hparsed, rfl, rfl, hdefault, hlast, last?_verbose_isSome settings, fun s steps => ?_⟩
  rw [execute, hparsed]
  rfl

/-- Values that look like options, and one that would end them, a value with an equals sign, flags
in front of a short option, and a count that is overridden. -/
theorem parse_spelled_of_odd_values :
    let spelled : List Spelling :=
      [.long (.count "many"), .attached 2 "=x" (by decide), .joined (.name "a=b") (by decide), .cluster 0,
        .joined (.count "-5") (by decide), .apart 0 "--"]
    spelled.flatMap Spelling.arguments =
        ["--count", "many", "-vvs=x", "--name=a=b", "-v", "--count=-5", "-s", "--"] ∧
      parse ("run" :: spelled.flatMap Spelling.arguments) =
        .ok (.run { step := some "--", name := "a=b", count := -5, verbose := true }) := by
  intro spelled
  obtain ⟨⟨step, name, count, verbose⟩, hparsed, hstep, hname, -, hcount, hverbose, -⟩ :=
    parse_spelled spelled fun text htext => ⟨-5, by cases htext; rfl, by decide⟩
  cases hstep
  cases hname
  cases hcount (-5) (by decide)
  cases hverbose.2 (by decide)
  exact ⟨by decide, hparsed⟩

end Walkthrough.CommandLine
