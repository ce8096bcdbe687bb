import Walkthrough.CommandLine.Execution
import Walkthrough.Proofs.RunOutput

/-!
# What a run puts on standard output

Standard output gets the lines of a run and nothing else. It is no terminal, so sequences that
control one are left out, and the two characters that end a line elsewhere are read as one. A line
in which no sequence begins, and which has no carriage return, arrives as it is.

The announcements of a run go elsewhere, so they make no difference.

What arrives is defined for characters and not for lines: the lines are written one behind the
other, each with a line feed, and carriage returns are rewritten where they stand before one. So a
condition on each line is sufficient and is what can be checked, while it is not claimed to be
necessary.

## Main definitions

* `CommandLine.Untouched` — a text that arrives as it is
* `CommandLine.delivered` — what standard output gets of lines

## Main results

* `CommandLine.stdout_eq_delivered` — standard output depends on the lines of a run only
* `CommandLine.delivered_of_untouched` — lines that arrive as they are
* `CommandLine.untouched_of_mem_topicLines` — so do the lines of topics, if what they are made of
  does
-/

namespace Walkthrough.CommandLine

/-- A text in which no sequence that controls a terminal begins, and no end of a line that is
rewritten. -/
structure Untouched (t : String) : Prop where
  escape : '\x1b' ∉ t.toList
  carriageReturn : '\r' ∉ t.toList

instance (t : String) : Decidable (Untouched t) :=
  decidable_of_iff ('\x1b' ∉ t.toList ∧ '\r' ∉ t.toList) ⟨fun h => ⟨h.1, h.2⟩, fun h => ⟨h.1, h.2⟩⟩

/-- What standard output gets of lines. -/
def delivered (lines : List String) : String := String.ofList (withLineFeeds (lines.flatMap echoed))

/-- **Standard output depends on the lines of a run only.** -/
theorem stdout_eq_delivered (trace : Walkthrough.Trace) :
    Trace.stdout trace = delivered trace.lines := by
  refine congrArg (fun cs => String.ofList (withLineFeeds cs)) ?_
  rw [Walkthrough.Trace.lines]
  induction trace.events with
  | nil => rfl
  | cons event rest ih =>
    rw [List.flatMap_cons, ih]
    cases event <;> rfl

/-- Without an escape character there is no sequence to be left out. -/
theorem withoutSequences_of_notMem {cs : List Char} (h : '\x1b' ∉ cs) (fuel : Nat) :
    withoutSequences fuel cs = cs := by
  induction fuel generalizing cs with
  | zero => rfl
  | succ fuel ih =>
    cases cs with
    | nil => rfl
    | cons c rest =>
      obtain ⟨hc, hrest⟩ := not_or.1 (List.mem_cons.not.1 h)
      rw [withoutSequences, if_neg fun hbegins => hc hbegins.1.symm, ih hrest]

theorem withLineFeeds_of_notMem {cs : List Char} (h : '\r' ∉ cs) : withLineFeeds cs = cs := by
  induction cs with
  | nil => rfl
  | cons c rest ih =>
    obtain ⟨hc, hrest⟩ := not_or.1 (List.mem_cons.not.1 h)
    rw [withLineFeeds, ih hrest]
    rintro _ rfl
    exact absurd rfl hc

/-- A text that arrives as it is. -/
theorem echoed_of_untouched {line : String} (h : Untouched line) :
    echoed line = (line ++ "\n").toList := by
  rw [echoed, withoutSequences_of_notMem h.escape, String.toList_append]
  rfl

/-- **Lines that arrive as they are**, each with a line feed behind it. -/
theorem delivered_of_untouched {lines : List String} (h : ∀ line ∈ lines, Untouched line) :
    delivered lines = String.join (lines.map (· ++ "\n")) := by
  have hechoed : lines.flatMap echoed = (String.join (lines.map (· ++ "\n"))).toList := by
    induction lines with
    | nil => rfl
    | cons line rest ih =>
      obtain ⟨hline, hrest⟩ := List.forall_mem_cons.1 h
      rw [List.flatMap_cons, ih hrest, echoed_of_untouched hline, List.map_cons, String.join_cons,
        ← String.toList_append]
  have hreturn : '\r' ∉ lines.flatMap echoed := by
    intro hmem
    obtain ⟨line, hline, hin⟩ := List.mem_flatMap.1 hmem
    rw [echoed_of_untouched (h line hline), String.toList_append, List.mem_append] at hin
    exact hin.elim (h line hline).carriageReturn (by decide)
  rw [delivered, withLineFeeds_of_notMem hreturn, hechoed, String.ofList_toList]

/-! ### The lines of topics -/

theorem Untouched.append {t u : String} (ht : Untouched t) (hu : Untouched u) :
    Untouched (t ++ u) := by
  constructor <;> rw [String.toList_append, List.mem_append, not_or]
  · exact ⟨ht.escape, hu.escape⟩
  · exact ⟨ht.carriageReturn, hu.carriageReturn⟩

theorem untouched_toString (n : Int) : Untouched (toString n) :=
  ⟨Integer.notMem_toString (by decide) rfl n, Integer.notMem_toString (by decide) rfl n⟩

/-- The lines of topics arrive as they are if the texts that they are made of do. -/
theorem untouched_of_mem_topicLines {x : Inputs} (hgreeting : Untouched x.greeting)
    (hname : Untouched x.name) (hfirst : Untouched x.firstName) (hlast : Untouched x.lastName)
    {topic : Topic} {line : String} (hline : line ∈ x.topicLines topic) : Untouched line := by
  cases topic with
  | greeting =>
    obtain rfl := List.mem_singleton.1 hline
    exact ((hgreeting.append (by decide)).append hname).append (by decide)
  | sum =>
    obtain rfl := List.mem_singleton.1 hline
    exact Untouched.append (by decide) (untouched_toString _)
  | threshold =>
    obtain rfl := List.mem_singleton.1 hline
    split <;> decide
  | loop =>
    obtain ⟨i, -, rfl⟩ := List.mem_map.1 hline
    exact Untouched.append (by decide) (untouched_toString (i : Int))
  | person =>
    obtain rfl := List.mem_singleton.1 hline
    exact ((((hfirst.append (by decide)).append hlast).append (by decide)).append
      (untouched_toString _)).append (by decide)

end Walkthrough.CommandLine
