import Mathlib.Data.List.Infix
import Walkthrough.Proofs.RunOutput

/-!
# What the lines of a run tell

Two runs may be told apart by their lines exactly if the lines show a difference. This module says
what they show, by reading the inputs back from the lines.

What makes this more than a look at the single pieces is that a line is put together from texts that
may hold anything. The greeting is followed by a separator, and it may end in a part of this
separator, or hold one that the name goes on with. So a piece can be read back if the separator
behind it does not occur in it, and if no beginning of the separator is an end of it: then its first
occurrence in the line is where the piece ends. The line of the person is read from both sides: the
first name is followed by a space and has none, and so is the age, from its end.

Numbers are read back up to what does not belong to them, and this is where the condition on their
digits comes in: with too many of them nothing is written. The number of iterations is read off as
the number of lines, for which no text is needed, and a count leaves nothing but the answer to a
comparison.

## Main definitions

* `Unbordered` — no proper beginning of a text is an end of it
* `Inputs.Legible` — inputs whose lines can be read back

## Main results

* `eq_of_append_separator` — a piece in front of a separator can be read back
* `Inputs.lines_eq_iff` — the lines of two inputs are the same if what they show is
* `allLines_eq_iff` — so are the lines that two stores tell
-/

namespace Walkthrough

/-! ### Reading back a piece in front of a separator -/

/-- No proper beginning of a text is an end of it. -/
def Unbordered (separator : List Char) : Prop :=
  ∀ t ∈ separator.inits, t <:+ separator → t = [] ∨ t = separator

instance (separator : List Char) : Decidable (Unbordered separator) :=
  inferInstanceAs (Decidable (∀ t ∈ separator.inits, t <:+ separator → t = [] ∨ t = separator))

variable {separator g₁ g₂ r₁ r₂ d : List Char}

/-- What lies between two occurrences of a separator that follow each other is not a proper part of
the separator. So it is nothing, or the first of them fits into it. -/
theorem eq_nil_of_append_separator (h : Unbordered separator) (hd : ¬ separator <:+: d)
    (heq : separator ++ r₁ = d ++ (separator ++ r₂)) : d = [] := by
  rcases List.append_eq_append_iff.1 heq with ⟨rest, hlong, -⟩ | ⟨rest, hshort, hrest⟩
  · exact absurd ⟨[], rest, by rw [List.nil_append, hlong]⟩ hd
  · -- what is left of the first separator is an end of it, and a beginning of the second
    have hbeginning : rest <+: separator := by
      refine List.prefix_of_prefix_length_le ⟨r₁, hrest.symm⟩ ⟨r₂, rfl⟩ ?_
      rw [hshort, List.length_append]
      omega
    rcases h rest (List.mem_inits _ _ |>.2 hbeginning) ⟨d, hshort.symm⟩ with rfl | hall
    · rw [List.append_nil] at hshort
      exact absurd ⟨[], [], by simp [hshort]⟩ hd
    · rw [hall] at hshort
      simpa using hshort

/-- **A piece in front of a separator can be read back** if it does not hold the separator. -/
theorem eq_of_append_separator (h : Unbordered separator) (h₁ : ¬ separator <:+: g₁)
    (h₂ : ¬ separator <:+: g₂) (heq : g₁ ++ (separator ++ r₁) = g₂ ++ (separator ++ r₂)) :
    g₁ = g₂ ∧ r₁ = r₂ := by
  have hpieces : g₁ = g₂ := by
    rcases List.append_eq_append_iff.1 heq with ⟨d, rfl, hd⟩ | ⟨d, rfl, hd⟩
    · rw [eq_nil_of_append_separator h (fun hin => h₂ (hin.trans ⟨g₁, [], by simp⟩)) hd,
        List.append_nil]
    · rw [eq_nil_of_append_separator h (fun hin => h₁ (hin.trans ⟨g₂, [], by simp⟩)) hd,
        List.append_nil]
  subst hpieces
  exact ⟨rfl, List.append_cancel_left (List.append_cancel_left heq)⟩

/-- The same for a single character. -/
theorem eq_of_append_character {c : Char} (h₁ : c ∉ g₁) (h₂ : c ∉ g₂)
    (heq : g₁ ++ c :: r₁ = g₂ ++ c :: r₂) : g₁ = g₂ ∧ r₁ = r₂ := by
  have hnone {g : List Char} (hg : c ∉ g) : ¬ [c] <:+: g :=
    fun hin => hg (hin.subset List.mem_cons_self)
  have hunbordered : Unbordered [c] := by
    intro t ht _
    simpa using ht
  exact eq_of_append_separator hunbordered (hnone h₁) (hnone h₂) heq

/-! ### Reading back inputs -/

namespace Inputs

variable {x y : Inputs}

/-- Inputs whose lines can be read back: none of their numbers that are written out has too many
digits, the greeting does not hold what stands between it and the name, and the first name is a
single word. -/
structure Legible (x : Inputs) : Prop where
  sum : Integer.digitCount x.numbers.sum ≤ 4300
  age : Integer.digitCount x.age ≤ 4300
  greeting : ¬ " My name is".toList <:+: x.greeting.toList
  firstName : ' ' ∉ x.firstName.toList

theorem Legible.fits (h : x.Legible) : Topic.inOrder.all x.fits = true :=
  List.all_eq_true.2 fun topic _ => fits_of_le h.sum h.age topic

theorem greetingLine_inj (hx : ¬ " My name is".toList <:+: x.greeting.toList)
    (hy : ¬ " My name is".toList <:+: y.greeting.toList) :
    x.topicLines .greeting = y.topicLines .greeting ↔
      x.greeting = y.greeting ∧ x.name = y.name := by
  constructor
  · intro h
    have hline : x.greeting.toList ++ (" My name is".toList ++ (' ' :: (x.name.toList ++ ['.']))) =
        y.greeting.toList ++ (" My name is".toList ++ (' ' :: (y.name.toList ++ ['.']))) := by
      simpa [topicLines, ← String.toList_inj] using h
    obtain ⟨hgreeting, hrest⟩ := eq_of_append_separator (by decide) hx hy hline
    exact ⟨String.toList_inj.1 hgreeting,
      String.toList_inj.1 (List.append_cancel_right (List.cons.inj hrest).2)⟩
  · rintro ⟨hgreeting, hname⟩
    rw [topicLines, topicLines, hgreeting, hname]

theorem sumLine_inj :
    x.topicLines .sum = y.topicLines .sum ↔ x.numbers.sum = y.numbers.sum := by
  simp only [topicLines, List.cons.injEq, and_true, String.append_right_inj, Integer.toString_inj]

theorem thresholdLine_inj :
    x.topicLines .threshold = y.topicLines .threshold ↔ (5 < x.count ↔ 5 < y.count) := by
  by_cases hx : 5 < x.count <;> by_cases hy : 5 < y.count <;> simp [topicLines, hx, hy]

theorem loopLines_inj :
    x.topicLines .loop = y.topicLines .loop ↔ max 0 x.iterations = max 0 y.iterations := by
  constructor
  · intro h
    have hlength := congrArg List.length h
    simp only [topicLines, List.length_map, List.length_range] at hlength
    omega
  · intro h
    have hnat : x.iterations.toNat = y.iterations.toNat := by omega
    rw [topicLines, topicLines, hnat]

/-- The line of a person is read from both sides. -/
theorem personLine_inj (hx : ' ' ∉ x.firstName.toList) (hy : ' ' ∉ y.firstName.toList) :
    x.topicLines .person = y.topicLines .person ↔
      x.firstName = y.firstName ∧ x.lastName = y.lastName ∧ x.age = y.age := by
  constructor
  · intro h
    have hline : x.firstName.toList ++ ' ' :: (x.lastName.toList ++ (" is ".toList ++
          (toString x.age).toList) ++ " years old.".toList) =
        y.firstName.toList ++ ' ' :: (y.lastName.toList ++ (" is ".toList ++
          (toString y.age).toList) ++ " years old.".toList) := by
      simpa [topicLines, ← String.toList_inj] using h
    obtain ⟨hfirst, hrest⟩ := eq_of_append_character hx hy hline
    have hback : (toString x.age).toList.reverse ++ ' ' :: (" is".toList.reverse ++
          x.lastName.toList.reverse) =
        (toString y.age).toList.reverse ++ ' ' :: (" is".toList.reverse ++
          y.lastName.toList.reverse) := by
      simpa using congrArg List.reverse (List.append_cancel_right hrest)
    have hspace (n : Int) : ' ' ∉ (toString n).toList.reverse := by
      rw [List.mem_reverse]
      exact Integer.notMem_toString (by decide) rfl n
    obtain ⟨hage, hlast⟩ := eq_of_append_character (hspace x.age) (hspace y.age) hback
    exact ⟨String.toList_inj.1 hfirst,
      String.toList_inj.1 (List.reverse_injective (List.append_cancel_left hlast)),
      Integer.toString_inj.1 (String.toList_inj.1 (List.reverse_injective hage))⟩
  · rintro ⟨hfirst, hlast, hage⟩
    rw [topicLines, topicLines, hfirst, hlast, hage]

/-- All lines are the same if those of each topic are. All topics but one have a fixed number of
lines, so the pieces cannot be taken for one another. -/
theorem lines_eq_iff_topicLines :
    x.lines = y.lines ↔ ∀ topic, x.topicLines topic = y.topicLines topic := by
  constructor
  · intro h
    have hsplit (z : Inputs) : z.lines = z.topicLines .greeting ++ (z.topicLines .sum ++
        (z.topicLines .threshold ++ (z.topicLines .loop ++ z.topicLines .person))) := by
      simp [lines, Topic.inOrder]
    rw [hsplit, hsplit] at h
    obtain ⟨hgreeting, h⟩ := List.append_inj h rfl
    obtain ⟨hsum, h⟩ := List.append_inj h rfl
    obtain ⟨hthreshold, h⟩ := List.append_inj h rfl
    obtain ⟨hloop, hperson⟩ := List.append_inj' h rfl
    intro topic
    cases topic <;> assumption
  · intro h
    rw [lines, lines, funext h]

/-- **The lines of two inputs are the same** if what they show is. -/
theorem lines_eq_iff (hx : x.Legible) (hy : y.Legible) :
    x.lines = y.lines ↔
      x.greeting = y.greeting ∧ x.name = y.name ∧ x.numbers.sum = y.numbers.sum ∧
        (5 < x.count ↔ 5 < y.count) ∧ max 0 x.iterations = max 0 y.iterations ∧
        x.firstName = y.firstName ∧ x.lastName = y.lastName ∧ x.age = y.age := by
  rw [lines_eq_iff_topicLines, ← sumLine_inj, ← thresholdLine_inj, ← loopLines_inj,
    ← personLine_inj hx.firstName hy.firstName, ← and_assoc,
    ← greetingLine_inj hx.greeting hy.greeting]
  constructor
  · exact fun h => ⟨h _, h _, h _, h _, h _⟩
  · rintro ⟨hgreeting, hsum, hthreshold, hloop, hperson⟩ topic
    cases topic <;> assumption

end Inputs

/-- **What the lines tell.** Let the catalogues be as they were at the beginning, let every field of
two settings hold what it is meant to, and let what they hold be legible. Then all lines are told
for both, and they are the same exactly if greetings, names, sums of the numbers, iterations, first
and last names and ages are the same, and the counts are on the same side of the threshold.

So there is no trace of the other attributes of the settings and of the person, of the single
numbers and their order, and of how large a count is; all the rest can be read back. -/
theorem allLines_eq_iff {s t : Store} {steps others : List Record} {v w : Value} {x y : Inputs}
    (hsteps : s.HoldsCatalogue steps) (hothers : t.HoldsCatalogue others)
    (hv : s.Provides v x) (hw : t.Provides w y) (hx : x.Legible) (hy : y.Legible) :
    ∃ lines otherLines, s.allLines steps v = (.ok lines, s) ∧
      t.allLines others w = (.ok otherLines, t) ∧
      (lines = otherLines ↔
        x.greeting = y.greeting ∧ x.name = y.name ∧ x.numbers.sum = y.numbers.sum ∧
          (5 < x.count ↔ 5 < y.count) ∧ max 0 x.iterations = max 0 y.iterations ∧
          x.firstName = y.firstName ∧ x.lastName = y.lastName ∧ x.age = y.age) := by
  refine ⟨x.lines, y.lines, ?_, ?_, Inputs.lines_eq_iff hx hy⟩
  · rw [Store.allLines_of_provides hsteps hv, if_pos hx.fits]
  · rw [Store.allLines_of_provides hothers hw, if_pos hy.fits]

/-- Settings that differ in the order of their numbers, in their count and in attributes that are
not shown tell the same lines; one more iteration tells them apart. The last name has in it what
stands between names and age. -/
theorem allLines_eq_iff_of_reordered :
    let store (numbers : List Value) (count iterations : Int) (active : Value) : Store :=
      Store.initial.2.allocAll
        [.list numbers,
          .dict (.ofNames (("nickname", active) ::
            Person.make (.text "Ada") (.text "King is 3 years") (.int 36))),
          .record ⟨.person, 6⟩,
          .dict (.ofNames [("greeting", .text "Hi. My"), ("name", .text "name is Bob"),
            ("count", .int count), ("iterations", .int iterations), ("numbers", .ref 5),
            ("person", .ref 7), ("is_active", active)]),
          .record ⟨.settings, 8⟩]
    let told (s : Store) : Except Fault (List String) := (s.allLines Store.initial.1 (.ref 9)).1
    told (store [.int 2, .int 3] 6 0 (.bool true)) = told (store [.int 3, .int 2] 7 (-1) .null) ∧
      told (store [.int 2, .int 3] 6 0 .null) ≠ told (store [.int 2, .int 3] 6 1 .null) := by
  intro store told
  have hprovides (m n count iterations : Int) (active : Value) :
      (store [.int m, .int n] count iterations active).Provides (.ref 9)
        ⟨"Hi. My", "name is Bob", count, iterations, [m, n], "Ada", "King is 3 years", 36⟩ :=
    { record := ⟨_, rfl, rfl⟩
      greeting := rfl
      name := rfl
      count := ⟨_, rfl, rfl⟩
      iterations := ⟨_, rfl, rfl⟩
      numbers := ⟨_, _, rfl, rfl, rfl⟩
      person := ⟨_, _, rfl, rfl, rfl, rfl, rfl, rfl, rfl⟩ }
  have hlegible (m n count iterations : Int) (hsum : Integer.digitCount [m, n].sum ≤ 4300) :
      Inputs.Legible
        ⟨"Hi. My", "name is Bob", count, iterations, [m, n], "Ada", "King is 3 years", 36⟩ :=
    { sum := hsum
      age := show Integer.digitCount 36 ≤ 4300 by decide
      greeting := show ¬ " My name is".toList <:+: "Hi. My".toList by decide
      firstName := show ' ' ∉ "Ada".toList by decide }
  have hsteps (numbers : List Value) (count iterations : Int) (active : Value) :
      (store numbers count iterations active).HoldsCatalogue Store.initial.1 := rfl
  constructor
  · obtain ⟨lines, others, hlines, hothers, hiff⟩ := allLines_eq_iff (hsteps _ _ _ _)
      (hsteps _ _ _ _) (hprovides 2 3 6 0 (.bool true)) (hprovides 3 2 7 (-1) .null)
      (hlegible 2 3 6 0 (by decide)) (hlegible 3 2 7 (-1) (by decide))
    show (Store.allLines _ _ _).1 = (Store.allLines _ _ _).1
    rw [hlines, hothers, hiff.2 (by decide)]
  · obtain ⟨lines, others, hlines, hothers, hiff⟩ := allLines_eq_iff (hsteps _ _ _ _)
      (hsteps _ _ _ _) (hprovides 2 3 6 0 .null) (hprovides 2 3 6 1 .null)
      (hlegible 2 3 6 0 (by decide)) (hlegible 2 3 6 1 (by decide))
    show (Store.allLines _ _ _).1 ≠ (Store.allLines _ _ _).1
    rw [hlines, hothers]
    intro h
    exact absurd (hiff.1 (Except.ok.inj h)) (by decide)

end Walkthrough
