/-!
# Arithmetic progressions

The integers from a first one up to, and without, a bound, a fixed distance apart. The distance may
be negative, and then the bound lies below.

## Main definitions

* `Progression` — first term, bound and distance
* `Progression.length`, `Progression.terms` — how many terms there are, and which
* `Progression.sameTerms` — whether two progressions have the same terms
-/

namespace Walkthrough

/-- The integers `start`, `start + step`, … that come before `stop`. -/
structure Progression where
  start : Int
  stop : Int
  step : Int
  step_ne_zero : step ≠ 0
deriving DecidableEq

namespace Progression

/-- The integers from zero up to, and without, `stop`. -/
def upTo (stop : Int) : Progression := ⟨0, stop, 1, by decide⟩

/-- The integers from `start` up to, and without, `stop`. -/
def between (start stop : Int) : Progression := ⟨start, stop, 1, by decide⟩

/-- The number of terms: the distance to the bound divided by the step, rounded up. -/
def length (r : Progression) : Nat :=
  if 0 < r.step then ((r.stop - r.start + r.step - 1) / r.step).toNat
  else ((r.start - r.stop - r.step - 1) / -r.step).toNat

/-- The term at an index, which need not be one of the progression. -/
def term (r : Progression) (i : Nat) : Int := r.start + i * r.step

/-- The terms in order. -/
def terms (r : Progression) : List Int := (List.range r.length).map r.term

/-- What is left of a progression after its first `n` terms. -/
def drop (r : Progression) (n : Nat) : Progression := { r with start := r.term n }

/-- Whether two progressions have the same terms, decided without listing them. -/
def sameTerms (r t : Progression) : Bool :=
  r.length == t.length &&
    (r.length == 0 || (r.start == t.start && (r.length == 1 || r.step == t.step)))

/-- Whether an integer fits a signed word of 64 bits. -/
def isWord (n : Int) : Bool := -0x8000000000000000 ≤ n && n ≤ 0x7FFFFFFFFFFFFFFF

/-- Whether the bounds, the step and the length fit a word, and so does what one step beyond the
last term adds up to. -/
def fitsWords (r : Progression) : Bool :=
  isWord r.start && isWord r.stop && isWord r.step && isWord r.length &&
    (r.length == 0 || isWord (if 0 < r.step then r.stop + (r.step - 1) else r.stop + (r.step + 1)))

@[simp]
theorem length_terms (r : Progression) : r.terms.length = r.length := by
  simp [terms]

example : (upTo 3).terms = [0, 1, 2] := by decide
example : (⟨10, 0, -3, by decide⟩ : Progression).terms = [10, 7, 4, 1] := by decide
example : (⟨0, 10, 3, by decide⟩ : Progression).terms = [0, 3, 6, 9] := by decide
example : (⟨5, 5, -1, by decide⟩ : Progression).terms = [] := by decide

end Progression

end Walkthrough
