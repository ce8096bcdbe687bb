/-!
# Suggestions for misspelt words

Two words are alike to the degree that they have matching blocks: the longest common block, the
first one if there are several, then the longest blocks on its two sides, and so on. At least
three fifths of all characters must lie in matching blocks for one word to be suggested in place
of the other, and at most three words are suggested.

## Main definitions

* `CommandLine.matching` — how many characters lie in matching blocks
* `CommandLine.suggestions` — the words suggested in place of another
-/

namespace Walkthrough.CommandLine

/-- The length of the longest common beginning. -/
def commonLength : List Char → List Char → Nat
  | c :: cs, d :: ds => if c = d then commonLength cs ds + 1 else 0
  | _, _ => 0

/-- The longest common block of two words, as its two positions and its length. Of several, the
first in the first word is taken, and then the first in the second. -/
def longestBlock (cs ds : List Char) : Nat × Nat × Nat :=
  let starts := (List.range cs.length).flatMap fun i => (List.range ds.length).map fun j => (i, j)
  starts.foldl (fun best start =>
    let length := commonLength (cs.drop start.1) (ds.drop start.2)
    if best.2.2 < length then (start.1, start.2, length) else best) (0, 0, 0)

/-- The number of characters in matching blocks; the first argument bounds the depth. -/
def matchingWithin : Nat → List Char → List Char → Nat
  | 0, _, _ => 0
  | fuel + 1, cs, ds =>
    let (i, j, length) := longestBlock cs ds
    if length = 0 then 0
    else
      length + matchingWithin fuel (cs.take i) (ds.take j) +
        matchingWithin fuel (cs.drop (i + length)) (ds.drop (j + length))

/-- The number of characters of the first word in blocks that match the second. -/
def matching (cs ds : List Char) : Nat := matchingWithin cs.length cs ds

/-- A word that may be suggested, with its matching characters and all characters compared. -/
structure Candidate where
  word : String
  matched : Nat
  compared : Nat

/-- Whether one candidate is better than another: more alike, or as much and later in order. -/
def Candidate.better (a b : Candidate) : Bool :=
  let x := a.matched * b.compared
  let y := b.matched * a.compared
  decide (y < x) || (x == y && decide (b.word < a.word))

/-- The words suggested in place of `word`, in order. -/
def suggestions (word : String) (known : List String) : List String :=
  let candidates : List Candidate := known.map fun k =>
    ⟨k, matching k.toList word.toList, k.length + word.length⟩
  let alike := candidates.filter fun c => 3 * c.compared ≤ 10 * c.matched
  let best := (alike.mergeSort fun a b => !b.better a).take 3
  (best.map (·.word)).mergeSort (fun a b => !decide (b < a))

end Walkthrough.CommandLine
