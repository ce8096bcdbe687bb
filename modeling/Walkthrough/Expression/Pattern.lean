import Std.Data.HashMap
import Walkthrough.Expression.Token

/-!
# Patterns of tokens

A grammar gives every rule a pattern. Alternatives are tried in order, and the first that matches
is taken. A pattern may look for a problem in what it matched, and some of the patterns are there
only to find one: they are passed over at first, and the tokens are matched a second time with them
if nothing else matches.

Tokens are read one by one, so that a problem behind the last token is met only by a pattern that
reads so far. What a rule matched at a position may be remembered.

## Main definitions

* `Expression.Form`, `Expression.Tree` — what tokens are put together to
* `Expression.Pattern`, `Expression.Grammar` — what tokens may look like
* `Expression.Grammar.attempt` — matches a pattern at a position
* `Expression.Grammar.parse` — matches all tokens
-/

namespace Walkthrough.Expression

/-- What an expression, or a part of one, is. -/
inductive Form
  | tuple
  | set
  | dictionary
  | pair
  | unpackedPair
  | setComprehension
  | dictionaryComprehension
  | generator
  | clauses
  | starred
  | arguments
  | keyword
  | unpackedKeyword
  /-- An attribute of a value, or a call. -/
  | suffixed
  | awaited
  | operation
  | comparison
  | conditional
  | lambda
  | assignment
  | yielding
  | texts
deriving DecidableEq, Repr

/-- Tokens that are put together. -/
inductive Tree
  | leaf (t : Token)
  | node (form : Form) (parts : List Tree)

/-- What tokens may look like, where `ρ` are the rules. -/
inductive Pattern (ρ : Type)
  | symbol (spelling : String)
  | kind (k : TokenKind)
  /-- One of some names. -/
  | oneOf (names : List String)
  | rule (r : ρ)
  /-- One pattern after the other. -/
  | all (ps : List (Pattern ρ))
  /-- The first pattern that matches. -/
  | any (ps : List (Pattern ρ))
  /-- A pattern as often as it matches. -/
  | many (p : Pattern ρ)
  /-- A pattern that comes next, and is not taken. -/
  | ahead (p : Pattern ρ)
  /-- A pattern that does not come next. -/
  | notAhead (p : Pattern ρ)
  /-- If the first pattern matches then the second must follow, else the third is tried. -/
  | committed (test rest otherwise : Pattern ρ)
  /-- A pattern whose trees are left out. -/
  | drop (p : Pattern ρ)
  /-- A pattern that makes a tree of a form. -/
  | make (form : Form) (p : Pattern ρ)
  /-- A pattern that makes a tree of a form, unless it makes a single tree anyway. -/
  | join (form : Form) (p : Pattern ρ)
  /-- A pattern whose trees are looked through for a problem, given the number of brackets that are
  open behind them. -/
  | check (problem? : List Tree → Nat → Option Problem) (p : Pattern ρ)
  /-- A pattern that is passed over at first. -/
  | careful (p : Pattern ρ)
  /-- A pattern without those that are passed over at first. -/
  | carefree (p : Pattern ρ)

namespace Pattern

variable {ρ : Type}

/-- The empty pattern. -/
def empty : Pattern ρ := .all []

/-- A pattern that may be missing. -/
def optional (p : Pattern ρ) : Pattern ρ := .any [p, .empty]

/-- A pattern once or more. -/
def several (p : Pattern ρ) : Pattern ρ := .all [p, .many p]

/-- A pattern once or more, with another one between. -/
def separated (separator p : Pattern ρ) : Pattern ρ := .all [p, .many (.all [separator, p])]

/-- A pattern that matches only to find a problem. -/
def reject (problem? : List Tree → Nat → Option Problem) (ps : List (Pattern ρ)) : Pattern ρ :=
  .all [.check problem? (.all ps), .any []]

/-- A pattern that is a problem by itself. -/
def wrong (problem : Problem) (ps : List (Pattern ρ)) : Pattern ρ :=
  .reject (fun _ _ => some problem) ps

end Pattern

/-- The pattern of every rule, and whether what it matched is remembered. -/
structure Grammar (ρ : Type) where
  pattern : ρ → Pattern ρ
  isRemembered : ρ → Bool

/-- The trees of a match and the position behind it, if there is one. -/
abbrev Match := Option (List Tree × Nat)

/-- What is known while tokens are matched. -/
structure Progress (ρ : Type) [BEq ρ] [Hashable ρ] where
  known : Std.HashMap (ρ × Nat) Match
  /-- The number of tokens read so far. -/
  reached : Nat

/-- Why the matching stops. -/
structure Halt where
  problem : Problem
  /-- Whether the problem stands behind the last token. -/
  isEnding : Bool
  reached : Nat

/-- A computation that reads tokens. -/
abbrev Matching (ρ : Type) [BEq ρ] [Hashable ρ] := StateT (Progress ρ) (Except Halt)

section

variable {ρ : Type} [BEq ρ] [Hashable ρ]

/-- Reads the token at a position. -/
def Source.read (source : Source) (i : Nat) : Matching ρ Token := do
  modify fun progress => { progress with reached := max progress.reached (i + 1) }
  match source.tokens[i]? with
  | some t => return t
  | none => throw ⟨source.ending.problem.getD .unexpectedToken, true, i + 1⟩

/-- Takes the token at a position if it is wanted. -/
def Source.take (source : Source) (i : Nat) (isWanted : Token → Bool) : Matching ρ Match := do
  let t ← source.read i
  return if isWanted t then some ([.leaf t], i + 1) else none

/-- The number of brackets that are open in front of a position. -/
def Source.level (source : Source) (i : Nat) : Nat :=
  match source.tokens[i - 1]? with
  | some t => t.level
  | none => 0

/-- Matches a pattern at a position. The number bounds the depth to which patterns are followed, and
the flag tells whether problems are looked for. -/
def Grammar.attempt (g : Grammar ρ) (source : Source) :
    Nat → Bool → Pattern ρ → Nat → Matching ρ Match
  | 0, _, _, _ => return none
  | fuel + 1, isCareful, p, i =>
    match p with
    | .symbol spelling => source.take i fun t => t.kind = .symbol ∧ t.spelling = spelling
    | .kind k => source.take i fun t => t.kind = k
    | .oneOf names => source.take i fun t => t.kind = .name ∧ t.spelling ∈ names
    | .rule r => do
      let progress ← get
      match if g.isRemembered r then progress.known[(r, i)]? else none with
      | some found => return found
      | none =>
        let found ← g.attempt source fuel isCareful (g.pattern r) i
        if g.isRemembered r then
          modify fun progress =>
            { progress with known := progress.known.insert (r, i) found }
        return found
    | .all ps =>
      ps.foldlM (fun found p => do
        match found with
        | none => return none
        | some (trees, j) =>
          return (← g.attempt source fuel isCareful p j).map fun (more, k) => (trees ++ more, k))
        (some ([], i))
    | .any ps =>
      ps.foldlM (fun found p => do
        match found with
        | some _ => return found
        | none => g.attempt source fuel isCareful p i)
        none
    | .many p => do
      match ← g.attempt source fuel isCareful p i with
      | none => return some ([], i)
      | some (trees, j) =>
        match ← g.attempt source fuel isCareful (.many p) j with
        | none => return some (trees, j)
        | some (more, k) => return some (trees ++ more, k)
    | .ahead p => return (← g.attempt source fuel isCareful p i).map fun _ => ([], i)
    | .notAhead p => do
      match ← g.attempt source fuel isCareful p i with
      | none => return some ([], i)
      | some _ => return none
    | .committed test rest otherwise => do
      match ← g.attempt source fuel isCareful test i with
      | none => g.attempt source fuel isCareful otherwise i
      | some (trees, j) =>
        return (← g.attempt source fuel isCareful rest j).map fun (more, k) => (trees ++ more, k)
    | .drop p => return (← g.attempt source fuel isCareful p i).map fun (_, j) => ([], j)
    | .make form p =>
      return (← g.attempt source fuel isCareful p i).map fun (trees, j) => ([.node form trees], j)
    | .join form p =>
      return (← g.attempt source fuel isCareful p i).map fun (trees, j) =>
        match trees with
        | [tree] => ([tree], j)
        | _ => ([.node form trees], j)
    | .check problem? p => do
      match ← g.attempt source fuel isCareful p i with
      | none => return none
      | some (trees, j) =>
        match problem? trees (source.level j) with
        | some problem => throw ⟨problem, false, (← get).reached⟩
        | none => return some (trees, j)
    | .careful p => if isCareful then g.attempt source fuel isCareful p i else return none
    | .carefree p => g.attempt source fuel false p i

end

/-- The problem that is told when a problem was found after so many tokens were read: one that is
told at once wins, and so does a bracket on an earlier line that is never closed. -/
def Source.overruling (source : Source) (problem : Problem) (reached : Nat) : Problem :=
  match source.ending.problem with
  | none => problem
  | some final =>
    if source.ending.isLoud then final
    else match source.ending.bracket, source.tokens[reached - 1]? with
      | some (opening, line), some t => if line < t.line then .neverClosed opening else problem
      | _, _ => problem

/-- The problem that is told when the matching stops. -/
def Source.verdict (source : Source) (halt : Halt) : Problem :=
  if halt.isEnding ∨ (source.ending.isForeseen ∧ halt.reached = source.tokens.size) then
    halt.problem
  else source.overruling halt.problem halt.reached

/-- The problem that is told when nothing matches: the last token that was read has no place. -/
def Source.misplaced (source : Source) (reached reachedAgain : Nat) : Problem :=
  match source.tokens[reached - 1]? with
  | some t =>
    if t.kind = .indent then .unexpectedIndent
    else if t.kind = .dedent then .unexpectedDedent
    else source.overruling .unexpectedToken reachedAgain
  | none => .unexpectedToken

/-- Matches a rule with all tokens. No rule begins with itself, so that the depth is bounded by the
number of tokens. -/
def Grammar.parse {ρ : Type} [BEq ρ] [Hashable ρ] (g : Grammar ρ) (start : ρ) (source : Source) :
    Except Problem (List Tree) :=
  let depth := 300 * (source.tokens.size + 2)
  match (g.attempt source depth false (.rule start) 0).run ⟨∅, 0⟩ with
  | .error halt => .error (source.verdict halt)
  | .ok (some (trees, _), _) => .ok trees
  | .ok (none, progress) =>
    match (g.attempt source depth true (.rule start) 0).run ⟨∅, progress.reached⟩ with
    | .error halt => .error (source.verdict halt)
    | .ok (_, again) => .error (source.misplaced progress.reached again.reached)

end Walkthrough.Expression
