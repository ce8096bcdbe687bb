import Walkthrough.Terminal.Colour
import Walkthrough.Text.Blank
import Walkthrough.Text.LowerCase

/-!
# Names of styles

A style is named by words in any order: effects, some of which have short forms and each of which
can be refused by a word before it, a colour, a colour behind, and a link. The canonical name has
the full forms in a fixed order. Whatever else stands in a tag is a name by itself, in lower case.

## Main definitions

* `Terminal.Style` — a style
* `Terminal.Style.withWords?`, `Terminal.namedStyle?` — the style that words name
* `Terminal.canonicalName` — the name by which a tag is opened and closed
-/

namespace Walkthrough.Terminal

open Text

/-- The effects, in the order in which a canonical name lists them. -/
def effects : List String :=
  ["bold", "dim", "italic", "underline", "blink", "blink2", "reverse", "conceal", "strike",
   "underline2", "frame", "encircle", "overline"]

/-- The effect that a word stands for. -/
def effect? (word : String) : Option String :=
  match word with
  | "b" => some "bold"
  | "d" => some "dim"
  | "i" => some "italic"
  | "u" => some "underline"
  | "r" => some "reverse"
  | "c" => some "conceal"
  | "s" => some "strike"
  | "uu" => some "underline2"
  | "o" => some "overline"
  | _ => if word ∈ effects then some word else none

/-- A style: the effects wanted and refused, the last mention of each first, and the last colour,
colour behind and link given. -/
structure Style where
  wanted : List (String × Bool) := []
  colour : Option String := none
  behind : Option String := none
  link : Option String := none

namespace Style

/-- The style with a word that needs no other: an effect or a colour. -/
def withWord? (style : Style) (word : String) : Except Fault (Option Style) := do
  match effect? (lowerCase word) with
  | some effect => return some { style with wanted := (effect, true) :: style.wanted }
  | none =>
    if ← isColour (lowerCase word) then return some { style with colour := some (lowerCase word) }
    else return none

/-- The style with further words. -/
def withWords? (style : Style) : List String → Except Fault (Option Style)
  | [] => .ok (some style)
  | [word] => style.withWord? word
  | word :: next :: rest =>
    match lowerCase word with
    | "on" => do
      if ← isColour (lowerCase next) then
        withWords? { style with behind := some (lowerCase next) } rest
      else return none
    | "not" =>
      match effect? next with
      | some effect => withWords? { style with wanted := (effect, false) :: style.wanted } rest
      | none => .ok none
    | "link" => withWords? { style with link := some next } rest
    | _ => do
      match ← style.withWord? word with
      | some style => withWords? style (next :: rest)
      | none => return none

/-- The canonical name of a style. -/
def name (style : Style) : String :=
  let wanted := effects.filterMap fun effect =>
    (style.wanted.lookup effect).map fun want => if want then effect else "not " ++ effect
  let words := wanted ++ style.colour.toList ++ (style.behind.map ("on " ++ ·)).toList ++
    (style.link.map ("link " ++ ·)).toList
  if words.isEmpty then "none" else " ".intercalate words

end Style

/-- The words of a text. -/
def wordsOf (cs : List Char) : List String :=
  ((cs.splitOnP isBlank).filter (!·.isEmpty)).map String.ofList

/-- A text without the white space at its ends. -/
def strip (cs : List Char) : List Char :=
  dropTrailing isBlank (cs.dropWhile isBlank)

/-- The style that a text names, if it names one. -/
def namedStyle? (cs : List Char) : Except Fault (Option Style) :=
  match wordsOf cs with
  | ["none"] => .ok (some {})
  | words => Style.withWords? {} words

/-- The name by which a tag is opened and closed. -/
def canonicalName (cs : List Char) : Except Fault String := do
  match ← namedStyle? cs with
  | some style => return style.name
  | none => return lowerCase (String.ofList (strip cs))

example : (canonicalName "b".toList).toOption = some "bold" := by decide +kernel
example : (canonicalName "on blue b".toList).toOption = some "bold on blue" := by decide +kernel
example : (canonicalName " Odd name ".toList).toOption = some "odd name" := by decide +kernel

end Walkthrough.Terminal
