import Walkthrough.Terminal.CellWidth
import Walkthrough.Text.Blank

/-!
# Lines of a terminal

Text is broken into lines that fit the width of the terminal. A line is broken before a word that
does not fit any more. A word that fits no line is cut into pieces, or left whole to be cropped.
White space belongs to the word before it and stays on its line, except what reaches beyond the
width. A tab reaches up to the next multiple of eight cells.

## Main definitions

* `Terminal.expandTabs` — a text with spaces in place of its tabs
* `Terminal.words` — the words of a text, each with its white space
* `Terminal.setCells` — a text cut down to a number of cells
* `Terminal.wrapLine` — a text without line feeds, broken into lines
* `Terminal.wrap` — a text broken into lines
-/

namespace Walkthrough.Terminal

open Text

/-- How a word that fits no line is treated. -/
inductive Overflow
  /-- It is cut into pieces that fit. -/
  | fold
  /-- It is cropped, with an ellipsis at the end. -/
  | ellipsis
deriving DecidableEq, Repr

/-- The distance between the cells that tabs reach up to. -/
def tabSize : Nat := 8

/-- A text with spaces in place of its tabs; `used` cells have been taken before it. A tab takes at
least one cell. -/
def expandTabsFrom (used : Nat) : List Char → List Char
  | [] => []
  | c :: rest =>
    if c = '\t' then
      let spaces := tabSize - used % tabSize
      List.replicate spaces ' ' ++ expandTabsFrom (used + spaces) rest
    else c :: expandTabsFrom (used + cellWidth c) rest

/-- A text with spaces in place of its tabs. -/
def expandTabs (cs : List Char) : List Char := expandTabsFrom 0 cs

/-- The words of a text, each with the white space after it, the first also with that before it.
The first argument bounds the number of words. -/
def wordsWithin : Nat → List Char → List (List Char)
  | 0, _ => []
  | fuel + 1, cs =>
    let blanks := cs.takeWhile isBlank
    let afterBlanks := cs.dropWhile isBlank
    let letters := afterBlanks.takeWhile (!isBlank ·)
    let afterLetters := afterBlanks.dropWhile (!isBlank ·)
    if letters.isEmpty then []
    else
      (blanks ++ letters ++ afterLetters.takeWhile isBlank) ::
        wordsWithin fuel (afterLetters.dropWhile isBlank)

/-- The words of a text, each with its white space. A text of white space alone has none. -/
def words (cs : List Char) : List (List Char) := wordsWithin cs.length cs

/-- Cuts a text into pieces of at most `width` cells. The piece that is being filled, in reverse,
and its cells come first. -/
def chop (width : Nat) (piece : List Char) (used : Nat) : List Char → List (List Char)
  | [] => [piece.reverse]
  | c :: rest =>
    if used + cellWidth c ≤ width then chop width (c :: piece) (used + cellWidth c) rest
    else piece.reverse :: chop width [c] (cellWidth c) rest

/-- The line that is being filled, in front of others unless it is empty. -/
def finishLine (line : List Char) (rest : List (List Char)) : List (List Char) :=
  if line.isEmpty then rest else line :: rest

/-- Lays out words. The line that is being filled comes first, with the cells it takes. -/
def layOut (width : Nat) (overflow : Overflow) (line : List Char) (used : Nat) :
    List (List Char) → List (List Char)
  | [] => [line]
  | word :: rest =>
    let needed := cellCount (dropTrailing isBlank word)
    if used + needed ≤ width then
      layOut width overflow (line ++ word) (used + cellCount word) rest
    else if width < needed ∧ overflow = .fold then
      let cut := chop width [] 0 word
      let last := cut.getLastD []
      finishLine line (cut.dropLast ++ layOut width overflow last (cellCount last) rest)
    else finishLine line (layOut width overflow word (cellCount word) rest)

/-- Drops white space at the end of a line that reaches beyond the width. -/
def dropOverhang (width : Nat) (line : List Char) : List Char :=
  let blanks := line.length - (dropTrailing isBlank line).length
  line.take (line.length - min blanks (line.length - width))

/-- The beginning of a text that takes `total` cells, searched by halving between the lengths `low`
and `high`; if a wide character is cut in half, a space stands for it. Characters without a cell at
the end may be kept or lost. The first number bounds the steps. -/
def cutWithin (total : Nat) (cs : List Char) : Nat → Nat → Nat → List Char
  | 0, _, _ => cs
  | fuel + 1, low, high =>
    let middle := (low + high) / 2
    let front := cs.take (middle + 1)
    let used := cellCount front
    if used = total + 1 ∧ front.getLast?.map cellWidth = some 2 then front.dropLast ++ [' ']
    else if used = total then front
    else if total < used then cutWithin total cs fuel low middle
    else cutWithin total cs fuel middle high

/-- A text cut down to `total` cells if it takes more. -/
def setCells (total : Nat) (cs : List Char) : List Char :=
  if cellCount cs ≤ total then cs
  else if total = 0 then []
  else cutWithin total cs cs.length 0 cs.length

/-- Crops a line that is wider than the width. -/
def truncate (width : Nat) (overflow : Overflow) (line : List Char) : List Char :=
  if cellCount line ≤ width then line
  else
    match overflow with
    | .fold => setCells width line
    | .ellipsis => setCells (width - 1) line ++ ['…']

/-- Breaks a text without line feeds into lines. -/
def wrapLine (width : Nat) (overflow : Overflow) (cs : List Char) : List (List Char) :=
  let cs := expandTabs cs
  let lines := match words cs with
    | [] => [cs]
    | ws => layOut width overflow [] 0 ws
  lines.map (dropOverhang width)

/-- Breaks a text into lines. -/
def wrap (width : Nat) (overflow : Overflow) (cs : List Char) : List (List Char) :=
  (cs.splitOn '\n').flatMap (wrapLine width overflow)

/-- Whether a text stays on one line as it is. -/
def staysWhole (width : Nat) (overflow : Overflow) (cs : List Char) : Bool :=
  !cs.contains '\t' && (wrap width overflow cs).length = 1

end Walkthrough.Terminal
