import Walkthrough.Decimal.Dyadic
import Walkthrough.Terminal.Wrap

/-!
# Tables

A table has a title and columns under headings. A column is as wide as its widest line with a space
on each side, but no narrower than its least width. If the columns together are wider than the
terminal allows, the widest are narrowed first, down to the next widest, until they fit; text in a
narrowed column is broken into lines, and what still does not fit is cropped.

## Main definitions

* `Terminal.Column` — a column
* `Terminal.columnWidths` — the widths of columns, spaces included
* `Terminal.table` — the lines of a table
-/

namespace Walkthrough.Terminal

open Text

/-- Where the lines of a column are flush. -/
inductive Alignment
  | left
  | right
deriving DecidableEq, Repr

/-- A column with its heading and its cells from top to bottom. -/
structure Column where
  heading : List Char
  alignment : Alignment := .left
  leastWidth : Nat := 0
  cells : List (List Char) := []

/-- A run of the same character. -/
def run (n : Nat) (c : Char) : List Char := List.replicate n c

/-- Whether a character ends a line when the width of a text is measured. -/
def endsLine (c : Char) : Bool :=
  let n := c.toNat
  (0x0A ≤ n && n ≤ 0x0D) || (0x1C ≤ n && n ≤ 0x1E) || n = 0x85 || n = 0x2028 || n = 0x2029

/-- The cells of the widest line of a text. -/
def textWidth (cs : List Char) : Nat :=
  ((cs.splitOnP endsLine).map cellCount).foldl max 0

namespace Column

/-- The heading and the cells. -/
def texts (column : Column) : List (List Char) := column.heading :: column.cells

/-- The width of a column with `available` cells to take. -/
def width (column : Column) (available : Nat) : Nat :=
  max (min ((column.texts.map textWidth).foldl max 0 + 2) available)
    (if column.leastWidth = 0 then 0 else column.leastWidth + 2)

end Column

/-- A column that may be narrowed: whether it is, by how much at most, and its width. -/
structure Share where
  narrowed : Bool
  limit : Nat
  width : Nat

/-- Takes a total from the columns that are narrowed, in equal parts; `left` of them are still to
come. -/
def narrow (total left : Nat) : List Share → List Nat
  | [] => []
  | share :: rest =>
    if share.narrowed ∧ 0 < left then
      let part := min share.limit (Decimal.roundDiv total left)
      (share.width - part) :: narrow (total - part) (left - 1) rest
    else share.width :: narrow total left rest

/-- Takes a total from the columns that are narrowed and have a limit. -/
def narrowAll (total : Nat) (shares : List Share) : List Nat :=
  let shares := shares.map fun share =>
    { share with narrowed := share.narrowed && share.limit ≠ 0 }
  narrow total (shares.countP (·.narrowed)) shares

/-- The width of columns together. -/
def totalWidth (widths : List Nat) : Nat := widths.foldr (· + ·) 0

/-- Narrows the widest columns until all fit. The first argument bounds the number of rounds. -/
def collapse (available : Nat) : Nat → List Nat → List Nat
  | 0, widths => widths
  | fuel + 1, widths =>
    let excess := totalWidth widths - available
    if excess = 0 then widths
    else
      let widest := widths.foldl max 0
      let next := (widths.filter (· ≠ widest)).foldl max 0
      if widest = next then widths
      else
        collapse available fuel (narrowAll excess
          (widths.map fun w => ⟨w = widest, min excess (widest - next), w⟩))

/-- The widths of columns that may take `available` cells together. -/
def columnWidths (available : Nat) (columns : List Column) : List Nat :=
  let widths := columns.map (·.width available)
  if totalWidth widths ≤ available then widths
  else
    let collapsed := collapse available (totalWidth widths) widths
    let fitted :=
      if totalWidth collapsed ≤ available then collapsed
      else narrowAll (totalWidth collapsed - available) (collapsed.map fun w => ⟨true, w, w⟩)
    (columns.zip fitted).map fun (column, w) => column.width w

/-- A line made flush in a width. -/
def align (alignment : Alignment) (width : Nat) (line : List Char) : List Char :=
  match alignment with
  | .left =>
    let line := truncate width .ellipsis line
    line ++ run (width - cellCount line) ' '
  | .right =>
    let line := truncate width .ellipsis (dropTrailing isBlank line)
    run (width - cellCount line) ' ' ++ line

/-- A line in the middle of a width, an odd space going to the right. -/
def centre (width : Nat) (line : List Char) : List Char :=
  let space := width - cellCount line
  run (space / 2) ' ' ++ line ++ run (space - space / 2) ' '

/-- The lines of a cell. -/
def cellLines (alignment : Alignment) (width : Nat) (cs : List Char) : List (List Char) :=
  (wrap width .ellipsis cs).map (align alignment width)

/-- A rule across the columns. -/
def rule (left line divider right : Char) (widths : List Nat) : List Char :=
  left :: ([divider].intercalate (widths.map (run · line)) ++ [right])

/-- The parts of a line one behind the other, cropped if together they are wider than the width. -/
def cropParts (width : Nat) : List (List Char) → List Char
  | [] => []
  | part :: rest =>
    let used := cellCount part
    if used < width then part ++ cropParts (width - used) rest
    else setCells width part

/-- A line from its parts. -/
def joinParts (width : Nat) (parts : List (List Char)) : List Char :=
  if cellCount parts.flatten ≤ width then parts.flatten else cropParts width parts

/-- The parts of a line of a row: each cell has its text between two spaces. -/
def rowParts (edge divider : Char) (cells : List (List Char)) : List (List Char) :=
  let parts := cells.map fun cell => [[' '], cell, [' ']]
  [edge] :: (([[divider]].intercalate parts) ++ [[edge]])

/-- The lines of a row on a terminal of a width, given the lines and the width of each of its
cells. -/
def row (width : Nat) (edge divider : Char) (cells : List (List (List Char) × Nat)) :
    List (List Char) :=
  let height := (cells.map (·.1.length)).foldl max 1
  (List.range height).map fun i =>
    joinParts width (rowParts edge divider (cells.map fun (lines, width) =>
      (lines[i]?).getD (run width ' ')))

/-- The widths of the texts in columns, on a terminal of a width. -/
def textWidths (width : Nat) (columns : List Column) : List Nat :=
  (columnWidths (width - (columns.length + 1)) columns).map (· - 2)

/-- The lines of a table on a terminal of a width. -/
def table (width : Nat) (title : List Char) (columns : List Column) : List (List Char) :=
  let widths := columnWidths (width - (columns.length + 1)) columns
  let sized := columns.zip (textWidths width columns)
  let texts (pick : Column → List Char) :=
    sized.map fun (column, w) => (cellLines column.alignment w (pick column), w)
  let rows := (columns.map (·.cells.length)).foldl max 0
  let ruled (left line divider right : Char) := setCells width (rule left line divider right widths)
  setCells width (centre (totalWidth widths + columns.length + 1) title) ::
    ruled '┏' '━' '┳' '┓' ::
    (row width '┃' '┃' (texts (·.heading)) ++
      ruled '┡' '━' '╇' '┩' ::
      ((List.range rows).flatMap (fun i =>
        row width '│' '│' (texts fun column => (column.cells[i]?).getD [])) ++
        [ruled '└' '─' '┴' '┘']))

end Walkthrough.Terminal
