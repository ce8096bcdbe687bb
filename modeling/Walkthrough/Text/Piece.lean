import Walkthrough.Text.Blank

/-!
# Pieces of texts

Where a text occurs in another, and how a text is cut into pieces: at a separator, at white space or
at the ends of lines. Occurrences do not overlap; they are found from the left, or from the right by
reading both texts backwards.

## Main definitions

* `Text.indexOf?`, `Text.lastIndexOf?`, `Text.occurrences` — where and how often a text occurs
* `Text.cutAt`, `Text.cutAtLast` — a text cut at a separator, from the left or from the right
* `Text.words`, `Text.linesOf` — a text cut at white space, or at the ends of lines
* `Text.around?`, `Text.aroundLast?` — the parts on the two sides of a separator
-/

namespace Walkthrough.Text

/-- The index of the first occurrence of a text; `i` is that of the first character. -/
def indexFrom? (sought : List Char) (i : Nat) : List Char → Option Nat
  | [] => if sought.isEmpty then some i else none
  | c :: rest =>
    if sought.isPrefixOf (c :: rest) then some i else indexFrom? sought (i + 1) rest

/-- The index of the first occurrence of a text in another. -/
def indexOf? (sought cs : List Char) : Option Nat := indexFrom? sought 0 cs

/-- The index of the last occurrence of a text in another. -/
def lastIndexOf? (sought cs : List Char) : Option Nat :=
  (indexOf? sought.reverse cs.reverse).map fun i => cs.length - i - sought.length

/-- Characters cut at a separator that is not empty. The first number tells how many characters of a
separator are still to be passed over, and `piece` is what has been read of a piece, backwards. -/
def cutFrom (separator : List Char) : Nat → List Char → List Char → List (List Char)
  | _, piece, [] => [piece.reverse]
  | skipped + 1, piece, _ :: rest => cutFrom separator skipped piece rest
  | 0, piece, c :: rest =>
    if separator.isPrefixOf (c :: rest) then
      piece.reverse :: cutFrom separator (separator.length - 1) [] rest
    else cutFrom separator 0 (c :: piece) rest

/-- The pieces of a text between occurrences of a separator that is not empty, found from the
left. -/
def cutAt (separator cs : List Char) : List (List Char) := cutFrom separator 0 [] cs

/-- The pieces of a text between occurrences of a separator that is not empty, found from the
right. -/
def cutAtLast (separator cs : List Char) : List (List Char) :=
  ((cutAt separator.reverse cs.reverse).map List.reverse).reverse

/-- How often a text occurs in another; an empty one stands around every character. -/
def occurrences (sought cs : List Char) : Nat :=
  if sought.isEmpty then cs.length + 1 else (cutAt sought cs).length - 1

/-- Characters cut at white space; `piece` is what has been read of a word, backwards. -/
def wordsFrom (piece : List Char) : List Char → List (List Char)
  | [] => if piece.isEmpty then [] else [piece.reverse]
  | c :: rest =>
    if isBlank c then
      if piece.isEmpty then wordsFrom [] rest else piece.reverse :: wordsFrom [] rest
    else wordsFrom (c :: piece) rest

/-- The words of a text. -/
def words (cs : List Char) : List (List Char) := wordsFrom [] cs

/-- Whether a character ends a line. -/
def endsLine (c : Char) : Bool :=
  let n := c.toNat
  (0x0A ≤ n && n ≤ 0x0D) || (0x1C ≤ n && n ≤ 0x1E) || n = 0x85 || n = 0x2028 || n = 0x2029

/-- Characters cut at the ends of lines, which are kept or not; `piece` is what has been read of a
line, backwards. -/
def linesFrom (kept : Bool) (piece : List Char) : List Char → List (List Char)
  | [] => if piece.isEmpty then [] else [piece.reverse]
  | '\r' :: '\n' :: rest =>
    (if kept then ('\n' :: '\r' :: piece).reverse else piece.reverse) :: linesFrom kept [] rest
  | c :: rest =>
    if endsLine c then
      (if kept then (c :: piece).reverse else piece.reverse) :: linesFrom kept [] rest
    else linesFrom kept (c :: piece) rest

/-- The lines of a text, with or without their ends. -/
def linesOf (kept : Bool) (cs : List Char) : List (List Char) := linesFrom kept [] cs

/-- The parts before and after the first occurrence of a text. -/
def around? (sought cs : List Char) : Option (List Char × List Char) :=
  (indexOf? sought cs).map fun i => (cs.take i, cs.drop (i + sought.length))

/-- The parts before and after the last occurrence of a text. -/
def aroundLast? (sought cs : List Char) : Option (List Char × List Char) :=
  (lastIndexOf? sought cs).map fun i => (cs.take i, cs.drop (i + sought.length))

/-- Characters with blanks in place of tabs, up to the next column that is a multiple of `width`;
`column` is that of the first. Without a width tabs are dropped. -/
def withoutTabs (width column : Nat) : List Char → List Char
  | [] => []
  | '\t' :: rest =>
    let blanks := if width = 0 then 0 else width - column % width
    List.replicate blanks ' ' ++ withoutTabs width (column + blanks) rest
  | c :: rest =>
    c :: withoutTabs width (if c = '\n' || c = '\r' then 0 else column + 1) rest

example : cutAt "aa".toList "aaab".toList = ["".toList, "ab".toList] := by decide +kernel
example : cutAtLast "aa".toList "baaa".toList = ["ba".toList, "".toList] := by decide +kernel
example : occurrences "".toList "ab".toList = 3 := by decide +kernel

end Walkthrough.Text
