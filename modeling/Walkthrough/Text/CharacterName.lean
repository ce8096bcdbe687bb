import Walkthrough.Text.CharacterNameTable

/-!
# The names of characters

A character has a name, and may have others. Capital letters and small ones count alike in a name.
Two families of characters are too large for a table, and theirs are spelled in capitals only: a
Chinese character is named by its code, and a Korean syllable by the sounds that it is made of.

## Main definitions

* `Text.tabulatedNames` — the names that stand in the table
* `Text.isCharacterName` — whether a text is the name of a character
-/

namespace Walkthrough.Text

/-! ### Names in the table -/

/-- How far the table has been read. Names are spelled in reverse here, because it is their endings
that change from one to the next. -/
structure NameReading where
  /-- The names so far. -/
  names : List (List Char) := []
  /-- What has been spelled of the next name. -/
  name : List Char := []
  /-- Whether that is a beginning which the next name shares with the one before it. -/
  isShared : Bool := true

/-- Reads one character of the table. -/
def NameReading.next (r : NameReading) (c : Char) : NameReading :=
  if c.isWhitespace then r
  else if c.isLower then
    { names := if r.isShared then r.names else r.name :: r.names,
      name := r.name.drop (c.toNat - 'a'.toNat),
      isShared := true }
  else { r with name := (if c = '_' then ' ' else c) :: r.name, isShared := false }

/-- The names that a table spells, each in reverse, the last first. -/
def spelledNames (table : List Char) : List (List Char) := (table.foldl NameReading.next {}).names

/-- The names of characters that stand in the table, each in reverse. -/
def tabulatedNames (_ : Unit) : List (List Char) := spelledNames characterNameTable.toList

example : spelledNames "LETTER_AbBaET\n  cTAa".toList =
    ["LETTER BTA", "LETTER BET", "LETTER B", "LETTER A"].map (·.toList.reverse) := by
  decide +kernel

/-! ### Chinese characters -/

/-- The codes of the Chinese characters that are named by their codes, as ranges. -/
def ideographs : List (Nat × Nat) :=
  [(0x3400, 0x4DBF), (0x4E00, 0x9FFF), (0x20000, 0x2A6DF), (0x2A700, 0x2B738), (0x2B740, 0x2B81D),
   (0x2B820, 0x2CEA1), (0x2CEB0, 0x2EBE0), (0x30000, 0x3134A)]

/-- Whether a text is the code of a Chinese character, in four or five hexadecimal digits. -/
def isIdeographCode (cs : List Char) : Bool :=
  let value (c : Char) : Nat := if c.isDigit then c.toNat - 0x30 else c.toNat - 0x41 + 10
  let code := cs.foldl (fun n c => 16 * n + value c) 0
  (cs.length = 4 || cs.length = 5) && cs.all (fun c => c.isDigit || 'A' ≤ c && c ≤ 'F') &&
    ideographs.any fun (first, last) => first ≤ code && code ≤ last

/-! ### Korean syllables -/

/-- The sounds that a Korean syllable can begin with. -/
def leadingSounds : List String :=
  ["G", "GG", "N", "D", "DD", "R", "M", "B", "BB", "S", "SS", "", "J", "JJ", "C", "K", "T", "P",
   "H"]

/-- The vowels of Korean syllables. -/
def vowelSounds : List String :=
  ["A", "AE", "YA", "YAE", "EO", "E", "YEO", "YE", "O", "WA", "WAE", "OE", "YO", "U", "WEO", "WE",
   "WI", "YU", "EU", "YI", "I"]

/-- The sounds that a Korean syllable can end with. -/
def trailingSounds : List String :=
  ["", "G", "GG", "GS", "N", "NJ", "NH", "D", "L", "LG", "LM", "LB", "LS", "LT", "LP", "LH", "M",
   "B", "BS", "S", "SS", "NG", "J", "C", "K", "T", "P", "H"]

/-- What follows the longest of the sounds that a text begins with. -/
def afterSound? (sounds : List String) (cs : List Char) : Option (List Char) :=
  let lengths := (sounds.filter (·.toList.isPrefixOf cs)).map String.length
  lengths.max?.map (cs.drop ·)

/-- Whether a text spells the sounds of a Korean syllable. -/
def isSyllable (cs : List Char) : Bool :=
  (afterSound? leadingSounds cs).bind (afterSound? vowelSounds) |>.bind (afterSound? trailingSounds)
    |>.any List.isEmpty

/-! ### All characters -/

/-- Whether a text is the name of a character. -/
def isCharacterName (name : List Char) : Bool :=
  let syllable := "HANGUL SYLLABLE ".toList
  let ideograph := "CJK UNIFIED IDEOGRAPH-".toList
  if syllable.isPrefixOf name then isSyllable (name.drop syllable.length)
  else if ideograph.isPrefixOf name then isIdeographCode (name.drop ideograph.length)
  else (tabulatedNames ()).contains (name.map Char.toUpper).reverse

end Walkthrough.Text
