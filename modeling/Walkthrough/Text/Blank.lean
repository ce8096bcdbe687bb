/-!
# White space

Two notions of white space are in use. A numeral may be surrounded by the characters that Unicode
gives the property `White_Space`; where text is cut into words, the four information separators
count as well.

## Main definitions

* `Text.isSpace` — the property `White_Space`
* `Text.isBlank` — what separates words
* `Text.trim` — a text without the white space at its two ends
-/

namespace Walkthrough.Text

/-- Tab to carriage return, the space, and the 19 characters beyond ASCII with the property
`White_Space`. -/
def isSpace (c : Char) : Bool :=
  let n := c.toNat
  (0x09 ≤ n && n ≤ 0x0D) || n = 0x20 || n = 0x85 || n = 0xA0 || n = 0x1680 ||
    (0x2000 ≤ n && n ≤ 0x200A) || n = 0x2028 || n = 0x2029 || n = 0x202F || n = 0x205F ||
    n = 0x3000

/-- White space, or one of the four information separators `U+001C` to `U+001F`. -/
def isBlank (c : Char) : Bool :=
  isSpace c || (0x1C ≤ c.toNat && c.toNat ≤ 0x1F)

/-- The characters without those that satisfy `p` at the end. -/
def dropTrailing (p : Char → Bool) (cs : List Char) : List Char :=
  (cs.reverse.dropWhile p).reverse

/-- The characters without the white space at both ends. -/
def trim (cs : List Char) : List Char :=
  dropTrailing isSpace (cs.dropWhile isSpace)

end Walkthrough.Text
