import Walkthrough.Text.Printable

/-!
# Quoted text

Text inside a displayed value stands between quotes. Single quotes are used unless the text has a
single quote and no double one. Inside, the quote in use and the backslash are written after a
backslash, line feed, carriage return and tab by their letters, and any other unprintable character
by its code point in two, four or eight hexadecimal digits.

## Main definitions

* `Text.quoteFor` — the quote that a text takes
* `Text.escape` — how one character is written inside quotes
* `Text.quote` — a text between quotes
-/

namespace Walkthrough.Text

/-- A hexadecimal digit, in lower case. -/
def hexDigit (d : Nat) : Char :=
  if d < 10 then Char.ofNat (0x30 + d) else Char.ofNat (0x61 + (d - 10))

/-- The last `width` hexadecimal digits of a number. -/
def hex : Nat → Nat → List Char
  | 0, _ => []
  | width + 1, n => hex width (n / 16) ++ [hexDigit (n % 16)]

/-- The quote a text takes: a double quote for a text with a single quote and no double one. -/
def quoteFor (cs : List Char) : Char :=
  if '\'' ∈ cs ∧ '"' ∉ cs then '"' else '\''

/-- One character as it stands between the quotes `q`. -/
def escape (q c : Char) : List Char :=
  if c = q ∨ c = '\\' then ['\\', c]
  else if c = '\n' then ['\\', 'n']
  else if c = '\r' then ['\\', 'r']
  else if c = '\t' then ['\\', 't']
  else if isPrintable c then [c]
  else if c.toNat < 0x100 then '\\' :: 'x' :: hex 2 c.toNat
  else if c.toNat < 0x10000 then '\\' :: 'u' :: hex 4 c.toNat
  else '\\' :: 'U' :: hex 8 c.toNat

/-- The characters of a quoted text, quotes included. -/
def quoteChars (cs : List Char) : List Char :=
  let q := quoteFor cs
  q :: (cs.flatMap (escape q) ++ [q])

/-- A text between quotes. -/
def quote (s : String) : String :=
  String.ofList (quoteChars s.toList)

@[simp]
theorem length_hex (width n : Nat) : (hex width n).length = width := by
  induction width generalizing n with
  | zero => rfl
  | succ width ih => simp [hex, ih]

example : quote "it's" = "\"it's\"" := by decide
example : quote "\t\"'" = "'\\t\"\\''" := by decide
example : quote "\u00a0\u200b" = "'\\xa0\\u200b'" := by decide

end Walkthrough.Text
