import Walkthrough.Expression.Token
import Walkthrough.Text.CharacterName

/-!
# Texts in expressions

A text stands between quotes, with letters before them that tell whether it holds bytes and whether
its backslashes count. Adjacent texts are one. A backslash with `x`, `u` or `U` begins the code of a
character, and one with `N` its name.

## Main definitions

* `Expression.Quotation` — a text, without its quotes
* `Expression.quotationsProblem?` — what is wrong with adjacent texts
-/

namespace Walkthrough.Expression

/-- A text, without its quotes. -/
structure Quotation where
  isBytes : Bool
  /-- Whether backslashes stand for themselves. -/
  isRaw : Bool
  /-- Whether it holds expressions in braces. -/
  isTemplate : Bool
  chars : List Char
deriving DecidableEq, Repr

/-- The text that a token spells. -/
def Quotation.ofSpelling (cs : List Char) : Quotation :=
  let mark := (cs.takeWhile Char.isAlpha).map Char.toLower
  let quoted := cs.drop mark.length
  let q := quoted.headD '"'
  let width := if [q, q, q].isPrefixOf quoted ∧ 6 ≤ quoted.length then 3 else 1
  ⟨'b' ∈ mark, 'r' ∈ mark, 'f' ∈ mark, (quoted.drop width).take (quoted.length - 2 * width)⟩

/-- The number of positions that a character takes up: one beyond ASCII stands as its code. -/
def codeWidth (c : Char) : Nat := if c.toNat < 128 then 1 else 10

/-- The value of a hexadecimal digit. -/
def hexValue (c : Char) : Nat :=
  if c.isDigit then c.toNat - 0x30
  else if 'a' ≤ c then c.toNat - 0x61 + 10
  else c.toNat - 0x41 + 10

/-- The number of digits in the code behind a letter. -/
def codeDigits? : Char → Option Nat
  | 'x' => some 2
  | 'u' => some 4
  | 'U' => some 8
  | _ => none

/-- What is wrong with the code of `digits` hexadecimal digits at the position behind a letter. -/
def codeProblem? (position : Nat) (letter : Char) (digits : Nat) (cs : List Char) :
    Option Problem :=
  let code := (cs.take digits).takeWhile isHexDigit
  if code.length < digits then
    some (.brokenCode position (position + 1 + code.length) (.truncated letter digits))
  else if 0x10FFFF < code.foldl (fun n c => 16 * n + hexValue c) 0 then
    some (.brokenCode position (position + 1 + digits) .beyondCharacters)
  else none

/-- What is wrong with the name of a character at the position behind its letter: it stands in
braces, is not empty, and names a character. -/
def nameProblem? (position : Nat) (cs : List Char) : Option Problem :=
  match cs with
  | '\x7b' :: rest =>
    let name := rest.takeWhile (· ≠ '\x7d')
    let width := name.foldl (fun n c => n + codeWidth c) 0
    if name.length = rest.length then
      some (.brokenCode position (position + 2 + width) .malformedName)
    else if name.isEmpty then some (.brokenCode position (position + 2) .malformedName)
    else if Text.isCharacterName name then none
    else some (.brokenCode position (position + 3 + width) .unknownName)
  | _ => some (.brokenCode position (position + 1) .malformedName)

/-- What is wrong with the codes in a text from a position on. -/
def codesProblem? (position : Nat) : List Char → Option Problem
  | '\\' :: c :: cs =>
    let found :=
      match codeDigits? c with
      | some digits => codeProblem? position c digits cs
      | none => if c = 'N' then nameProblem? position cs else none
    match found with
    | some problem => some problem
    | none =>
      if c.toNat < 128 then codesProblem? (position + 2) cs
      else codesProblem? (position + 6 + codeWidth c) cs
  | c :: cs => codesProblem? (position + codeWidth c) cs
  | [] => none

/-- What is wrong with the codes in bytes from a position on. -/
def bytesProblem? (position : Nat) : List Char → Option Problem
  | '\\' :: c :: cs =>
    if c = 'x' ∧ ((cs.take 2).takeWhile isHexDigit).length < 2 then
      some (.brokenByte position)
    else bytesProblem? (position + 2) cs
  | _ :: cs => bytesProblem? (position + 1) cs
  | [] => none

/-- What is wrong with a text that is no template. -/
def Quotation.problem? (t : Quotation) : Option Problem :=
  if t.isTemplate then none
  else if t.isBytes && t.chars.any (128 ≤ ·.toNat) then some .bytesBeyondAscii
  else if t.isRaw then none
  else if t.isBytes then bytesProblem? 0 t.chars
  else codesProblem? 0 t.chars

/-- What is wrong with adjacent texts, given what is wrong with a template and whether the text
before holds bytes: one of them, or that not all are bytes or none is. -/
def quotationsProblem? (template? : Quotation → Option Problem) (isBytes : Option Bool) :
    List Quotation → Option Problem
  | [] => none
  | t :: rest =>
    match t.problem? with
    | some problem => some problem
    | none =>
      if isBytes.any (· ≠ t.isBytes) then some .mixedTexts
      else
        match if t.isTemplate then template? t else none with
        | some problem => some problem
        | none => quotationsProblem? template? (some t.isBytes) rest

end Walkthrough.Expression
