import Walkthrough.Expression.Numeral
import Walkthrough.Text.Letter
import Walkthrough.Text.Word

/-!
# Tokens

An expression is cut into names, numerals, texts in quotes, symbols and line ends. Inside brackets
line ends do not count, and outside of them the depth to which a line is indented does. The
cutting goes on up to the end or to the first problem; a grammar that reads the tokens one by one
meets the problem only when it gets that far.

## Main definitions

* `Expression.Token` — a token, with its line and the number of brackets open behind it
* `Expression.Ending` — how the cutting ends
* `Expression.Source`, `Expression.tokenize` — the tokens of a text and their end
-/

namespace Walkthrough.Expression

/-- The sorts of tokens. Words with a fixed role are symbols. -/
inductive TokenKind
  | name
  | number
  | text
  | symbol
  | newline
  | indent
  | dedent
  | finish
deriving DecidableEq, Repr

/-- A token, its line, and the number of brackets that are open behind it. -/
structure Token where
  kind : TokenKind
  spelling : String
  line : Nat
  level : Nat
deriving DecidableEq, Repr

/-- The spelling of a token with plain letters, which is what a name is compared by. -/
def Token.plainSpelling (t : Token) : String := t.spelling.map Text.plainLetter

/-- Whether the character behind a token decides where it ends: not so for a text, unless it is
empty, and for the longest symbols. -/
def Token.isOpenEnded (t : Token) : Bool :=
  match t.kind with
  | .text => (t.spelling.toList.dropWhile Char.isAlpha).length = 2
  | .symbol => t.spelling.length < 3 || t.spelling.toList.any Char.isAlpha
  | _ => true

/-- How the tokens end. -/
structure Ending where
  /-- What is wrong behind the last token, if anything is. -/
  problem : Option Problem
  /-- Whether the problem is told without its place being read. -/
  isLoud : Bool
  /-- The innermost open bracket and its line. -/
  bracket : Option (Char × Nat)
  /-- Whether the end of the text is noticed when the last token is read. -/
  isForeseen : Bool

/-- The tokens of a text, and their end. -/
structure Source where
  tokens : Array Token
  ending : Ending

/-- Where in a text the next token is looked for. -/
structure Place where
  line : Nat
  /-- The open brackets and their lines, the innermost first. -/
  brackets : List (Char × Nat)
  /-- The widths of the indentations around the line, the innermost first, counted in two ways. -/
  indents : List (Nat × Nat)
  isLineStart : Bool
  /-- Whether nothing but a comment stands on the line. -/
  isBlankLine : Bool
  /-- Whether the end of the text was noticed. -/
  isEndSeen : Bool

namespace Place

/-- The beginning of a text. -/
def start : Place := ⟨1, [], [], true, false, false⟩

/-- A token that ends at a place. -/
def token (p : Place) (kind : TokenKind) (spelling : List Char) : Token :=
  ⟨kind, String.ofList spelling, p.line, p.brackets.length⟩

/-- An end with a problem that is told at once. -/
def loud (p : Place) (problem : Problem) : Ending :=
  ⟨some problem, true, p.brackets.head?, p.isEndSeen⟩

/-- An end with a problem that is told where it is read. -/
def quiet (p : Place) (problem : Problem) : Ending :=
  ⟨some problem, false, p.brackets.head?, p.isEndSeen⟩

/-- The end of the text, where it should go on: the innermost open bracket is to blame. -/
def cutShort (p : Place) : Ending :=
  p.quiet (match p.brackets with
    | (opening, _) :: _ => .neverClosed opening
    | [] => .unexpectedEnd)

end Place

/-- The words with a fixed role. -/
def keywords : List String :=
  ["False", "None", "True", "and", "as", "assert", "async", "await", "break", "class", "continue",
   "def", "del", "elif", "else", "except", "finally", "for", "from", "global", "if", "import",
   "in", "is", "lambda", "nonlocal", "not", "or", "pass", "raise", "return", "try", "while",
   "with", "yield"]

/-- The symbols of three characters and of two. -/
def longSymbols : List String :=
  ["**=", "//=", "<<=", ">>=", "!=", "%=", "&=", "**", "*=", "+=", "-=", "->", "//", "/=", ":=",
   "<<", "<=", "<>", "==", ">=", ">>", "@=", "^=", "|="]

/-- What may stand before the quotes of a text, in lower case. -/
def textMarks : List String := ["b", "r", "u", "f", "br", "rb", "fr", "rf"]

/-- The letters before the quotes that the characters begin with, if a text begins there. -/
def textMark? (cs : List Char) : Option (List Char) :=
  let letters := cs.takeWhile Char.isAlpha
  match cs.drop letters.length with
  | q :: _ =>
    if (q = '"' ∨ q = '\'') ∧ String.ofList (letters.map Char.toLower) ∈ textMarks then
      some letters
    else none
  | [] => none

/-- The first character of a name that does not belong there. -/
def strayInName? : List Char → Option Char
  | [] => none
  | c :: cs =>
    if Text.startsIdentifier c then cs.find? (!Text.continuesIdentifier ·) else some c

/-- A name, or what is wrong with it. -/
def nameKind (cs : List Char) : Except Problem TokenKind :=
  if cs.any (128 ≤ ·.toNat) then
    match strayInName? cs with
    | some c => .error (if Text.isPrintable c then .strayCharacter c else .invisibleCharacter c)
    | none => .ok .name
  else .ok (if String.ofList cs ∈ keywords then .symbol else .name)

/-- What follows a text in single or double quotes, behind the first quote. Where it has no end,
the line ends that it spans are counted. -/
def afterText (q : Char) (lines : Nat) : List Char → Except Nat (List Char)
  | '\\' :: c :: cs => afterText q (if c = '\n' then lines + 1 else lines) cs
  | c :: cs =>
    if c = q then .ok cs else if c = '\n' then .error lines else afterText q lines cs
  | [] => .error lines

/-- What follows a text in three quotes, behind the first three. Where it has no end, the line ends
that it spans are counted. -/
def afterLongText (q : Char) (lines : Nat) : List Char → Except Nat (List Char)
  | '\\' :: c :: cs => afterLongText q (if c = '\n' then lines + 1 else lines) cs
  | c :: cs =>
    if c = q ∧ [q, q].isPrefixOf cs then .ok (cs.drop 2)
    else afterLongText q (if c = '\n' then lines + 1 else lines) cs
  | [] => .error lines

/-- What follows a text, at its first quote. -/
def afterQuotes (line : Nat) (q : Char) (cs : List Char) : Except Problem (List Char) :=
  if [q, q].isPrefixOf cs then
    (afterLongText q 0 (cs.drop 2)).mapError fun lines => .unterminated 3 (line + lines)
  else (afterText q 0 cs).mapError fun lines => .unterminated 1 (line + lines)

/-- A line's indentation, counted with wide and with narrow tabs, the number of line ends in it,
and what follows. A line that is continued before its first token is as wide as before the first
backslash. -/
def indentation (wide narrow held lines : Nat) :
    List Char → Except Problem (Nat × Nat × Nat × List Char)
  | ' ' :: cs => indentation (wide + 1) (narrow + 1) held lines cs
  | '\t' :: cs => indentation ((wide / 8 + 1) * 8) (narrow + 1) held lines cs
  | '\x0c' :: cs => indentation 0 0 held lines cs
  | ['\\', '\n'] => .error .unexpectedEnd
  | '\\' :: '\n' :: cs =>
    indentation wide narrow (if held = 0 then wide else held) (lines + 1) cs
  | '\\' :: _ => .error .brokenContinuation
  | cs => .ok (if held = 0 then wide else held, if held = 0 then narrow else held, lines, cs)

/-- The indentations around a line, and the tokens for the change, given its width. -/
def Place.indented (p : Place) (wide narrow : Nat) :
    Except Problem (List (Nat × Nat) × List Token) :=
  let (outerWide, outerNarrow) := p.indents.headD (0, 0)
  if wide = outerWide then
    if narrow = outerNarrow then .ok (p.indents, []) else .error .unclearIndent
  else if outerWide < wide then
    if outerNarrow < narrow then .ok ((wide, narrow) :: p.indents, [p.token .indent []])
    else .error .unclearIndent
  else
    let remaining := p.indents.dropWhile (wide < ·.1)
    if remaining.headD (0, 0) = (wide, narrow) then
      .ok (remaining,
        List.replicate (p.indents.length - remaining.length) (p.token .dedent []))
    else .error .unclearIndent

/-- The bracket that a closing bracket belongs to. -/
def openingOf : Char → Option Char
  | ')' => some '('
  | ']' => some '['
  | '}' => some '{'
  | _ => none

/-- The brackets that are open behind a symbol. -/
def Place.afterSymbol (p : Place) (c : Char) : Except Problem (List (Char × Nat)) :=
  if c = '(' ∨ c = '[' ∨ c = '{' then
    if p.brackets.length < 200 then .ok ((c, p.line) :: p.brackets) else .error .tooManyBrackets
  else match openingOf c, p.brackets with
    | none, brackets => if Text.isPrintable c then .ok brackets else .error (.invisibleCharacter c)
    | some _, [] => .error (.unmatched c)
    | some wanted, (opening, line) :: outer =>
      if opening = wanted then .ok outer
      else .error (.mismatched c opening (if line = p.line then none else some line))

/-- The token that the characters begin with, and what follows it, where neither blanks nor a line
end nor a backslash come first. -/
def Place.next (p : Place) (c : Char) (rest : List Char) :
    Except Problem (Token × List (Char × Nat) × List Char) :=
  let cs := c :: rest
  let upTo (kind : TokenKind) (after : List Char) : Token × List (Char × Nat) × List Char :=
    (p.token kind (cs.take (cs.length - after.length)), p.brackets, after)
  match textMark? cs with
  | some mark =>
    (match cs.drop mark.length with
    | q :: after => (afterQuotes p.line q after).map (upTo .text)
    | [] => .ok (upTo .text []))
  | none =>
    if mayStartName c then do
      let kind ← nameKind (cs.takeWhile mayContinueName)
      return upTo kind (cs.dropWhile mayContinueName)
    else if c = '.' ∧ rest.head?.any Char.isDigit then (afterFraction rest).map (upTo .number)
    else if c.isDigit then (afterNumeral c rest).map (upTo .number)
    else if c = '"' ∨ c = '\'' then (afterQuotes p.line c rest).map (upTo .text)
    else if "...".toList.isPrefixOf cs then .ok (upTo .symbol (cs.drop 3))
    else match longSymbols.find? (·.toList.isPrefixOf cs) with
      | some symbol => .ok (upTo .symbol (cs.drop symbol.length))
      | none => do
        let brackets ← p.afterSymbol c
        return ({ p with brackets }.token .symbol [c], brackets, rest)

/-- The tokens from a place on; the first argument bounds their number and that of the lines. -/
def tokensFrom : Nat → Place → List Char → List Token × Ending
  | 0, p, _ => ([], p.cutShort)
  | fuel + 1, p, cs =>
    if p.isLineStart then
      match indentation 0 0 0 0 cs with
      | .error .unexpectedEnd => ([], p.cutShort)
      | .error problem => ([], p.quiet problem)
      | .ok (wide, narrow, lines, rest) =>
        let isBlankLine := rest.head? = some '#' ∨ rest.head? = some '\n'
        let here := { p with line := p.line + lines, isLineStart := false, isBlankLine }
        if isBlankLine ∨ p.brackets ≠ [] then tokensFrom fuel here rest
        else match here.indented wide narrow with
          | .error problem => ([], here.quiet problem)
          | .ok (indents, tokens) =>
            let (more, ending) := tokensFrom fuel { here with indents } rest
            (tokens ++ more, ending)
    else
      let cs := cs.dropWhile fun c => c = ' ' ∨ c = '\t' ∨ c = '\x0c'
      match (if cs.head? = some '#' then cs.dropWhile (· ≠ '\n') else cs) with
      | [] =>
        if p.brackets = [] then ([p.token .finish []], ⟨none, false, none, true⟩)
        else ([], p.cutShort)
      | '\n' :: rest =>
        let below := { p with line := p.line + 1, isLineStart := true }
        let (more, ending) := tokensFrom fuel below rest
        if p.isBlankLine ∨ p.brackets ≠ [] then (more, ending)
        else (p.token .newline [] :: more, ending)
      | ['\\', '\n'] => ([], p.cutShort)
      | '\\' :: '\n' :: rest => tokensFrom fuel { p with line := p.line + 1 } rest
      | '\\' :: _ => ([], p.quiet .brokenContinuation)
      | c :: rest =>
        match p.next c rest with
        | .error problem => ([], p.loud problem)
        | .ok (token, brackets, after) =>
          let line := p.line + (token.spelling.toList.filter (· = '\n')).length
          let isEndSeen := after.isEmpty && token.isOpenEnded
          let (more, ending) := tokensFrom fuel { p with line, brackets, isEndSeen } after
          (token :: more, ending)

/-- Every line end as one character. -/
def unifyLineEnds : List Char → List Char
  | '\r' :: '\n' :: cs => '\n' :: unifyLineEnds cs
  | '\r' :: cs => '\n' :: unifyLineEnds cs
  | c :: cs => c :: unifyLineEnds cs
  | [] => []

/-- The tokens of a text. -/
def tokenize (cs : List Char) : Source :=
  let cs := unifyLineEnds cs
  let (tokens, ending) := tokensFrom (2 * cs.length + 2) .start cs
  ⟨tokens.toArray, ending⟩

end Walkthrough.Expression
