import Walkthrough.Terminal.Emoji
import Walkthrough.Terminal.Handler

/-!
# Markup

Text for the terminal may have tags in square brackets. A tag opens a style, or closes the
innermost open style of its name, or, without a name, the innermost open style. A bracket that
begins no tag is text. A backslash before a tag makes it text, and two backslashes before a tag
stand for one.

Where the terminal shows no styles all that remains of the tags is whether they match, and whether
their styles and handlers can be read.

## Main definitions

* `Terminal.Piece`, `Terminal.pieces` — a text cut into tags and what stands between
* `Terminal.StyledText`, `Terminal.readMarkup` — the text without its tags, and its styles
* `Terminal.StyledText.checkStyles` — whether the styles can be looked up
-/

namespace Walkthrough.Terminal

/-- A part of a marked-up text. -/
inductive Piece
  | plain (cs : List Char)
  /-- What stands between the brackets of a tag, and the position of the opening bracket. -/
  | tag (position : Nat) (body : List Char)
deriving DecidableEq, Repr

/-- Whether a tag may begin with a character. -/
def startsTag (c : Char) : Bool :=
  ('a' ≤ c && c ≤ 'z') || c == '#' || c == '/' || c == '@'

/-- The body of the tag that the characters begin with, and what follows the tag. -/
def tagAt? : List Char → Option (List Char × List Char)
  | '[' :: c :: rest =>
    if startsTag c then
      match rest.dropWhile fun d => d ≠ ']' ∧ d ≠ '[' with
      | ']' :: after => some (c :: rest.takeWhile fun d => d ≠ ']' ∧ d ≠ '[', after)
      | _ => none
    else none
  | _ => none

/-- A tag after backslashes: half of them remain, and an odd one makes the tag text. -/
def escapedTag (position escapes : Nat) (body : List Char) : List Piece :=
  let remaining := if escapes < 2 then [] else [Piece.plain (List.replicate (escapes / 2) '\\')]
  remaining ++
    [if escapes % 2 = 1 then .plain ('[' :: body ++ [']']) else .tag (position + escapes) body]

/-- Puts a piece of plain text in front, if there is any. -/
def withPlain (cs : List Char) (rest : List Piece) : List Piece :=
  if cs.isEmpty then rest else .plain cs :: rest

/-- Cuts a text into pieces; `before` holds the plain text since the last tag in reverse, and
`position` is that of the next character. The first argument bounds the number of characters. -/
def piecesFrom : Nat → List Char → Nat → List Char → List Piece
  | 0, before, _, cs => withPlain (before.reverse ++ cs) []
  | _ + 1, before, _, [] => withPlain before.reverse []
  | fuel + 1, before, position, c :: rest =>
    let cs := c :: rest
    let escapes := (cs.takeWhile (· = '\\')).length
    match tagAt? (cs.drop escapes) with
    | some (body, after) =>
      withPlain before.reverse (escapedTag position escapes body ++
        piecesFrom fuel [] (position + escapes + body.length + 2) after)
    | none =>
      if escapes = 0 then piecesFrom fuel (c :: before) (position + 1) rest
      else
        piecesFrom fuel (List.replicate escapes '\\' ++ before) (position + escapes)
          (cs.drop escapes)

/-- Cuts a text into tags and what stands between. -/
def pieces (cs : List Char) : List Piece := piecesFrom cs.length [] 0 cs

/-- Plain text as it is shown: a backslash before a bracket is dropped. -/
def unescape : List Char → List Char
  | '\\' :: '[' :: rest => '[' :: unescape rest
  | c :: rest => c :: unescape rest
  | [] => []

/-- Whether a character moves the cursor in a way that a line of text must not. -/
def isMotion (c : Char) : Bool :=
  let n := c.toNat
  n = 0x07 || n = 0x08 || n = 0x0B || n = 0x0C || n = 0x0D

/-- Plain text as it is shown. -/
def shown (cs : List Char) : List Char := (withEmoji (unescape cs)).filter (!isMotion ·)

/-- The name of a tag, and the parameters behind an equals sign. -/
def splitTag (body : List Char) : List Char × Option (List Char) :=
  (body.takeWhile (· ≠ '='),
    match body.dropWhile (· ≠ '=') with
    | [] => none
    | _ :: parameters => some parameters)

/-- A tag that is open: its canonical name, its parameters, and how much text stands before it. -/
structure OpenTag where
  name : String
  parameters : Option (List Char)
  start : Nat

/-- The style of a tag in words. -/
def OpenTag.style (tag : OpenTag) : List Char :=
  tag.name.toList ++
    (match tag.parameters with
    | none => []
    | some parameters => ' ' :: parameters)

/-- Whether a tag attaches a handler to its text and no style. -/
def OpenTag.isHandler (tag : OpenTag) : Bool := tag.name.startsWith "@"

/-- The text from one position to another, in a style. -/
structure Span where
  start : Nat
  stop : Nat
  style : List Char
deriving DecidableEq, Repr

/-- A text without its tags, and the styles of its parts. -/
structure StyledText where
  chars : List Char
  spans : List Span

/-- The innermost open tag of a name, and the others. -/
def takeTag? (name : String) : List OpenTag → Option (OpenTag × List OpenTag)
  | [] => none
  | tag :: outer =>
    if tag.name = name then some (tag, outer)
    else (takeTag? name outer).map fun (found, rest) => (found, tag :: rest)

/-- The tag that a closing tag closes, and the tags that are still open; what stands behind the
slash is the name. -/
def closedTag (position : Nat) (body name : List Char) (openTags : List OpenTag) :
    Except Fault (OpenTag × List OpenTag) :=
  if (strip name).isEmpty then
    match openTags with
    | tag :: outer => .ok (tag, outer)
    | [] => .error (.nothingToClose position)
  else do
    match takeTag? (← canonicalName (strip name)) openTags with
    | some found => return found
    | none => .error (.unmatchedTag (String.ofList ('[' :: body ++ [']'])) position)

/-- The span of a tag that is closed; a handler is read, and has no style. -/
def closingSpan (tag : OpenTag) (stop : Nat) : Except Fault (List Span) := do
  if tag.isHandler then
    match tag.parameters with
    | some parameters => checkHandler parameters
    | none => pure ()
    return []
  else return [⟨tag.start, stop, tag.style⟩]

/-- Puts pieces together behind the text in `done`, which is in reverse, given the open tags, the
innermost first. -/
def assemble (done : List Char) (spans : List Span) (openTags : List OpenTag) :
    List Piece → Except Fault StyledText
  | [] => .ok ⟨done.reverse, spans ++ openTags.map fun tag => ⟨tag.start, done.length, tag.style⟩⟩
  | .plain cs :: rest => assemble ((shown cs).reverse ++ done) spans openTags rest
  | .tag position body :: rest =>
    match splitTag body with
    | ('/' :: name, _) => do
      let (tag, openTags) ← closedTag position body name openTags
      let closed ← closingSpan tag done.length
      assemble done (spans ++ closed) openTags rest
    | (name, parameters) => do
      let tag : OpenTag := ⟨← canonicalName name, parameters, done.length⟩
      assemble done spans (tag :: openTags) rest

/-- Reads a marked-up text. -/
def readMarkup (markup : List Char) : Except Fault StyledText :=
  assemble [] [] [] (pieces markup)

/-- Looks up the styles of a text. A style that is unknown counts for nothing, but a colour must be
well-formed. A style without any text is only looked up if the text is all on one line as it
is. -/
def StyledText.checkStyles (t : StyledText) (onOneLine : Bool) : Except Fault Unit :=
  t.spans.forM fun span => do
    if span.start < span.stop || onOneLine then
      let _ ← namedStyle? span.style

end Walkthrough.Terminal
