import Walkthrough.Terminal.EmojiTable
import Walkthrough.Terminal.Style

/-!
# Emoji by name

A name between two colons, without white space, stands for an emoji. Capital letters do not count,
and behind a hyphen the name may tell whether the emoji is to look like a picture or like text.
What is no name stays as it is, the second colon included.

## Main definitions

* `Terminal.emoji?` — the emoji of a name
* `Terminal.withEmoji` — a text with its emoji
-/

namespace Walkthrough.Terminal

/-- The emoji of a name in lower case. -/
def emoji? (name : String) : Option (List Char) :=
  (wordsOf emojiTable.toList).findSome? fun entry =>
    if (name ++ "=").toList.isPrefixOf entry.toList then some (entry.toList.drop (name.length + 1))
    else none

/-- A name without the wish for a picture or for text, and the character that expresses it. -/
def splitVariant (name : List Char) : List Char × List Char :=
  if "-emoji".toList.isSuffixOf name then (name.take (name.length - 6), ['\uFE0F'])
  else if "-text".toList.isSuffixOf name then (name.take (name.length - 5), ['\uFE0E'])
  else (name, [])

/-- What stands between two colons, behind the first, and what follows the second. -/
def betweenColons? (cs : List Char) : Option (List Char × List Char) :=
  let name := cs.takeWhile fun c => c ≠ ':' ∧ ¬ Text.isBlank c
  match cs.drop name.length with
  | ':' :: after => some (name, after)
  | _ => none

/-- A name between colons, as it is shown. -/
def namedEmoji (name : List Char) : List Char :=
  let (plain, variant) := splitVariant name
  match emoji? (Text.lowerCase (String.ofList plain)) with
  | some emoji => emoji ++ variant
  | none => ':' :: name ++ [':']

/-- A text with emoji in place of their names; the number bounds that of the characters. -/
def withEmojiFrom : Nat → List Char → List Char
  | fuel + 1, ':' :: cs =>
    match betweenColons? cs with
    | some (name, after) => namedEmoji name ++ withEmojiFrom fuel after
    | none => ':' :: withEmojiFrom fuel cs
  | fuel + 1, c :: cs => c :: withEmojiFrom fuel cs
  | _, cs => cs

/-- A text with emoji in place of their names. -/
def withEmoji (cs : List Char) : List Char := withEmojiFrom cs.length cs

end Walkthrough.Terminal
