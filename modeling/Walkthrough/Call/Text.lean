import Walkthrough.Call.Number
import Walkthrough.Format.Percent
import Walkthrough.Text.Case
import Walkthrough.Text.Numeric
import Walkthrough.Text.Piece

/-!
# Operations of texts

Texts are put into another case, searched, cut, joined, filled up, translated and written as bytes;
and they are templates for other values.

## Main definitions

* `Text.property?` — what can be told of a text
* `Text.recased?` — a text in another case
* `Action.ofText` — an operation of a text
* `Action.translationTable` — a table for translating texts
-/

namespace Walkthrough.Text

/-- What can be told of a text, by the name of the operation. -/
def property? (name : String) (t : String) : Option Bool :=
  let cs := t.toList
  let every (p : Char → Bool) := !cs.isEmpty && cs.all p
  match name with
  | "isascii" => some (cs.all (·.toNat < 0x80))
  | "islower" => some (isLowerCase t)
  | "isupper" => some (isUpperCase t)
  | "istitle" => some (isTitleCase t)
  | "isspace" => some (every isBlank)
  | "isdecimal" => some (every isDecimal)
  | "isdigit" => some (every isDigit)
  | "isnumeric" => some (every isNumeric)
  | "isalpha" => some (every isAlphabetic)
  | "isalnum" => some (every isAlphanumeric)
  | "isidentifier" => some (isIdentifier t)
  | "isprintable" => some (cs.all isPrintable)
  | _ => none

/-- A text in another case, by the name of the operation. -/
def recased? (name : String) (t : String) : Option String :=
  match name with
  | "upper" => some (upperCase t)
  | "lower" => some (lowerCase t)
  | "title" => some (titleCase t)
  | "capitalize" => some (capitalized t)
  | "swapcase" => some (swapCase t)
  | "casefold" => some (foldCase t)
  | _ => none

/-- A number with zeros between its sign and its digits, up to a width. -/
def zeroFilled (width : Nat) (cs : List Char) : List Char :=
  let zeros := List.replicate (width - cs.length) '0'
  match cs with
  | c :: rest => if c = '+' || c = '-' then c :: (zeros ++ rest) else zeros ++ cs
  | [] => zeros

/-- A text in the middle of a width; the odd blank is on the left in an odd width. -/
def centred (width : Nat) (cs : List Char) : List Char :=
  let missing := width - cs.length
  let before := missing / 2 + (if missing % 2 = 1 && width % 2 = 1 then 1 else 0)
  List.replicate before ' ' ++ cs ++ List.replicate (missing - before) ' '

/-- A text without characters at its beginning, at its end, or both. -/
def stripped (atStart atEnd : Bool) (p : Char → Bool) (cs : List Char) : List Char :=
  let cs := if atStart then cs.dropWhile p else cs
  if atEnd then dropTrailing p cs else cs

example : centred 5 "ab".toList = "  ab ".toList := by decide
example : zeroFilled 4 "-5".toList = "-005".toList := by decide

end Walkthrough.Text

namespace Walkthrough.Action

open Text

/-- A text by its characters. -/
def textFrom (cs : List Char) : Value := .text (String.ofList cs)

/-- A list of texts. -/
def texts (pieces : List (List Char)) : Action Value := list (pieces.map textFrom)

/-- What is sought, which must be a text. -/
def sought (v : Value) : Action (List Char) :=
  match v with
  | .text t => pure t.toList
  | _ => wrongKind v .soughtNotText

/-- What separates pieces: a text that is not empty, or nothing for white space. -/
def separator (v : Value) : Action (Option (List Char)) :=
  match v with
  | .null => pure none
  | .text t => if t = "" then misuse .emptySeparator else pure (some t.toList)
  | _ => wrongKind v .separatorNotText

/-- The pieces of a text. -/
def split (fromLeft : Bool) (cs : List Char) (args : List Value) : Action Value := do
  let sep ← match args with
    | [v] => separator v
    | _ => pure none
  match sep with
  | none => texts (words cs)
  | some sep => texts (if fromLeft then cutAt sep cs else cutAtLast sep cs)

/-- The parts of a text on the two sides of a separator, and the separator. -/
def partition (fromLeft : Bool) (cs : List Char) (v : Value) : Action Value := do
  let sep ← sought v
  if sep.isEmpty then misuse .emptySeparator
  else
    let parts := match if fromLeft then around? sep cs else aroundLast? sep cs with
      | some (before, after) => [before, sep, after]
      | none => if fromLeft then [cs, [], []] else [[], [], cs]
    tuple (parts.map textFrom)

/-- Where a text occurs first or last; if it does not, that is told by a number or as a fault. -/
def find (fromLeft mustBe : Bool) (cs : List Char) (v : Value) : Action Value := do
  let sub ← sought v
  match if fromLeft then indexOf? sub cs else lastIndexOf? sub cs with
  | some i => return .int i
  | none => if mustBe then misuse .absentText else return .int (-1)

/-- A text without some characters at its ends. -/
def strip (name : String) (atStart atEnd : Bool) (cs : List Char) (args : List Value) :
    Action Value :=
  match args with
  | [] | [.null] => return textFrom (stripped atStart atEnd isBlank cs)
  | [.text t] => return textFrom (stripped atStart atEnd (· ∈ t.toList) cs)
  | _ => misuse (.stripNotText name)

/-- Whether a text begins or ends with another. -/
def hasAffix (atStart : Bool) (cs affix : List Char) : Bool :=
  if atStart then affix.isPrefixOf cs else affix.isSuffixOf cs

/-- Whether a text begins or ends with one of several, which must be texts up to that one. -/
def hasOneOf (name : String) (atStart : Bool) (cs : List Char) : List Value → Action Bool
  | [] => pure false
  | .text t :: rest =>
    if hasAffix atStart cs t.toList then pure true else hasOneOf name atStart cs rest
  | v :: _ => wrongKind v (.affixesNotText name)

/-- Whether a text begins or ends with another, or with one of a tuple. -/
def affixed (name : String) (atStart : Bool) (cs : List Char) (v : Value) : Action Value := do
  match v with
  | .text t => return .bool (hasAffix atStart cs t.toList)
  | _ =>
    match ← read fun s => .ok (s.cell? v) with
    | some (.tuple items) => return .bool (← hasOneOf name atStart cs items)
    | _ => wrongKind v (.affixNotText name)

/-- A text without another at its beginning or its end. -/
def withoutAffix (name : String) (atStart : Bool) (cs : List Char) (v : Value) : Action Value :=
  match v with
  | .text t =>
    let affix := t.toList
    if !hasAffix atStart cs affix then return textFrom cs
    else if atStart then return textFrom (cs.drop affix.length)
    else return textFrom (cs.take (cs.length - affix.length))
  | _ => wrongKind v (.textNeeded name)

/-- A text in a width. -/
def inWidth (fill : Nat → List Char → List Char) (cs : List Char) (v : Value) : Action Value := do
  let width ← word .index v
  checkLength width.toNat
  return textFrom (fill width.toNat cs)

/-- The texts among elements, with a text between them. -/
def joinFrom (sep : String) (i : Nat) : List Value → Action (List String)
  | [] => pure []
  | .text t :: rest => do
    return (if i = 0 then t else sep ++ t) :: (← joinFrom sep (i + 1) rest)
  | v :: _ => do throw (.notText i (← kindOf v))

/-- Elements with a text between them. -/
def join (sep : String) (v : Value) : Action Value := do
  let items ← tryCatch (elements v) fun f =>
    match f with
    | .notIterable _ => misuse .notJoinable
    | _ => throw f
  return .text (String.join (← joinFrom sep 0 items))

/-- What a table makes of a character. An entry that is missing leaves the character. -/
def translated (table : Value) (c : Char) : Action (List Char) := do
  let found ← read fun s =>
    match s.item table (.int c.toNat) with
    | .ok v => .ok (some v)
    | .error (.unknownName _) => .ok none
    | .error f => if f.category = .index then .ok none else .error f
  match found with
  | none => return [c]
  | some .null => return []
  | some (.text t) => return t.toList
  | some v =>
    match v.number? with
    | some (.int n) =>
      if 0 ≤ n && n < 0x110000 then return [Char.ofNat n.toNat] else misuse .translationTooLarge
    | _ => misuse .badTranslation

/-- A text translated by a table. -/
def translate (table : Value) (cs : List Char) : Action Value := do
  return textFrom (← cs.mapM (translated table)).flatten

/-- The key that an entry of a table for translating has. -/
def tableKey (v : Value) : Action Value :=
  match v with
  | .text t =>
    match t.toList with
    | [c] => return .int c.toNat
    | _ => misuse .tableKeyTooLong
  | .int _ | .bool _ => return v
  | _ => misuse .tableKeyNotText

/-- A table for translating, from a dictionary. -/
def translationTable (v : Value) : Action Value := do
  match ← read fun s => .ok (s.cell? v) with
  | some (.dict entries) =>
    let table ← entries.foldlM (fun (done : Table Value) entry => do
      let key ← tableKey entry.1
      read fun s => s.addEntry done key entry.2) []
    make (.dict table)
  | _ => misuse .tableNotDictionary

/-- A text as bytes. -/
def encoded (t : String) (args : List Value) : Action Value :=
  let written (codec : Codec) : Action Value :=
    match encode codec t with
    | .ok bytes => return .shown .object (showBytes bytes)
    | .error m => misuse m
  match args with
  | [.text name] =>
    match codec? name with
    | .ok codec => written codec
    | .error m => misuse m
  | [v] => wrongKind v .codecNotText
  | _ => written (.utf8 false)

/-- A text so many times. -/
def repeated (cs : List Char) (v : Value) : Action Value := do
  let n ← repetitions v
  if Format.numberLimit < cs.length * n then misuse .repeatedTooLong
  else
    checkLength (cs.length * n)
    return textFrom (List.replicate n cs).flatten

/-- The size of a text in the memory of a usual machine. -/
def textSize (cs : List Char) : Nat :=
  let greatest := cs.foldl (fun n c => max n c.toNat) 0
  if greatest < 0x80 then 49 + cs.length
  else if greatest < 0x100 then 73 + cs.length
  else if greatest < 0x10000 then 74 + 2 * cs.length
  else 76 + 4 * cs.length

/-- An operation of a text with one argument. -/
def ofTextWith (t : String) (name : String) (v : Value) : Action Value :=
  let cs := t.toList
  match name with
  | "__add__" =>
    match v with
    | .text u => return .text (t ++ u)
    | _ => wrongKind v (.notConcatenable .text)
  | "__contains__" =>
    match v with
    | .text u => return .bool (indexOf? u.toList cs).isSome
    | _ => wrongKind v .notContainable
  | "__getitem__" => read fun s => s.item (.text t) v
  | "__mul__" | "__rmul__" => repeated cs v
  | "__mod__" => do return .text (← read fun s => s.fillPercent t v)
  | "__rmod__" =>
    match v with
    | .text u => do return .text (← read fun s => s.fillPercent u (.text t))
    | _ => return .notImplemented
  | "__format__" => do
    let f ← format v
    return .text (← read fun s => s.formatted (.text t) f)
  | "join" => join t v
  | "count" => do return .int (occurrences (← sought v) cs)
  | "find" => find true false cs v
  | "rfind" => find false false cs v
  | "index" => find true true cs v
  | "rindex" => find false true cs v
  | "partition" => partition true cs v
  | "rpartition" => partition false cs v
  | "startswith" => affixed name true cs v
  | "endswith" => affixed name false cs v
  | "removeprefix" => withoutAffix name true cs v
  | "removesuffix" => withoutAffix name false cs v
  | "center" => inWidth centred cs v
  | "ljust" => inWidth (fun width cs => cs ++ List.replicate (width - cs.length) ' ') cs v
  | "rjust" => inWidth (fun width cs => List.replicate (width - cs.length) ' ' ++ cs) cs v
  | "zfill" => inWidth zeroFilled cs v
  | "translate" => translate v cs
  | "format_map" => do return .text (← read fun s => s.fill { names := some v } t)
  | "splitlines" => do
    let kept ← word .int v
    texts (linesOf (kept ≠ 0) cs)
  | "expandtabs" => do
    let width ← word .int v
    return textFrom (withoutTabs width.toNat 0 cs)
  | _ => return .notImplemented

/-- An operation of a text. -/
def ofText (t : String) (name : String) (args : List Value) : Action Value := do
  let cs := t.toList
  match recased? name t, property? name t with
  | some u, _ => return .text u
  | _, some b => return .bool b
  | none, none =>
    match name, args with
    | "__repr__", _ => return .text (quote t)
    | "__str__", _ => return .text t
    | "__len__", _ => return .int cs.length
    | "__iter__", _ => built fun s => s.walk (.text t)
    | "__getnewargs__", _ => tuple [.text t]
    | "__sizeof__", _ => return .int (textSize cs)
    | "encode", _ => encoded t args
    | "split", _ => split true cs args
    | "rsplit", _ => split false cs args
    | "strip", _ => strip name true true cs args
    | "lstrip", _ => strip name true false cs args
    | "rstrip", _ => strip name false true cs args
    | "format", _ => return .text (← read fun s => s.fill { positions := some args } t)
    | "splitlines", [] => texts (linesOf false cs)
    | "expandtabs", [] => return textFrom (withoutTabs 8 0 cs)
    | _, [v] => ofTextWith t name v
    | _, _ => return .notImplemented

end Walkthrough.Action
