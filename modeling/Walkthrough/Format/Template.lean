import Walkthrough.Format.Number
import Walkthrough.Item

/-!
# Templates

A template is a text with fields in braces. A field names a value, by its position or by a name, may
go on to attributes and items of it, may ask for the value as a literal, and may have a format. The
format may have fields itself. Two braces in a row stand for one.

Fields are found and filled one after the other, so a field that cannot be filled is told before a
later one that cannot be read.

## Main definitions

* `Template.Field`, `Template.next` — a field, and the next field of a template
* `Template.Source` — the values that fields may name
* `Store.fill` — a template with its fields filled
-/

namespace Walkthrough.Template

/-- A field of a template. -/
structure Field where
  name : List Char
  conversion : Option Char := none
  format : List Char := []
  /-- Whether the format has fields itself. -/
  nested : Bool := false
deriving DecidableEq, Repr

/-- Reads a name up to the character that ends it, which is told too. Anything may stand in
brackets. The first flag tells whether a bracket is open. -/
def readName : Bool → List Char → Except Misformat (List Char × Option Char × List Char)
  | _, [] => .ok ([], none, [])
  | bracketed, c :: rest => do
    if bracketed then
      let (name, ending, rest) ← readName (c ≠ ']') rest
      return (c :: name, ending, rest)
    else if c = '\x7b' then throw .braceInName
    else if c = '\x7d' || c = ':' || c = '!' then return ([], some c, rest)
    else
      let (name, ending, rest) ← readName (c = '[') rest
      return (c :: name, ending, rest)

/-- Reads a format up to the brace that closes its field; `depth` counts the braces that are
open. -/
def readFormat : Nat → List Char → Except Misformat (List Char × Bool × List Char)
  | _, [] => .error .unclosedSpec
  | depth, c :: rest => do
    if c = '\x7d' && depth = 1 then return ([], false, rest)
    else
      let opens := c = '\x7b'
      let depth := if opens then depth + 1 else if c = '\x7d' then depth - 1 else depth
      let (format, nested, rest) ← readFormat depth rest
      return (c :: format, nested || opens, rest)

/-- Reads a conversion, and the format that may follow it. -/
def readConversion (name : List Char) : List Char → Except Misformat (Field × List Char)
  | [] => .error .missingConversion
  | [_] => .error .unclosedSpec
  | c :: d :: rest => do
    if d = '\x7d' then return ({ name, conversion := some c }, rest)
    else if d = ':' then
      let (format, nested, rest) ← readFormat 1 rest
      return ({ name, conversion := some c, format, nested }, rest)
    else throw .colonExpected

/-- Reads a field behind its opening brace. -/
def readField (cs : List Char) : Except Misformat (Field × List Char) := do
  let (name, ending, rest) ← readName false cs
  match ending with
  | some '!' => readConversion name rest
  | some ':' =>
    let (format, nested, rest) ← readFormat 1 rest
    return ({ name, format, nested }, rest)
  | some _ => return ({ name }, rest)
  | none => throw .unclosedField

/-- The text up to the next field or doubled brace, the field if there is one, and what follows. -/
def next : List Char → Except Misformat (List Char × Option Field × List Char)
  | [] => .ok ([], none, [])
  | c :: rest => do
    if c = '\x7b' || c = '\x7d' then
      match rest with
      | d :: rest' =>
        if d = c then return ([c], none, rest')
        else if c = '\x7d' then throw (.singleBrace false)
        else
          let (field, rest) ← readField rest
          return ([], some field, rest)
      | [] => throw (.singleBrace (c = '\x7b'))
    else
      let (text, field, rest) ← next rest
      return (c :: text, field, rest)

/-- The values that fields may name. -/
structure Source where
  /-- The values by position, if there may be any. -/
  positions : Option (List Value) := none
  /-- What has the values by name, if there are any. -/
  names : Option Value := none

/-- How fields without a name are counted: not yet, by themselves from a number on, or not at
all. -/
inductive Numbering
  | undecided
  | automatic (next : Nat)
  | manual
deriving DecidableEq, Repr

/-- A step from a value to an attribute or an item of it. -/
inductive Access
  | attribute (name : String)
  | key (name : String)
  | index (i : Nat)
deriving DecidableEq, Repr

/-- The next step of a path behind the first name, and what follows it. -/
def readAccess : List Char → Except Misformat (Access × List Char)
  | '.' :: rest =>
    match rest.takeWhile fun c => c ≠ '.' && c ≠ '[' with
    | [] => .error .emptyAttribute
    | name => .ok (.attribute (String.ofList name), rest.drop name.length)
  | '[' :: rest =>
    let name := rest.takeWhile (· ≠ ']')
    if name.length = rest.length then .error .missingBracket
    else if name.isEmpty then .error .emptyAttribute
    else
      let after := rest.drop (name.length + 1)
      match Format.number name with
      | .ok (some i, []) => .ok (.index i, after)
      | .ok _ => .ok (.key (String.ofList name), after)
      | .error m => .error m
  | _ => .error .badContinuation

/-- The position that the first name of a field stands for, if it does, and the numbering behind
it. -/
def numbered (numbering : Numbering) (first : List Char) :
    Except Misformat (Option Nat × Numbering) := do
  let position ← match ← Format.number first with
    | (some i, []) => pure (some i)
    | _ => pure none
  if first.isEmpty then
    match numbering with
    | .undecided => return (some 0, .automatic 1)
    | .automatic i => return (some i, .automatic (i + 1))
    | .manual => throw .toAutomatic
  else
    match position, numbering with
    | some _, .automatic _ => throw .toManual
    | some i, _ => return (some i, .manual)
    | none, _ => return (none, numbering)

end Walkthrough.Template

namespace Walkthrough.Store

open Template

/-- Follows the steps of a path from a value. The first number bounds the steps. -/
def followPath (s : Store) : Nat → Value → List Char → Except Fault Value
  | 0, v, _ => .ok v
  | _, v, [] => .ok v
  | fuel + 1, v, path => do
    let (access, rest) ← Format.lift (readAccess path)
    let w ← match access with
      | .attribute name => s.lookup v name
      | .key name => s.item v (.text name)
      | .index i => s.item v (.int i)
    s.followPath fuel w rest

/-- The value that the first name of a field stands for, and the numbering behind it. -/
def fieldStart (s : Store) (source : Source) (numbering : Numbering) (first : List Char) :
    Except Fault (Value × Numbering) := do
  let (position, numbering) ← Format.lift (numbered numbering first)
  match position with
  | some i =>
    match source.positions with
    | none => Format.fault .positional
    | some values =>
      match values[i]? with
      | some v => return (v, numbering)
      | none => Format.fault (.noPosition i)
  | none =>
    let name := Value.text (String.ofList first)
    match source.names with
    | some v => return (← s.item v name, numbering)
    | none => throw (.unknownName name)

/-- The value of a field, and the numbering behind it. -/
def fieldValue (s : Store) (source : Source) (numbering : Numbering) (name : List Char) :
    Except Fault (Value × Numbering) := do
  let first := name.takeWhile fun c => c ≠ '.' && c ≠ '['
  let (v, numbering) ← s.fieldStart source numbering first
  return (← s.followPath name.length v (name.drop first.length), numbering)

/-- A text with every character beyond ASCII by its code point. -/
def asciiOnly (t : String) : String :=
  String.ofList (t.toList.flatMap fun c =>
    if c.toNat < 0x80 then [c]
    else if c.toNat < 0x100 then '\\' :: 'x' :: Text.hex 2 c.toNat
    else if c.toNat < 0x10000 then '\\' :: 'u' :: Text.hex 4 c.toNat
    else '\\' :: 'U' :: Text.hex 8 c.toNat)

/-- A value as a conversion asks. -/
def converted (s : Store) (v : Value) : Option Char → Except Fault Value
  | none => .ok v
  | some 'r' => (s.display v).map .text
  | some 's' => (s.sentence v).map .text
  | some 'a' => (s.display v).map fun t => .text (asciiOnly t)
  | some c => Format.fault (.unknownConversion c)

/-- A template with its fields filled, and the numbering behind it. The first number bounds how
deep fields are nested in formats, the second one how many fields there are. -/
def fillFrom (s : Store) (source : Source) :
    Nat → Nat → Numbering → List Char → Except Fault (List Char × Numbering)
  | 0, _, _, _ => Format.fault .tooNested
  | _, 0, numbering, _ => .ok ([], numbering)
  | depth + 1, fuel + 1, numbering, cs => do
    if cs.isEmpty then return ([], numbering)
    let (text, field, rest) ← Format.lift (next cs)
    match field with
    | none =>
      let (filled, numbering) ← s.fillFrom source (depth + 1) fuel numbering rest
      return (text ++ filled, numbering)
    | some field =>
      let (v, numbering) ← s.fieldValue source numbering field.name
      let v ← s.converted v field.conversion
      let (format, numbering) ←
        if field.nested then s.fillFrom source depth field.format.length numbering field.format
        else pure (field.format, numbering)
      let shown ← s.formatted v (String.ofList format)
      let (filled, numbering) ← s.fillFrom source (depth + 1) fuel numbering rest
      return (text ++ shown.toList ++ filled, numbering)

/-- A template with its fields filled. -/
def fill (s : Store) (source : Source) (template : String) : Except Fault String := do
  let cs := template.toList
  return String.ofList (← s.fillFrom source 2 (cs.length + 1) .undecided cs).1

end Walkthrough.Store
