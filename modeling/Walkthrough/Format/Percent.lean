import Walkthrough.Format.Template

/-!
# Templates with percent signs

In the older sort of template a field begins with a percent sign: a key in parentheses, flags, a
width, a precision and a code, most of which may be missing. Values are taken from a tuple one after
the other, or from one value, or by key.

## Main definitions

* `Percent.Field`, `Percent.Values` — a field, and the values that are left
* `Store.fillPercent` — a template with its fields filled
-/

namespace Walkthrough.Percent

/-- The flags, the width and the precision of a field. -/
structure Field where
  left : Bool := false
  plus : Bool := false
  blank : Bool := false
  alternate : Bool := false
  zero : Bool := false
  width : Nat := 0
  precision : Option Nat := none
deriving DecidableEq, Repr

/-- The values that are left. -/
inductive Values
  /-- These, one after the other. -/
  | each (vs : List Value)
  /-- This one, unless it is used already. -/
  | single (v : Value) (used : Bool)

/-- The next value, and those that are left behind it. -/
def Values.next : Values → Except Misformat (Value × Values)
  | each (v :: vs) => .ok (v, each vs)
  | single v false => .ok (v, single v true)
  | _ => .error .tooFewValues

/-- Whether values are left that should have been used. -/
def Values.areLeft : Values → Bool
  | each vs => !vs.isEmpty
  | single _ used => !used

/-- The key of a field up to the parenthesis that closes it; `depth` counts those that are open. -/
def readKey : Nat → List Char → Except Misformat (List Char × List Char)
  | _, [] => .error .unclosedKey
  | depth, c :: rest => do
    if c = ')' && depth = 1 then return ([], rest)
    else
      let depth := if c = '(' then depth + 1 else if c = ')' then depth - 1 else depth
      let (key, rest) ← readKey depth rest
      return (c :: key, rest)

/-- Reads the flags of a field. -/
def readFlags (field : Field) : List Char → Field × List Char
  | '-' :: rest => readFlags { field with left := true } rest
  | '+' :: rest => readFlags { field with plus := true } rest
  | ' ' :: rest => readFlags { field with blank := true } rest
  | '#' :: rest => readFlags { field with alternate := true } rest
  | '0' :: rest => readFlags { field with zero := true } rest
  | cs => (field, cs)

/-- The number at the front of a field, if it is not above a limit. -/
def readNumber (limit : Nat) (tooBig : Misformat) (cs : List Char) :
    Except Misformat (Nat × List Char) :=
  let digits := cs.takeWhile Char.isDigit
  let n := Decimal.natOf digits
  if n ≤ limit then .ok (n, cs.drop digits.length) else .error tooBig

/-- The greatest precision. -/
def precisionLimit : Nat := 0x7FFFFFFF

/-- A written value in the width of a field: its sign, its mark, and the rest of it. Only numbers
are filled with zeros. -/
def Field.pad (field : Field) (isNumber : Bool) (sign mark body : List Char) : List Char :=
  let missing := field.width - (sign.length + mark.length + body.length)
  if field.left then sign ++ mark ++ body ++ List.replicate missing ' '
  else if field.zero && isNumber then sign ++ mark ++ List.replicate missing '0' ++ body
  else List.replicate missing ' ' ++ sign ++ mark ++ body

/-- The sign of a number. -/
def Field.signOf (field : Field) (isNegative : Bool) : List Char :=
  if isNegative then ['-'] else if field.plus then ['+'] else if field.blank then [' '] else []

/-- A text in a field. -/
def Field.text (field : Field) (t : String) : List Char :=
  let cs := match field.precision with
    | some n => t.toList.take n
    | none => t.toList
  field.pad false [] [] cs

/-- An integer in a field, in a base. -/
def Field.integer (field : Field) (code : Char) (n : Int) : List Char :=
  let (base, mark) := (Format.base? code).getD (10, "")
  let digits := Nat.toDigits base n.natAbs
  let digits := if code = 'X' then digits.map Char.toUpper else digits
  let digits := List.replicate (field.precision.getD 0 - digits.length) '0' ++ digits
  field.pad true (field.signOf (n < 0)) (if field.alternate then mark.toList else []) digits

/-- The layout that a code stands for. -/
def layout? (code : Char) : Option Decimal.Layout :=
  match code with
  | 'e' | 'E' => some .scientific
  | 'f' | 'F' => some .fixed
  | 'g' | 'G' => some .general
  | _ => none

/-- A double in a field. -/
def Field.real (field : Field) (code : Char) (l : Decimal.Layout) (x : Float) : List Char :=
  let body := Decimal.renderRounded l (field.precision.getD 6) field.alternate false x
  let body := if code.isUpper then body.map Char.toUpper else body
  field.pad true (field.signOf (Format.isNegative x)) [] body

end Walkthrough.Percent

namespace Walkthrough.Store

open Percent

/-- The character that a value stands for. -/
def characterOf (v : Value) : Except Fault Char :=
  match v with
  | .text t =>
    match t.toList with
    | [c] => .ok c
    | _ => Format.fault .characterNeeded
  | _ =>
    match v.number? with
    | some (.int n) =>
      if n < 0 || 0x110000 ≤ n then Format.fault .characterTooLarge
      else .ok (Char.ofNat n.toNat)
    | _ => Format.fault .characterNeeded

/-- The integer that a value is, or is cut off to, for a code. -/
def integerFor (s : Store) (code : Char) (v : Value) : Except Fault Int :=
  let whole := code ∉ ['o', 'x', 'X']
  match v.number? with
  | some (.int n) => .ok n
  | some (.real x) =>
    if whole then
      match Real.truncate? x with
      | some n => .ok n
      | none => .error (.misuse (.notFinite x.isNaN .integer))
    else Format.fault (.integerNeeded code (s.kind v))
  | none =>
    Format.fault (if whole then .realNeeded code (s.kind v) else .integerNeeded code (s.kind v))

/-- A value as the code of a field asks; `index` is where the code stands. -/
def inField (s : Store) (field : Field) (code : Char) (index : Nat) (v : Value) :
    Except Fault (List Char) :=
  match code with
  | 's' => do return field.text (← s.sentence v)
  | 'r' => do return field.text (← s.display v)
  | 'a' => do return field.text (asciiOnly (← s.display v))
  | 'c' => do return field.pad false [] [] [← characterOf v]
  | 'd' | 'i' | 'u' => do
    let n ← s.integerFor code v
    let _ ← displayInt n
    return field.integer code n
  | 'o' | 'x' | 'X' => do return field.integer code (← s.integerFor code v)
  | _ =>
    match layout? code with
    | some l =>
      match v.number? with
      | some n => do return field.real code l (← n.toFloat)
      | none => Format.fault (.numberNeeded (s.kind v))
    | none => Format.fault (.unsupportedCharacter code index)

/-- A width or a precision that is the next value; what it is, and the values behind it. -/
def starred (values : Values) (w : Word) : Except Fault (Int × Values) := do
  let (v, values) ← Format.lift values.next
  match v.number? with
  | some (.int n) =>
    let limit : Int := if w = .int then precisionLimit else Format.numberLimit
    if -limit - 1 ≤ n && n ≤ limit then return (n, values)
    else throw (.misuse (.wordTooLarge w))
  | _ => Format.fault .starNotInteger

/-- Reads the width of a field. -/
def readWidth (field : Field) (values : Values) :
    List Char → Except Fault (Field × Values × List Char)
  | '*' :: rest => do
    let (n, values) ← starred values .index
    return ({ field with width := n.natAbs, left := field.left || n < 0 }, values, rest)
  | cs => do
    let (n, rest) ← Format.lift (readNumber Format.numberLimit .widthTooBig cs)
    return ({ field with width := n }, values, rest)

/-- Reads the precision of a field. -/
def readPrecision (field : Field) (values : Values) :
    List Char → Except Fault (Field × Values × List Char)
  | '.' :: '*' :: rest => do
    let (n, values) ← starred values .int
    return ({ field with precision := some n.toNat }, values, rest)
  | '.' :: rest => do
    let (n, rest) ← Format.lift (readNumber precisionLimit .precisionTooBig rest)
    return ({ field with precision := some n }, values, rest)
  | cs => .ok (field, values, cs)

/-- Reads the key of a field, and gives the values for it. -/
def readKeyed (s : Store) (mapping : Option Value) (values : Values) :
    List Char → Except Fault (Values × List Char)
  | '(' :: rest =>
    match mapping with
    | none => Format.fault .notMapping
    | some m => do
      let (key, rest) ← Format.lift (readKey 1 rest)
      return (.single (← s.item m (.text (String.ofList key))) false, rest)
  | cs => .ok (values, cs)

/-- Fills the field at the front of a template, behind its percent sign; `length` is that of the
whole template. -/
def fillField (s : Store) (mapping : Option Value) (length : Nat) (values : Values)
    (cs : List Char) : Except Fault (List Char × Values × List Char) := do
  let (values, cs) ← s.readKeyed mapping values cs
  let (field, cs) := readFlags {} cs
  let (field, values, cs) ← readWidth field values cs
  let (field, values, cs) ← readPrecision field values cs
  let cs := match cs with
    | c :: rest => if c ∈ ['h', 'l', 'L'] then rest else cs
    | [] => cs
  match cs with
  | [] => Format.fault .incomplete
  | code :: rest =>
    let (v, values) ← Format.lift values.next
    return (← s.inField field code (length - cs.length) v, values, rest)

/-- A template with its fields filled. The first number bounds the characters that are read. -/
def fillPercentFrom (s : Store) (mapping : Option Value) (length : Nat) :
    Nat → Values → List Char → Except Fault (List Char)
  | 0, _, cs => .ok cs
  | _, values, [] =>
    if mapping.isNone && values.areLeft then Format.fault .tooManyValues else .ok []
  | fuel + 1, values, c :: rest => do
    if c ≠ '%' then return c :: (← s.fillPercentFrom mapping length fuel values rest)
    else
      match rest with
      | '%' :: rest => return '%' :: (← s.fillPercentFrom mapping length fuel values rest)
      | _ =>
        let (shown, values, rest) ← s.fillField mapping length values rest
        return shown ++ (← s.fillPercentFrom mapping length fuel values rest)

/-- A template with the value, or the values of a tuple, in its fields. -/
def fillPercent (s : Store) (template : String) (v : Value) : Except Fault String := do
  let cs := template.toList
  let values : Values := match s.cell? v with
    | some (.tuple items) => .each items
    | _ => .single v false
  let mapping := match v, s.cell? v with
    | .range _, _ | _, some (.list _) | _, some (.dict _) => some v
    | _, _ => none
  return String.ofList (← s.fillPercentFrom mapping cs.length (cs.length + 1) values cs)

end Walkthrough.Store
