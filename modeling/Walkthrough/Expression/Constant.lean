import Walkthrough.Decimal.Dyadic
import Walkthrough.Expression.Grammar

/-!
# Constants

An argument must be a constant: numbers, texts, truth values and nothing itself, and tuples, sets
and dictionaries of constants. A number may have a sign, and a complex number is the sum or the
difference of a real and an imaginary one. The elements of a set and the keys of a dictionary hold
no set and no dictionary.

## Main definitions

* `Expression.Tree.constant` — whether an expression is one
* `Expression.constant` — reads an argument that is a constant
-/

namespace Walkthrough.Expression

/-- Whether a number is imaginary, if a tree is one. -/
def Tree.number? : Tree → Option Bool
  | .leaf t =>
    if t.kind = .number then
      some (t.spelling.endsWith "j" || t.spelling.endsWith "J")
    else none
  | .node _ _ => none

/-- Whether a number is imaginary, if a tree is one with or without a sign. -/
def Tree.signed? : Tree → Option Bool
  | .node .operation [sign, operand] =>
    if sign.isSpelled "+" || sign.isSpelled "-" then operand.number? else none
  | tree => tree.number?

/-- The digits of a numeral in some base. -/
def digitsIn (base : Nat) (cs : List Char) : Option Nat :=
  let digits := cs.filter (· ≠ '_')
  if digits.all fun c => isHexDigit c && hexValue c < base then
    some (digits.foldl (fun n c => base * n + hexValue c) 0)
  else none

/-- The integer that a numeral stands for, if it stands for one. -/
def integerOf? : List Char → Option Nat
  | '0' :: 'x' :: cs | '0' :: 'X' :: cs => digitsIn 16 cs
  | '0' :: 'o' :: cs | '0' :: 'O' :: cs => digitsIn 8 cs
  | '0' :: 'b' :: cs | '0' :: 'B' :: cs => digitsIn 2 cs
  | cs => digitsIn 10 cs

/-- The integer that a tree is, without its sign. -/
def Tree.magnitude? : Tree → Option Nat
  | .leaf t => if t.kind = .number then integerOf? t.spelling.toList else none
  | .node .operation [_, .leaf t] =>
    if t.kind = .number then integerOf? t.spelling.toList else none
  | .node _ _ => none

/-- Whether a tree is a real number plus or minus an imaginary one. -/
def Tree.isComplex : Tree → Bool
  | .node .operation [left, sign, right] =>
    (sign.isSpelled "+" || sign.isSpelled "-") && left.signed? == some false &&
      right.number? == some true
  | _ => false

/-- Whether the real part of a complex number is an integer beyond the finite doubles. -/
def Tree.isBeyondDoubles : Tree → Bool
  | .node .operation [left, _, _] =>
    left.magnitude?.any fun n => (Decimal.ofInt? n).isNone
  | _ => false

/-- Whether a token is a constant. -/
def Token.isConstant (t : Token) : Bool :=
  match t.kind with
  | .number => true
  | .text => !(Quotation.ofSpelling t.spelling.toList).isTemplate
  | .symbol => t.spelling ∈ ["True", "False", "None", "..."]
  | _ => false

/-- Whether a tree makes an empty set. -/
def Tree.isEmptySet : Tree → Bool
  | .node .suffixed [callee, opening, closing] =>
    callee.isSpelled "set" && opening.isSpelled "(" && closing.isSpelled ")"
  | _ => false

mutual

/-- Whether an expression is a constant, and what in it cannot be a key. -/
def Tree.constant : Tree → Except Refusal (Option Collection)
  | .leaf t => if t.isConstant then .ok none else .error .notConstant
  | .node .tuple parts => constants parts
  | .node .set parts => do
    keys parts
    return some .set
  | .node .dictionary parts => do
    entries parts
    return some .dictionary
  | .node .texts parts =>
    if parts.all fun part => (part.token?.any Token.isConstant) then .ok none
    else .error .notConstant
  | .node form parts =>
    let tree := Tree.node form parts
    if tree.isEmptySet then .ok (some .set)
    else if tree.signed?.isSome then .ok none
    else if tree.isComplex then
      if tree.isBeyondDoubles then .error .beyondDoubles else .ok none
    else .error .notConstant

/-- Whether expressions are constants, and what in them cannot be a key. -/
def constants : List Tree → Except Refusal (Option Collection)
  | [] => .ok none
  | tree :: rest => do
    let first ← tree.constant
    let more ← constants rest
    return first <|> more

/-- Whether expressions are constants that can be keys. -/
def keys : List Tree → Except Refusal Unit
  | [] => .ok ()
  | tree :: rest => do
    match ← tree.constant with
    | some c => .error (.notKey c)
    | none => keys rest

/-- Whether the entries of a dictionary are constants, and the keys can be keys. -/
def entries : List Tree → Except Refusal Unit
  | [] => .ok ()
  | .node .pair [key, value] :: rest => do
    let found ← key.constant
    let _ ← value.constant
    match found with
    | some c => .error (.notKey c)
    | none => entries rest
  | .node .unpackedPair _ :: _ => .error .unpackedEntries
  | _ => .error .notConstant

end

/-- Reads an argument that is a constant. -/
def constant (cs : List Char) : Except Refusal Unit :=
  if '\x00' ∈ cs then .error .nullCharacter
  else match parse cs with
    | .error p => .error (.problem p)
    | .ok trees => (constants trees).map fun _ => ()

end Walkthrough.Expression
