import Walkthrough.Arithmetic.Real
import Walkthrough.Call.Action
import Walkthrough.Decimal.Hexadecimal
import Walkthrough.Format.Number
import Walkthrough.Text.Codec

/-!
# Operations of numbers

Truth values are integers with operations of their own for what concerns their one bit. An integer
knows how to calculate with integers, a double with all numbers.

## Main definitions

* `Action.ofInteger` — an operation of an integer
* `Action.ofTruth` — an operation of a truth value
* `Action.ofReal` — an operation of a double
-/

namespace Walkthrough

/-- The operation that has its operands the other way round, and whether this one has. -/
def straightened (name : String) : String × Bool :=
  match name with
  | "__radd__" => ("__add__", true)
  | "__rsub__" => ("__sub__", true)
  | "__rmul__" => ("__mul__", true)
  | "__rmod__" => ("__mod__", true)
  | "__rdivmod__" => ("__divmod__", true)
  | "__rpow__" => ("__pow__", true)
  | "__rlshift__" => ("__lshift__", true)
  | "__rrshift__" => ("__rshift__", true)
  | "__rand__" => ("__and__", true)
  | "__rxor__" => ("__xor__", true)
  | "__ror__" => ("__or__", true)
  | "__rfloordiv__" => ("__floordiv__", true)
  | "__rtruediv__" => ("__truediv__", true)
  | _ => (name, false)

namespace Action

/-- Fails unless a divisor is other than zero. -/
def checkDivisor (isReal isZero : Bool) (d : Division) : Action Unit :=
  if isZero then misuse (.dividedByZero isReal d) else pure ()

/-- The doubles that are not finite are no integers and no quotients. -/
def finite {α : Type} (x : Float) (wanted : Exactness) : Option α → Action α
  | some a => pure a
  | none => misuse (.notFinite x.isNaN wanted)

/-- A power of doubles. -/
def realPower (x y : Float) : Action Value :=
  match Real.power? x y with
  | .ok z => real z
  | .error .zero => misuse .zeroToNegative
  | .error .tooLarge => misuse .powerTooLarge
  | .error .imaginary =>
    let (re, im) := Real.imaginaryPower x y
    return .shown .object (Real.renderComplex re im)

/-- The number of bits up to which integers are calculated. -/
def bitLimit : Nat := 0x1000000000

/-- A power of integers; one with a negative exponent is a double. -/
def integerPower (m n : Int) : Action Value := do
  if n < 0 then
    realPower (← read fun _ => (Number.int m).toFloat) (← read fun _ => (Number.int n).toFloat)
  else if 1 < m.natAbs && bitLimit < m.natAbs.log2 * n.toNat then misuse .outOfMemory
  else if m.natAbs ≤ 1 then return .int (if m = -1 && n % 2 = 0 then 1 else if n = 0 then 1 else m)
  else return .int (Integer.power m n.toNat)

/-- The number of limbs, of thirty bits each, that any integer can have. -/
def limbLimit : Nat := 2305843009213693945

/-- An integer with its bits moved to the left. -/
def shiftLeft (m n : Int) : Action Value :=
  if n < 0 then misuse .negativeShift
  else if m = 0 then return .int 0
  else if limbLimit < (Integer.bitLength m + 29) / 30 + (n.toNat + 29) / 30 then
    misuse .shiftTooLarge
  else if bitLimit < n.toNat then misuse .outOfMemory
  else return .int (m * Decimal.twoPow n.toNat)

/-- An integer with its bits moved to the right. -/
def shiftRight (m n : Int) : Action Value :=
  if n < 0 then misuse .negativeShift
  else if Integer.bitLength m < n then return .int (if m < 0 then -1 else 0)
  else return .int (m.fdiv (Decimal.twoPow n.toNat))

/-- An operation of two integers. -/
def integers (name : String) (m n : Int) : Action Value :=
  match name with
  | "__add__" => return .int (m + n)
  | "__sub__" => return .int (m - n)
  | "__mul__" => return .int (m * n)
  | "__mod__" => do
    checkDivisor false (n = 0) .remainder
    return .int (m.fmod n)
  | "__floordiv__" => do
    checkDivisor false (n = 0) .whole
    return .int (m.fdiv n)
  | "__divmod__" => do
    checkDivisor false (n = 0) .both
    tuple [.int (m.fdiv n), .int (m.fmod n)]
  | "__truediv__" => do
    checkDivisor false (n = 0) .exact
    match Real.quotient? m n with
    | some x => real x
    | none => misuse .quotientTooLarge
  | "__pow__" => integerPower m n
  | "__lshift__" => shiftLeft m n
  | "__rshift__" => shiftRight m n
  | "__and__" => return .int (Integer.and m n)
  | "__or__" => return .int (Integer.or m n)
  | "__xor__" => return .int (Integer.xor m n)
  | _ => return .notImplemented

/-- An operation of two doubles. -/
def reals (name : String) (x y : Float) : Action Value :=
  match name with
  | "__add__" => real (x + y)
  | "__sub__" => real (x - y)
  | "__mul__" => real (x * y)
  | "__mod__" => do
    checkDivisor true (y == 0) .remainder
    real (Real.remainder x y)
  | "__floordiv__" => do
    checkDivisor true (y == 0) .whole
    real (Real.divide x y).1
  | "__divmod__" => do
    checkDivisor true (y == 0) .both
    let (quotient, rest) := Real.divide x y
    tuple [← real quotient, ← real rest]
  | "__truediv__" => do
    checkDivisor true (y == 0) .exact
    real (x / y)
  | "__pow__" => realPower x y
  | _ => return .notImplemented

/-- A format, which must be a text. -/
def format (v : Value) : Action String :=
  match v with
  | .text t => pure t
  | _ => wrongKind v (.textNeeded "__format__")

/-- An integer as bytes. -/
def toBytes (n : Int) (args : List Value) : Action Value := do
  let length ← match args with
    | [v] => word .index v
    | _ => pure 1
  if length < 0 then misuse .negativeLength
  else if n < 0 then misuse .negativeToBytes
  else
    checkLength length.toNat
    match Integer.toBytes? n.toNat length.toNat with
    | some bytes => return .shown .object (Text.showBytes bytes)
    | none => misuse .tooBigForBytes

/-- The size of an integer in the memory of a usual machine. -/
def integerSize (n : Int) : Nat := 24 + 4 * max 1 ((Integer.bitLength n + 29) / 30)

/-- An integer rounded to a number of places. -/
def roundedInteger (n : Int) (v : Value) : Action Value := do
  let places ← integer v
  if 0 ≤ places then return .int n
  else if (Integer.digitCount n : Int) < -places then return .int 0
  else return .int (Integer.roundToTen n (-places).toNat)

/-- An operation of an integer; `v` is the value that it is. -/
def ofInteger (v : Value) (n : Int) (name : String) (args : List Value) : Action Value := do
  match name, args with
  | "__repr__", _ => return .text (← read fun _ => displayInt n)
  | "__hash__", _ => return .int (Integer.hash n)
  | "__neg__", _ => return .int (-n)
  | "__abs__", _ => return .int n.natAbs
  | "__bool__", _ => return .bool (n ≠ 0)
  | "__invert__", _ => return .int (-n - 1)
  | "__float__", _ => real (← read fun _ => (Number.int n).toFloat)
  | "bit_length", _ => return .int (Integer.bitLength n)
  | "bit_count", _ => return .int (Integer.bitCount n)
  | "to_bytes", _ => toBytes n args
  | "as_integer_ratio", _ => tuple [.int n, .int 1]
  | "__getnewargs__", _ => tuple [.int n]
  | "__round__", [places] => roundedInteger n places
  | "__format__", [f] =>
    let format ← format f
    return .text (← read fun s => s.formatted v format)
  | "__sizeof__", _ => return .int (integerSize n)
  | "__pos__", _ | "__int__", _ | "__index__", _ | "conjugate", _ | "__trunc__", _
  | "__floor__", _ | "__ceil__", _ | "__round__", _ => return .int n
  | _, [w] =>
    match w.number? with
    | some (.int m) =>
      let (name, swapped) := straightened name
      if swapped then integers name m n else integers name n m
    | _ => return .notImplemented
  | _, _ => return .notImplemented

/-- An operation that truth values have of their own. -/
def ofTruth (b : Bool) (name : String) (args : List Value) : Action Value :=
  match (straightened name).1, args with
  | "__and__", [.bool c] => return .bool (b && c)
  | "__or__", [.bool c] => return .bool (b || c)
  | "__xor__", [.bool c] => return .bool (b ^^ c)
  | "__repr__", _ => return .text (if b then "True" else "False")
  | _, _ => ofInteger (.bool b) b.toNat name args

/-- A double rounded to a number of places. -/
def roundedReal (x : Float) (places : Int) : Action Value :=
  match Real.roundTo? x places with
  | some y => real y
  | none => misuse .roundedTooLarge

/-- An operation of a double; `v` is the value that it is. -/
def ofReal (v : Value) (x : Float) (name : String) (args : List Value) : Action Value := do
  match name, args with
  | "__repr__", _ => return .text (Decimal.render x)
  | "__hash__", _ => return .int ((Real.hash? x).getD 0)
  | "__neg__", _ => real (-x)
  | "__abs__", _ => real x.abs
  | "__bool__", _ => return .bool !(x == 0)
  | "__int__", _ | "__trunc__", _ => return .int (← finite x .integer (Real.truncate? x))
  | "__floor__", _ => return .int (← finite x .integer (Real.floor? x))
  | "__ceil__", _ => return .int (← finite x .integer (Real.ceiling? x))
  | "__round__", [.null] | "__round__", [] =>
    return .int (← finite x .integer (Real.round? x))
  | "__round__", [places] => roundedReal x (← integer places)
  | "as_integer_ratio", _ =>
    let (num, den) ← finite x .ratio (Real.ratio? x)
    tuple [.int num, .int den]
  | "hex", _ => return .text (Decimal.renderHex x)
  | "is_integer", _ => return .bool (Real.isWhole x)
  | "__getnewargs__", _ => tuple [← real x]
  | "__pos__", _ | "__float__", _ | "conjugate", _ => return v
  | "__format__", [f] =>
    let format ← format f
    return .text (← read fun s => s.formatted v format)
  | _, [w] =>
    match w.number? with
    | some n =>
      let y ← read fun _ => n.toFloat
      let (name, swapped) := straightened name
      if swapped then reals name y x else reals name x y
    | _ => return .notImplemented
  | _, _ => return .notImplemented

/-! ### Operations of the kinds -/

/-- The double that a hexadecimal numeral stands for. -/
def fromHex (v : Value) : Action Value :=
  match v with
  | .text t =>
    match Decimal.readHex t with
    | .ok x => real x
    | .error .malformed => misuse .badHexNumeral
    | .error .tooLarge => misuse .hexTooLarge
  | _ => misuse .hexNotText

/-- How doubles are held. -/
def realFormat (v : Value) : Action Value :=
  match v with
  | .text t =>
    if t ∈ ["double", "float"] then return .text "IEEE, little-endian" else misuse .unknownFormat
  | _ => wrongKind v (.textNeeded "__getformat__")

/-- A byte that an element is. -/
def byte (v : Value) : Action Nat := do
  let n ← integer v
  if 0 ≤ n && n < 256 then return n.toNat else misuse .byteTooLarge

/-- The integer that bytes stand for, as a value of a kind. -/
def fromBytes (k : Kind) (v : Value) : Action Value := do
  match v with
  | .text _ => wrongKind v .notBytes
  | _ =>
    let bytes ← tryCatch (elements v) fun f =>
      match f with
      | .notIterable _ => wrongKind v .notBytes
      | _ => throw f
    let n := Integer.ofBytes (← bytes.mapM byte)
    return if k = .bool then .bool (n ≠ 0) else .int n

end Action

end Walkthrough
