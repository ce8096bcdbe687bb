import Walkthrough.Arithmetic.Real
import Walkthrough.Decimal.Rounded
import Walkthrough.Display
import Walkthrough.Format.Layout

/-!
# Values in a format

Integers are written in decimal, binary, octal or hexadecimal, as characters, or like doubles;
doubles positionally, with an exponent, or as percentages. Texts are cut and aligned. Other values
take no format.

## Main definitions

* `Format.integer`, `Format.real`, `Format.text` — a value in a format
* `Store.formatted` — any value in a format
-/

namespace Walkthrough.Format

/-- A fault of formatting. -/
def fault {α : Type} (m : Misformat) : Except Fault α := .error (.misuse (.format m))

/-- What comes of reading a format. -/
def lift {α : Type} : Except Misformat α → Except Fault α
  | .ok a => .ok a
  | .error m => fault m

/-! ### Texts -/

/-- Checks that a format has no part that texts do not take. -/
def Spec.checkText (spec : Spec) : Except Fault Unit := do
  match spec.sign with
  | some ' ' => fault (.notAllowed .space true)
  | some _ => fault (.notAllowed .sign true)
  | none => pure ()
  if spec.dropsZeroSign then fault (.notAllowed .zeroCoercion true)
  else if spec.alternate then fault (.notAllowed .alternate true)
  else if spec.align = .afterSign then fault (.notAllowed .alignment true)
  else return ()

/-- A text in a format. -/
def text (t : String) (format : String) : Except Fault String := do
  let spec ← lift (read .text .left (some 's') format)
  match spec.code with
  | some 's' =>
    spec.checkText
    let cs := match spec.precision with
      | some n => t.toList.take n
      | none => t.toList
    return String.ofList (spec.pad cs)
  | code => fault (.unknownCode (code.getD 's') .text)

/-! ### Doubles -/

/-- Puts a point behind the mantissa of a number that has none. -/
def withPoint (cs : List Char) : List Char :=
  if '.' ∈ cs || cs.any (fun c => c = 'n') then cs
  else
    let digits := cs.takeWhile Char.isDigit
    digits ++ '.' :: cs.drop digits.length

/-- The absolute value of a double as the code of a format asks, if there is such a code. -/
def realBody? (spec : Spec) (x : Float) : Option (List Char) :=
  let precision := spec.precision.getD 6
  let rounded (l : Decimal.Layout) :=
    Decimal.renderRounded l precision spec.alternate false x
  let upper (cs : List Char) := cs.map Char.toUpper
  match spec.code with
  | none =>
    match spec.precision with
    | some n => some (Decimal.renderRounded .general n spec.alternate true x)
    | none =>
      let cs := (Decimal.render x.abs).toList
      some (if spec.alternate then withPoint cs else cs)
  | some 'e' => some (rounded .scientific)
  | some 'E' => some (upper (rounded .scientific))
  | some 'f' => some (rounded .fixed)
  | some 'F' => some (upper (rounded .fixed))
  | some 'g' | some 'n' => some (rounded .general)
  | some 'G' => some (upper (rounded .general))
  | some '%' =>
    some (Decimal.renderRounded .fixed precision spec.alternate false (x * 100) ++ ['%'])
  | _ => none

/-- Whether a double is negative, a negative zero included. -/
def isNegative (x : Float) : Bool := !x.isNaN && decide (Decimal.twoPow 63 ≤ x.toBits.toNat)

/-- A double as a format asks; `k` is the kind of the value that it comes from. -/
def realAs (k : Kind) (x : Float) (spec : Spec) : Except Fault String :=
  match realBody? spec x with
  | none => fault (.unknownCode (spec.code.getD ' ') k)
  | some body =>
    let digits := body.takeWhile Char.isDigit
    let isZero := !body.any fun c => c.isDigit && c ≠ '0'
    let isZero := isZero && !digits.isEmpty
    let negative := isNegative x && !(spec.dropsZeroSign && isZero)
    .ok (String.ofList (spec.layOut
      { isNegative := negative, digits, rest := body.drop digits.length }))

/-- A double in a format. -/
def real (x : Float) (format : String) : Except Fault String := do
  realAs .real x (← lift (read .real .right none format))

/-! ### Integers -/

/-- Checks that a format has no part that integers do not take. -/
def Spec.checkInteger (spec : Spec) : Except Fault Unit :=
  if spec.precision.isSome then fault (.notAllowed .precision false)
  else if spec.dropsZeroSign then fault (.notAllowed .zeroCoercion false)
  else .ok ()

/-- An integer as a character in a format. -/
def character (n : Int) (spec : Spec) : Except Fault String :=
  if spec.sign.isSome then fault (.notWithCharacter .sign)
  else if spec.alternate then fault (.notWithCharacter .alternate)
  else if !Progression.isWord n then .error (.misuse (.wordTooLarge .long))
  else if n < 0 || 0x110000 ≤ n then fault .characterTooLarge
  else .ok (String.ofList (spec.pad [Char.ofNat n.toNat]))

/-- The base that a code stands for, and its mark. -/
def base? : Char → Option (Nat × String)
  | 'b' => some (2, "0b")
  | 'o' => some (8, "0o")
  | 'x' => some (16, "0x")
  | 'X' => some (16, "0X")
  | _ => none

/-- An integer in a base in a format. -/
def based (n : Int) (base : Nat) (mark : String) (spec : Spec) : String :=
  let digits := Nat.toDigits base n.natAbs
  String.ofList (spec.layOut
    { isNegative := n < 0
      mark := if spec.alternate then mark.toList else []
      digits := if spec.code = some 'X' then digits.map Char.toUpper else digits
      groupSize := 4 })

/-- An integer in a format; `k` is the kind of the value that it comes from. -/
def integer (k : Kind) (n : Int) (format : String) : Except Fault String := do
  let spec ← lift (read k .right (some 'd') format)
  match spec.code with
  | some 'c' =>
    spec.checkInteger
    character n spec
  | some 'd' | some 'n' =>
    spec.checkInteger
    let _ ← displayInt n
    return String.ofList (spec.layOut
      { isNegative := n < 0, digits := Nat.toDigits 10 n.natAbs })
  | some code =>
    match base? code with
    | some (base, mark) =>
      spec.checkInteger
      return based n base mark spec
    | none =>
      if code ∈ ['e', 'E', 'f', 'F', 'g', 'G', '%'] then realAs k (← (Number.int n).toFloat) spec
      else fault (.unknownCode code k)
  | none => fault (.unknownCode 'd' k)

end Walkthrough.Format

namespace Walkthrough.Store

/-- A value in a format. The empty format leaves a value as it is in a sentence. -/
def formatted (s : Store) (v : Value) (format : String) : Except Fault String :=
  if format = "" then s.sentence v
  else
    match v with
    | .text t => Format.text t format
    | .int n => Format.integer .int n format
    | .bool b => Format.integer .bool b.toNat format
    | .real x _ => Format.real x format
    | _ => .error (.misuse (.unsupportedFormat (s.kind v)))

end Walkthrough.Store
