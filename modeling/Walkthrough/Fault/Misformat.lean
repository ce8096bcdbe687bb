import Walkthrough.Fault.Category
import Walkthrough.Text.Quoted
import Walkthrough.Value

/-!
# Faults of formatting

A format says how a value is written: how wide, in which base, with how many digits. A template is
a text with places for values, each with a format. This file has what can be wrong with them.

## Main definitions

* `Misformat` — the causes
* `Misformat.category`, `Misformat.message` — what sort of mistake a cause is, and what is said
-/

namespace Walkthrough

/-- The parts of a format that some values do not take. -/
inductive FormatPart
  | sign
  | space
  | alternate
  | zeroCoercion
  | alignment
  | precision
deriving DecidableEq, Repr

/-- Why a value cannot be written as a format or a template asks. -/
inductive Misformat
  | invalid (spec : String) (k : Kind)
  | unknownCode (code : Char) (k : Kind)
  | missingPrecision
  | tooManyDigits
  | precisionTooBig
  | widthTooBig
  /-- A separator of thousands does not go with a code. -/
  | badSeparator (separator code : Char)
  | twoSeparators
  /-- A part does not go with texts, or with integers. -/
  | notAllowed (part : FormatPart) (isText : Bool)
  /-- A part does not go with integers written as characters. -/
  | notWithCharacter (part : FormatPart)
  | characterTooLarge
  | singleBrace (isOpening : Bool)
  | unclosedField
  | unclosedSpec
  | braceInName
  | missingConversion
  | colonExpected
  | unknownConversion (c : Char)
  | emptyAttribute
  | missingBracket
  | badContinuation
  | noPosition (index : Nat)
  | positional
  | toAutomatic
  | toManual
  | tooNested
  | incomplete
  | unsupportedCharacter (c : Char) (index : Nat)
  | tooFewValues
  | tooManyValues
  | notMapping
  | unclosedKey
  | starNotInteger
  | realNeeded (code : Char) (given : Kind)
  | integerNeeded (code : Char) (given : Kind)
  | numberNeeded (given : Kind)
  | characterNeeded
deriving DecidableEq, Repr

namespace Misformat

/-- The sort of mistake that a cause is. -/
def category : Misformat → Fault.Category
  | noPosition _ => .index
  | characterTooLarge => .overflow
  | tooFewValues | tooManyValues | notMapping | starNotInteger | realNeeded _ _
  | integerNeeded _ _ | numberNeeded _ | characterNeeded => .kind
  | _ => .value

/-- The words for a part of a format. -/
def partName : FormatPart → String
  | .sign => "Sign"
  | .space => "Space"
  | .alternate => "Alternate form (#)"
  | .zeroCoercion => "Negative zero coercion (z)"
  | .alignment => "'=' alignment"
  | .precision => "Precision"

/-- How a code is told: a character that cannot be printed by its code point. -/
def codeName (c : Char) : String :=
  if 32 < c.toNat && c.toNat < 128 then c.toString
  else "\\x" ++ String.ofList (Nat.toDigits 16 c.toNat)

/-- How a character that a template does not know is told. -/
def characterName (c : Char) : String :=
  let shown := if 31 ≤ c.toNat && c.toNat ≤ 126 then c.toString else "?"
  "'" ++ shown ++ "' (0x" ++ String.ofList (Nat.toDigits 16 c.toNat) ++ ")"

/-- What is said about a cause. -/
def message : Misformat → String
  | invalid spec k =>
    "Invalid format specifier '" ++ spec ++ "' for object of type '" ++ k.name ++ "'"
  | unknownCode code k =>
    "Unknown format code '" ++ codeName code ++ "' for object of type '" ++ k.name ++ "'"
  | missingPrecision => "Format specifier missing precision"
  | tooManyDigits => "Too many decimal digits in format string"
  | precisionTooBig => "precision too big"
  | widthTooBig => "width too big"
  | badSeparator separator code =>
    "Cannot specify '" ++ separator.toString ++ "' with '" ++ codeName code ++ "'."
  | twoSeparators => "Cannot specify both ',' and '_'."
  | notAllowed part isText =>
    partName part ++ " not allowed in " ++ (if isText then "string" else "integer") ++
      " format specifier"
  | notWithCharacter part =>
    partName part ++ " not allowed with integer format specifier 'c'"
  | characterTooLarge => "%c arg not in range(0x110000)"
  | singleBrace isOpening =>
    "Single '" ++ (if isOpening then "\x7b" else "\x7d") ++ "' encountered in format string"
  | unclosedField => "expected '\x7d' before end of string"
  | unclosedSpec => "unmatched '\x7b' in format spec"
  | braceInName => "unexpected '\x7b' in field name"
  | missingConversion => "end of string while looking for conversion specifier"
  | colonExpected => "expected ':' after conversion specifier"
  | unknownConversion c => "Unknown conversion specifier " ++ codeName c
  | emptyAttribute => "Empty attribute in format string"
  | missingBracket => "Missing ']' in format string"
  | badContinuation => "Only '.' or '[' may follow ']' in format field specifier"
  | noPosition index =>
    "Replacement index " ++ toString index ++ " out of range for positional args tuple"
  | positional => "Format string contains positional fields"
  | toAutomatic =>
    "cannot switch from manual field specification to automatic field numbering"
  | toManual => "cannot switch from automatic field numbering to manual field specification"
  | tooNested => "Max string recursion exceeded"
  | incomplete => "incomplete format"
  | unsupportedCharacter c index =>
    "unsupported format character " ++ characterName c ++ " at index " ++ toString index
  | tooFewValues => "not enough arguments for format string"
  | tooManyValues => "not all arguments converted during string formatting"
  | notMapping => "format requires a mapping"
  | unclosedKey => "incomplete format key"
  | starNotInteger => "* wants int"
  | realNeeded code given =>
    "%" ++ code.toString ++ " format: a real number is required, not " ++ given.name
  | integerNeeded code given =>
    "%" ++ code.toString ++ " format: an integer is required, not " ++ given.name
  | numberNeeded given => "must be real number, not " ++ given.name
  | characterNeeded => "%c requires int or char"

end Misformat

end Walkthrough
