import Walkthrough.Text.Quoted

/-!
# What can be wrong with an expression

A problem names its cause, from single characters over brackets and texts to the grammar; the
wording is in one place.

## Main definitions

* `Expression.NumeralStyle` — the ways to write a number
* `Expression.Problem`, `Expression.Problem.message` — the causes, and what is said of them
* `Expression.Refusal`, `Expression.Refusal.message` — why an argument is refused
-/

namespace Walkthrough.Expression

/-- The ways to write a number. -/
inductive NumeralStyle
  | decimal
  | hexadecimal
  | octal
  | binary
  | imaginary
deriving DecidableEq, Repr

/-- The name of a way to write a number. -/
def NumeralStyle.name : NumeralStyle → String
  | decimal => "decimal"
  | hexadecimal => "hexadecimal"
  | octal => "octal"
  | binary => "binary"
  | imaginary => "imaginary"

/-- Why a character of a text cannot be read from its code. -/
inductive CodeProblem
  /-- A code of so many hexadecimal digits has fewer. -/
  | truncated (letter : Char) (digits : Nat)
  | beyondCharacters
  | malformedName
  | unknownName
deriving DecidableEq, Repr

/-- Why a template, a text that holds expressions in braces, cannot be read. -/
inductive TemplateProblem
  | strayBrace
  | missingBrace
  | emptyExpression
  /-- Nothing stands in front of a character that belongs behind an expression. -/
  | missingExpression (before : Char)
  | tooDeep
  | backslash
  | comment
  | tooManyBrackets
  | unmatched (bracket : Char)
  | mismatched (closing opening : Char)
  | unterminatedText
  | unknownConversion
deriving DecidableEq, Repr

/-- Why an expression cannot be read. -/
inductive Problem
  /-- A character that stands in no expression. -/
  | strayCharacter (c : Char)
  | invisibleCharacter (c : Char)
  /-- A backslash that does not end its line. -/
  | brokenContinuation
  /-- The text ends where it has to go on. -/
  | unexpectedEnd
  | unexpectedIndent
  | unexpectedDedent
  /-- Lines that are indented in different ways. -/
  | unclearIndent
  /-- A text with one or three quotes has no end up to a line. -/
  | unterminated (quotes : Nat) (line : Nat)
  | brokenNumeral (style : NumeralStyle)
  | strayDigit (c : Char) (style : NumeralStyle)
  | leadingZeros
  /-- A numeral has too many digits. -/
  | numeralTooLong (digits : Nat)
  | neverClosed (opening : Char)
  | unmatched (closing : Char)
  /-- Brackets that do not match, with the line of the first if it is another one. -/
  | mismatched (closing opening : Char) (line : Option Nat)
  | tooManyBrackets
  | bytesBeyondAscii
  | mixedTexts
  /-- The code from one position to another stands for no character. -/
  | brokenCode (first last : Nat) (cause : CodeProblem)
  | brokenByte (position : Nat)
  /-- The grammar has no place for a token. -/
  | unexpectedToken
  | forgottenComma
  | missingElse
  /-- An operation is named and its arguments follow without parentheses. -/
  | missingParentheses (operation : String)
  | equalsSign
  | notAssignable (form : String)
  | notComparable (form : String)
  | notNameable (form : String)
  | assignmentInCall
  | starred
  | doubleStarred
  | starredInComprehension
  | doubleStarredInComprehension
  | bareComprehensionTarget
  | starredEntry
  | missingEntry
  | missingColon
  | unparenthesizedGenerator
  | starredAfterDoubleStarred
  | positionalAfterDoubleStarred
  | positionalAfterKeyword
  | missingDefault
  | defaultBeforeNone
  | parenthesizedParameters
  | leadingSlash
  | repeatedSlash
  | slashAfterStar
  | missingCommaAfterSlash
  | nothingAfterStar
  | defaultOfStarred
  | repeatedStar
  | defaultOfDoubleStarred
  | parameterAfterDoubleStarred
  | template (cause : TemplateProblem)
  /-- A problem that is found when an expression of a template is read. -/
  | inTemplate (problem : Problem)
deriving DecidableEq, Repr

/-- Whether a problem lies in the characters, and not in the way they are put together. -/
def Problem.isLexical : Problem → Bool
  | strayCharacter _ | invisibleCharacter _ | unterminated _ _ | brokenNumeral _ | strayDigit _ _
  | leadingZeros | unmatched _ | mismatched _ _ _ | tooManyBrackets => true
  | _ => false

/-- A problem of an expression as a problem of the template around it: what lies in the characters
is told as it is, and so is what was found in a template within. -/
def Problem.inside (problem : Problem) : Problem :=
  match problem with
  | inTemplate _ => problem
  | _ => if problem.isLexical then problem else inTemplate problem

/-- The code point of a character as it is named, with four digits or more in upper case. -/
def codePoint (c : Char) : String :=
  let width := if c.toNat < 0x10000 then 4 else if c.toNat < 0x100000 then 5 else 6
  "U+" ++ String.ofList ((Text.hex width c.toNat).map Char.toUpper)

/-- What is said of a code that stands for no character. -/
def CodeProblem.message : CodeProblem → String
  | truncated letter digits =>
    "truncated \\" ++ letter.toString ++ String.ofList (List.replicate digits 'X') ++ " escape"
  | beyondCharacters => "illegal Unicode character"
  | malformedName => "malformed \\N character escape"
  | unknownName => "unknown Unicode character name"

/-- What is said of a template that cannot be read. -/
def TemplateProblem.message : TemplateProblem → String
  | strayBrace => "f-string: single '\x7d' is not allowed"
  | missingBrace => "f-string: expecting '\x7d'"
  | emptyExpression => "f-string: empty expression not allowed"
  | missingExpression before => "f-string: expression required before '" ++ before.toString ++ "'"
  | tooDeep => "f-string: expressions nested too deeply"
  | backslash => "f-string expression part cannot include a backslash"
  | comment => "f-string expression part cannot include '#'"
  | tooManyBrackets => "f-string: too many nested parenthesis"
  | unmatched bracket => "f-string: unmatched '" ++ bracket.toString ++ "'"
  | mismatched closing opening =>
    "f-string: closing parenthesis '" ++ closing.toString ++
      "' does not match opening parenthesis '" ++ opening.toString ++ "'"
  | unterminatedText => "f-string: unterminated string"
  | unknownConversion => "f-string: invalid conversion character: expected 's', 'r', or 'a'"

/-- What is said of a problem. -/
def Problem.message : Problem → String
  | strayCharacter c => "invalid character '" ++ c.toString ++ "' (" ++ codePoint c ++ ")"
  | invisibleCharacter c => "invalid non-printable character " ++ codePoint c
  | brokenContinuation => "unexpected character after line continuation character"
  | unexpectedEnd => "unexpected EOF while parsing"
  | unexpectedIndent => "unexpected indent"
  | unexpectedDedent => "unexpected unindent"
  | unclearIndent => "inconsistent use of tabs and spaces in indentation"
  | unterminated quotes line =>
    "unterminated " ++ (if quotes = 3 then "triple-quoted " else "") ++
      "string literal (detected at line " ++ toString line ++ ")"
  | brokenNumeral style => "invalid " ++ style.name ++ " literal"
  | strayDigit c style => "invalid digit '" ++ c.toString ++ "' in " ++ style.name ++ " literal"
  | leadingZeros =>
    "leading zeros in decimal integer literals are not permitted; " ++
      "use an 0o prefix for octal integers"
  | numeralTooLong digits =>
    "Exceeds the limit (4300 digits) for integer string conversion: value has " ++
      toString digits ++ " digits; use sys.set_int_max_str_digits() to increase the limit" ++
      " - Consider hexadecimal for huge integer literals to avoid decimal conversion limits."
  | neverClosed opening => "'" ++ opening.toString ++ "' was never closed"
  | unmatched closing => "unmatched '" ++ closing.toString ++ "'"
  | mismatched closing opening line =>
    "closing parenthesis '" ++ closing.toString ++ "' does not match opening parenthesis '" ++
      opening.toString ++ "'" ++
      (match line with
      | none => ""
      | some n => " on line " ++ toString n)
  | tooManyBrackets => "too many nested parentheses"
  | bytesBeyondAscii => "bytes can only contain ASCII literal characters"
  | mixedTexts => "cannot mix bytes and nonbytes literals"
  | brokenCode first last cause =>
    "(unicode error) 'unicodeescape' codec can't decode bytes in position " ++ toString first ++
      "-" ++ toString last ++ ": " ++ cause.message
  | brokenByte position => "(value error) invalid \\x escape at position " ++ toString position
  | unexpectedToken => "invalid syntax"
  | forgottenComma => "invalid syntax. Perhaps you forgot a comma?"
  | missingElse => "expected 'else' after 'if' expression"
  | missingParentheses operation =>
    "Missing parentheses in call to '" ++ operation ++ "'. Did you mean " ++ operation ++ "(...)?"
  | equalsSign => "invalid syntax. Maybe you meant '==' or ':=' instead of '='?"
  | notAssignable form => "cannot assign to " ++ form
  | notComparable form =>
    "cannot assign to " ++ form ++ " here. Maybe you meant '==' instead of '='?"
  | notNameable form => "cannot use assignment expressions with " ++ form
  | assignmentInCall => "expression cannot contain assignment, perhaps you meant \"==\"?"
  | starred => "cannot use starred expression here"
  | doubleStarred => "cannot use double starred expression here"
  | starredInComprehension => "iterable unpacking cannot be used in comprehension"
  | doubleStarredInComprehension => "dict unpacking cannot be used in dict comprehension"
  | bareComprehensionTarget => "did you forget parentheses around the comprehension target?"
  | starredEntry => "cannot use a starred expression in a dictionary value"
  | missingEntry => "expression expected after dictionary key and ':'"
  | missingColon => "':' expected after dictionary key"
  | unparenthesizedGenerator => "Generator expression must be parenthesized"
  | starredAfterDoubleStarred =>
    "iterable argument unpacking follows keyword argument unpacking"
  | positionalAfterDoubleStarred => "positional argument follows keyword argument unpacking"
  | positionalAfterKeyword => "positional argument follows keyword argument"
  | missingDefault => "expected default value expression"
  | defaultBeforeNone => "non-default argument follows default argument"
  | parenthesizedParameters => "Lambda expression parameters cannot be parenthesized"
  | leadingSlash => "at least one argument must precede /"
  | repeatedSlash => "/ may appear only once"
  | slashAfterStar => "/ must be ahead of *"
  | missingCommaAfterSlash => "expected comma between / and *"
  | nothingAfterStar => "named arguments must follow bare *"
  | defaultOfStarred => "var-positional argument cannot have default value"
  | repeatedStar => "* argument may appear only once"
  | defaultOfDoubleStarred => "var-keyword argument cannot have default value"
  | parameterAfterDoubleStarred => "arguments cannot follow var-keyword argument"
  | template cause => cause.message
  | inTemplate problem => "f-string: " ++ problem.message

/-- The constants that cannot be keys. -/
inductive Collection
  | set
  | dictionary
deriving DecidableEq, Repr

/-- Why an argument is refused. -/
inductive Refusal
  /-- It is no expression. -/
  | problem (p : Problem)
  | nullCharacter
  | notConstant
  /-- A dictionary takes in the entries of another. -/
  | unpackedEntries
  /-- An integer that is added to an imaginary number is beyond the finite doubles. -/
  | beyondDoubles
  | notKey (c : Collection)
deriving DecidableEq, Repr

/-- The name of a collection. -/
def Collection.name : Collection → String
  | set => "set"
  | dictionary => "dict"

/-- What is said when an argument is refused. -/
def Refusal.message : Refusal → String
  | problem p => p.message
  | nullCharacter => "source code string cannot contain null bytes"
  | notConstant => "malformed node or string"
  | unpackedEntries => "malformed node or string: None"
  | beyondDoubles => "int too large to convert to float"
  | notKey c => "unhashable type: '" ++ c.name ++ "'"

end Walkthrough.Expression
