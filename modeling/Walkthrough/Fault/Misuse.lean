import Walkthrough.Arity
import Walkthrough.Fault.Category
import Walkthrough.Fault.Misformat
import Walkthrough.Text.Listing
import Walkthrough.Text.Quoted

/-!
# Misuse of operations

An operation may be asked for with too few or too many arguments, with an argument that it cannot
take, or on a value that it cannot be carried out on. Each such cause has its wording here.

## Main definitions

* `Misuse` — the causes
* `Misuse.category`, `Misuse.message` — what sort of mistake a cause is, and what is said
-/

namespace Walkthrough

/-- The ways of dividing. -/
inductive Division
  | exact
  | whole
  | remainder
  | both
deriving DecidableEq, Repr

/-- What a real number that is not finite cannot become. -/
inductive Exactness
  | integer
  | ratio
deriving DecidableEq, Repr

/-- The sizes that an integer may have to fit. -/
inductive Word
  | index
  | int
  | long
deriving DecidableEq, Repr

/-- What is done at an index. -/
inductive Indexing
  | reading
  | writing
  | taking
deriving DecidableEq, Repr

/-- Why an operation cannot be carried out. -/
inductive Misuse
  /-- An operation of a kind was given a wrong number of arguments. -/
  | wrongArity (k : Kind) (operation : String) (arity : Arity) (given : Nat)
  /-- An operation of records was given more arguments than it takes. -/
  | surplusArguments (k : Kind) (operation : String) (taken given : Nat)
  /-- An operation of records was not given all its arguments. -/
  | missingArguments (k : Kind) (operation : String) (names : List String)
  /-- A member was asked for without a value. -/
  | noOwner (k : Kind) (member : String)
  /-- A member was asked for with a value of another kind. -/
  | foreignOwner (k : Kind) (member : String) (given : Kind)
  /-- A sign or a notion was asked for with a value of another kind. -/
  | foreignOperand (k : Kind) (member : String) (given : Kind)
  /-- A member was asked for with nothing. -/
  | nothingBound
  /-- Values of a kind are not made on demand. -/
  | notMade (k : Kind)
  /-- A value of a kind is made from nothing else. -/
  | madeFromNothing (k : Kind)
  /-- The kind of nothing was asked for. -/
  | kindOfNothing
  /-- A value of a kind cannot be made from one of another. -/
  | notMadeFrom (k given : Kind)
  /-- Making a value was asked for without a kind. -/
  | newWithoutKind (k : Kind)
  /-- Making a value was asked for with a value in place of a kind. -/
  | newOfValue (k given : Kind)
  /-- Making a value was asked for with a kind that does not extend the one that makes it. -/
  | newOfOther (k other : Kind)
  /-- Making a value was asked for with a kind that makes its values itself. -/
  | newElsewhere (k other : Kind)
  /-- A value stands where a kind is needed. -/
  | notClass
  /-- An argument of an operation is no text. -/
  | textNeeded (operation : String) (given : Kind)
  /-- What is sought is no text. -/
  | soughtNotText (given : Kind)
  /-- What separates pieces is no text. -/
  | separatorNotText (given : Kind)
  | emptySeparator
  /-- What is to be taken off is no text. -/
  | stripNotText (operation : String)
  /-- What a text may begin or end with is no text. -/
  | affixNotText (operation : String) (given : Kind)
  /-- One of several texts that a text may begin or end with is no text. -/
  | affixesNotText (operation : String) (given : Kind)
  /-- The name of a codec is no text. -/
  | codecNotText (given : Kind)
  | unknownCodec (name : String)
  /-- A codec writes something else than texts. -/
  | notTextCodec (name : String)
  /-- A codec cannot write the characters from one position to another. -/
  | notWritable (codec : String) (c : Char) (first last : Nat) (limit : Nat)
  | notJoinable
  | absentText
  /-- A sequence and a value of another kind cannot be put together. -/
  | notConcatenable (k given : Kind)
  /-- Something other than a text is sought in a text. -/
  | notContainable (given : Kind)
  | attributeNotText (given : Kind)
  /-- A value of a kind is no index. -/
  | badIndex (k given : Kind)
  | noIndex (k : Kind) (use : Indexing)
  | takingFromEmpty
  /-- An integer is too large for an index. -/
  | indexTooLarge
  /-- An integer is too large for a number of repetitions. -/
  | countTooLarge
  /-- An integer is too large for a word. -/
  | wordTooLarge (w : Word)
  | repeatedTooLong
  | outOfMemory
  | notSubscriptable (given : Kind)
  /-- What characters are to be replaced by is no dictionary. -/
  | tableNotDictionary
  | tableKeyNotText
  | tableKeyTooLong
  | badTranslation
  | translationTooLarge
  /-- A value is not found in a list or a progression; its text. -/
  | absentValue (k : Kind) (shown : String)
  /-- A value is not found in a tuple. -/
  | absentFromTuple
  /-- A value that is no integer is not found in a progression. -/
  | absentFromSequence
  /-- A value that is to be removed is not found. -/
  | notRemovable
  /-- An element of a sequence of entries is no sequence. -/
  | entryNotSequence (index : Nat)
  /-- An element of a sequence of entries does not have two parts. -/
  | entryLength (index length : Nat)
  | exhausted
  /-- The position of a walk is no integer. -/
  | stateNotInteger
  | notPicklable (k : Kind)
  | unsupportedFormat (k : Kind)
  | dividedByZero (isReal : Bool) (d : Division)
  | zeroToNegative
  | quotientTooLarge
  | powerTooLarge
  | roundedTooLarge
  | negativeShift
  | shiftTooLarge
  | notFinite (isNan : Bool) (wanted : Exactness)
  | negativeLength
  | negativeToBytes
  | tooBigForBytes
  | notBytes (given : Kind)
  | byteTooLarge
  | hexNotText
  | badHexNumeral
  | hexTooLarge
  | unknownFormat
  /-- The kind of a value cannot be taken away. -/
  | classNotRemovable
  /-- A property of an operation of records must hold a value of a kind. -/
  | wrongProperty (name : String) (k : Kind)
  /-- A text asks for values to be put into it in a way that cannot be followed. -/
  | format (m : Misformat)
deriving DecidableEq, Repr

/-- The word for a kind where an argument is told: nothing is told by its own name. -/
def Kind.argumentName : Kind → String
  | .null => "None"
  | k => k.name

/-- The word for a word. -/
def Word.name : Word → String
  | .index => "ssize_t"
  | .int => "int"
  | .long => "long"

/-- What is said about a division by zero. -/
def Division.message : Bool → Division → String
  | false, .exact => "division by zero"
  | false, .remainder => "integer modulo by zero"
  | false, _ => "integer division or modulo by zero"
  | true, .exact => "float division by zero"
  | true, .whole => "float floor division by zero"
  | true, .remainder => "float modulo"
  | true, .both => "float divmod()"

/-- What is said about a wrong number of arguments. -/
def Arity.message (k : Kind) (operation : String) (given : Nat) : Arity → String
  | .free | .optional => ""
  | .exactly n => "expected " ++ counted n "argument" ++ ", got " ++ toString given
  | .bare least most =>
    (if least = most then " expected " else " expected at least ") ++ counted least "argument" ++
      ", got " ++ toString given
  | .none =>
    k.name ++ "." ++ operation ++ "() takes no arguments (" ++ toString given ++ " given)"
  | .one =>
    k.name ++ "." ++ operation ++ "() takes exactly one argument (" ++ toString given ++ " given)"
  | .named least most =>
    operation ++ (if least = most then " expected " else " expected at least ") ++
      counted least "argument" ++ ", got " ++ toString given
  | .called => operation ++ "() takes at least 1 argument (" ++ toString given ++ " given)"
  | .required argument position =>
    operation ++ "() missing required argument '" ++ argument ++ "' (pos " ++
      toString position ++ ")"
  | .byName => operation ++ "() takes no positional arguments"

namespace Misuse

/-- The sort of mistake that a cause is. -/
def category : Misuse → Fault.Category
  | unknownCodec _ | notTextCodec _ => .codec
  | notWritable _ _ _ _ _ => .encoding
  | noIndex _ _ | takingFromEmpty | indexTooLarge => .index
  | countTooLarge | wordTooLarge _ | repeatedTooLong | quotientTooLarge | powerTooLarge
  | roundedTooLarge | shiftTooLarge | negativeToBytes | tooBigForBytes | hexTooLarge => .overflow
  | outOfMemory => .memory
  | emptySeparator | absentText | tableKeyTooLong | translationTooLarge | absentValue _ _
  | absentFromTuple | absentFromSequence | notRemovable | entryLength _ _ | negativeShift
  | negativeLength | byteTooLarge | badHexNumeral | unknownFormat => .value
  | exhausted => .exhaustion
  | dividedByZero _ _ | zeroToNegative => .division
  | notFinite isNan _ => if isNan then .value else .overflow
  | format m => m.category
  | _ => .kind

/-- What is said about a number of arguments that records do not take. -/
def surplusMessage (k : Kind) (operation : String) (taken given : Nat) : String :=
  k.name ++ "." ++ operation ++ "() takes " ++ counted taken "positional argument" ++ " but " ++
    toString given ++ (if given = 1 then " was given" else " were given")

/-- What is said about characters that a codec cannot write. -/
def notWritableMessage (codec : String) (c : Char) (first last limit : Nat) : String :=
  "'" ++ codec ++ "' codec can't encode " ++
    (if first = last then
      let cs := if c.toNat < 0x100 then '\\' :: 'x' :: Text.hex 2 c.toNat
        else if c.toNat < 0x10000 then '\\' :: 'u' :: Text.hex 4 c.toNat
        else '\\' :: 'U' :: Text.hex 8 c.toNat
      "character '" ++ String.ofList cs ++ "' in position " ++ toString first
    else "characters in position " ++ toString first ++ "-" ++ toString last) ++
    ": ordinal not in range(" ++ toString limit ++ ")"

/-- What is said about making a value of a kind. -/
def newMessage (k : Kind) : String := k.name ++ ".__new__("

/-- What is said about a cause. -/
def message : Misuse → String
  | wrongArity k operation arity given => arity.message k operation given
  | surplusArguments k operation taken given => surplusMessage k operation taken given
  | missingArguments k operation names =>
    Walkthrough.missingArguments (k.name ++ "." ++ operation) names
  | noOwner k member =>
    if k.nature? member = some .special then
      "descriptor '" ++ member ++ "' of '" ++ k.name ++ "' object needs an argument"
    else "unbound method " ++ k.name ++ "." ++ member ++ "() needs an argument"
  | foreignOwner k member given =>
    "descriptor '" ++ member ++ "' for '" ++ k.name ++ "' objects doesn't apply to a '" ++
      given.name ++ "' object"
  | foreignOperand k member given =>
    "descriptor '" ++ member ++ "' requires a '" ++ k.name ++ "' object but received a '" ++
      given.name ++ "'"
  | nothingBound => "__get__(None, None) is invalid"
  | notMade k => "cannot create '" ++ k.name ++ "' instances"
  | madeFromNothing k =>
    k.name ++ (if k = .object then "() takes no arguments" else " takes no arguments")
  | kindOfNothing => "type() takes 1 or 3 arguments"
  | notMadeFrom k given =>
    k.name ++ "() argument must be a string" ++
      (if k = .int then ", a bytes-like object" else "") ++ " or a real number, not '" ++
      given.name ++ "'"
  | newWithoutKind k => newMessage k ++ "): not enough arguments"
  | newOfValue k given => newMessage k ++ "X): X is not a type object (" ++ given.name ++ ")"
  | newOfOther k other =>
    newMessage k ++ other.name ++ "): " ++ other.name ++ " is not a subtype of " ++ k.name
  | newElsewhere k other =>
    newMessage k ++ other.name ++ ") is not safe, use " ++ other.name ++ ".__new__()"
  | notClass => "issubclass() arg 1 must be a class"
  | textNeeded operation given =>
    operation ++ "() argument must be str, not " ++ given.argumentName
  | soughtNotText given => "must be str, not " ++ given.name
  | separatorNotText given => "must be str or None, not " ++ given.name
  | emptySeparator => "empty separator"
  | stripNotText operation => operation ++ " arg must be None or str"
  | affixNotText operation given =>
    operation ++ " first arg must be str or a tuple of str, not " ++ given.name
  | affixesNotText operation given =>
    "tuple for " ++ operation ++ " must only contain str, not " ++ given.name
  | codecNotText given => "encode() argument 'encoding' must be str, not " ++ given.argumentName
  | unknownCodec name => "unknown encoding: " ++ name
  | notTextCodec name =>
    "'" ++ name ++ "' is not a text encoding; use codecs.encode() to handle arbitrary codecs"
  | notWritable codec c first last limit => notWritableMessage codec c first last limit
  | notJoinable => "can only join an iterable"
  | absentText => "substring not found"
  | notConcatenable k given =>
    "can only concatenate " ++ k.name ++ " (not \"" ++ given.name ++ "\") to " ++ k.name
  | notContainable given => "'in <string>' requires string as left operand, not " ++ given.name
  | attributeNotText given => "attribute name must be string, not '" ++ given.name ++ "'"
  | badIndex k given =>
    if k = .text then "string indices must be integers, not '" ++ given.name ++ "'"
    else k.name ++ " indices must be integers or slices, not " ++ given.name
  | noIndex k use =>
    match use with
    | .reading =>
      (match k with
      | .text => "string"
      | .range => "range object"
      | _ => k.name) ++ " index out of range"
    | .writing => k.name ++ " assignment index out of range"
    | .taking => "pop index out of range"
  | takingFromEmpty => "pop from empty list"
  | indexTooLarge | countTooLarge => "cannot fit 'int' into an index-sized integer"
  | wordTooLarge w => "Python int too large to convert to C " ++ w.name
  | repeatedTooLong => "repeated string is too long"
  | outOfMemory => ""
  | notSubscriptable given => "'" ++ given.name ++ "' object is not subscriptable"
  | tableNotDictionary => "if you give only one argument to maketrans it must be a dict"
  | tableKeyNotText => "keys in translate table must be strings or integers"
  | tableKeyTooLong => "string keys in translate table must be of length 1"
  | badTranslation => "character mapping must return integer, None or str"
  | translationTooLarge => "character mapping must be in range(0x110000)"
  | absentValue k shown => shown ++ " is not in " ++ k.name
  | absentFromTuple => "tuple.index(x): x not in tuple"
  | absentFromSequence => "sequence.index(x): x not in sequence"
  | notRemovable => "list.remove(x): x not in list"
  | entryNotSequence index =>
    "cannot convert dictionary update sequence element #" ++ toString index ++ " to a sequence"
  | entryLength index length =>
    "dictionary update sequence element #" ++ toString index ++ " has length " ++
      toString length ++ "; 2 is required"
  | exhausted => ""
  | stateNotInteger => "an integer is required"
  | notPicklable k => "cannot pickle '" ++ k.name ++ "' object"
  | unsupportedFormat k => "unsupported format string passed to " ++ k.name ++ ".__format__"
  | dividedByZero isReal d => d.message isReal
  | zeroToNegative => "0.0 cannot be raised to a negative power"
  | quotientTooLarge => "integer division result too large for a float"
  | powerTooLarge => "(34, 'Numerical result out of range')"
  | roundedTooLarge => "rounded value too large to represent"
  | negativeShift => "negative shift count"
  | shiftTooLarge => "too many digits in integer"
  | notFinite isNan wanted =>
    match wanted with
    | .integer => "cannot convert float " ++ (if isNan then "NaN" else "infinity") ++ " to integer"
    | .ratio =>
      "cannot convert " ++ (if isNan then "NaN" else "Infinity") ++ " to integer ratio"
  | negativeLength => "length argument must be non-negative"
  | negativeToBytes => "can't convert negative int to unsigned"
  | tooBigForBytes => "int too big to convert"
  | notBytes given => "cannot convert '" ++ given.name ++ "' object to bytes"
  | byteTooLarge => "bytes must be in range(0, 256)"
  | hexNotText => "bad argument type for built-in operation"
  | badHexNumeral => "invalid hexadecimal floating-point string"
  | hexTooLarge => "hexadecimal value too large to represent as a float"
  | unknownFormat => "__getformat__() argument 1 must be 'double' or 'float'"
  | classNotRemovable => "can't delete __class__ attribute"
  | wrongProperty name k =>
    name ++ " must be set to a " ++ (if k = .text then "string" else k.name) ++ " object"
  | format m => m.message

end Misuse

end Walkthrough
