import Walkthrough.Display

/-!
# The wording of faults

An unknown name is reported as a literal, as it stands when the report is made, so wording a fault
takes the store.

## Main definitions

* `Fault.message` — what a fault says
-/

namespace Walkthrough

/-- The constructor of a record. -/
def Kind.constructorName (k : Kind) : String := k.name ++ ".__init__"

/-- The sign of a comparison. -/
def Relation.sign : Relation → String
  | .less => "<"
  | .lessOrEqual => "<="
  | .greater => ">"
  | .greaterOrEqual => ">="

/-- What could not be done because values hold each other too deep. -/
def Descent.phrase : Descent → String
  | .unfolding => ""
  | .sorting => " in __instancecheck__"
  | .comparing => " in comparison"
  | .displaying => " while getting the repr of an object"
  | .asking => " while calling a Python object"

/-- What a fault says. -/
def Fault.message (s : Store) : Fault → String
  | .notAddable total element =>
    "unsupported operand type(s) for +=: '" ++ total.name ++ "' and '" ++ element.name ++ "'"
  | .notIterable k => "'" ++ k.name ++ "' object is not iterable"
  | .notComparable relation left right =>
    "'" ++ relation.sign ++ "' not supported between instances of '" ++ left.name ++ "' and '" ++
      right.name ++ "'"
  | .notIntegral k => "'" ++ k.name ++ "' object cannot be interpreted as an integer"
  | .notCallable k => "'" ++ k.name ++ "' object is not callable"
  | .notKey k => "unhashable type: '" ++ k.name ++ "'"
  | .unexpectedField record field =>
    record.constructorName ++ "() got an unexpected keyword argument '" ++ field ++ "'"
  | .repeatedSelf record =>
    record.constructorName ++ "() got multiple values for argument 'self'"
  | .missingFields record fields => missingArguments record.constructorName fields
  | .missingName => missingArguments "say_hello" ["name"]
  | .progressionArity given =>
    if given = 0 then "range expected at least 1 argument, got 0"
    else "range expected at most 3 arguments, got " ++ toString given
  | .zeroStep => "range() arg 3 must not be zero"
  | .notNumeral text => "could not convert string to float: " ++ Text.quote text
  | .notNumber text =>
    "invalid literal for int() with base 10: " ++ ((Text.quote text).take 200).toString
  | .numeralTooLong digits =>
    "Exceeds the limit (4300 digits) for integer string conversion: value has " ++
      toString digits ++ " digits; use sys.set_int_max_str_digits() to increase the limit"
  | .noAttribute k name => "'" ++ k.name ++ "' object has no attribute '" ++ name ++ "'"
  | .readOnlyAttribute k name =>
    "'" ++ k.name ++ "' object attribute '" ++ name ++ "' is read-only"
  | .noKindAttribute k name => "type object '" ++ k.name ++ "' has no attribute '" ++ name ++ "'"
  | .fixedProperty k name =>
    "attribute '" ++ name ++ "' of '" ++ k.name ++ "' objects is not writable"
  | .fixedPart => "readonly attribute"
  | .fixedClass =>
    "__class__ assignment only supported for mutable types or ModuleType subclasses"
  | .fixedKind k name =>
    "cannot set '" ++ name ++ "' attribute of immutable type '" ++ k.name ++ "'"
  | .notKind k => "__class__ must be set to a class, not '" ++ k.name ++ "' object"
  | .notDictionary k => "__dict__ must be set to a dictionary, not a '" ++ k.name ++ "'"
  | .misuse m => m.message
  | .unknownName name =>
    match s.display name with
    | .ok text => text
    | .error _ => "..."
  | .beyondDoubles => "int too large to convert to float"
  | .tooManyDigits =>
    "Exceeds the limit (4300 digits) for integer string conversion; " ++
      "use sys.set_int_max_str_digits() to increase the limit"
  | .emitFailed => "emit failed"
  | .changedWhileWalked => "dictionary changed size during iteration"
  | .tooDeep descent => "maximum recursion depth exceeded" ++ descent.phrase
  | .notText index k =>
    "sequence item " ++ toString index ++ ": expected str instance, " ++ k.name ++ " found"
  | .notRenderable k =>
    "unable to render " ++ k.name ++ "; a string or other renderable object is required"
  | .unmatchedTag tag position =>
    "closing tag '" ++ tag ++ "' at position " ++ toString position ++
      " doesn't match any open tag"
  | .nothingToClose position =>
    "closing tag '[/]' at position " ++ toString position ++ " has nothing to close"
  | .badHandler parameters argument refusal =>
    "error parsing " ++
      (match refusal with
      | .problem _ => Text.quote argument ++ " in "
      | _ => "") ++
      Text.quote parameters ++ "; " ++ refusal.message

end Walkthrough
