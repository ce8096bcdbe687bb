import Walkthrough.Expression.Constant
import Walkthrough.Terminal.Style

/-!
# Handlers

A tag may attach a handler to its text. Its parameters are the name of an operation, with arguments
in parentheses or without any, or an argument alone. The arguments must be constants.

## Main definitions

* `Terminal.handlerArgument` — the argument among parameters
* `Terminal.checkHandler` — whether parameters can be read
-/

namespace Walkthrough.Terminal

/-- Whether characters are arguments in parentheses on one line. -/
def areArguments (cs : List Char) : Bool :=
  cs.head? = some '(' && cs.getLast? = some ')' && 2 ≤ cs.length && '\n' ∉ cs

/-- The argument among parameters: what stands in parentheses behind the name of an operation, an
empty tuple behind the name alone, and else all of them. -/
def handlerArgument (parameters : List Char) : List Char :=
  let rest := parameters.dropWhile fun c => Text.isWordCharacter c || c = '.'
  if rest.isEmpty then ['(', ')']
  else if areArguments rest then rest
  else parameters

/-- Reads the parameters of a handler. A handler may have none. -/
def checkHandler (parameters : List Char) : Except Fault Unit :=
  if parameters.isEmpty then .ok ()
  else
    let argument := handlerArgument (strip parameters)
    (Expression.constant (argument.dropWhile fun c => c = ' ' ∨ c = '\t')).mapError
      fun refusal => .badHandler (String.ofList parameters) (String.ofList argument) refusal

end Walkthrough.Terminal
