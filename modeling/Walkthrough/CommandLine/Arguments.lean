import Walkthrough.CommandLine.Suggestion
import Walkthrough.Record
import Walkthrough.Text.Integer
import Walkthrough.Text.Quoted

/-!
# Arguments of the command line

The first argument names a command, and options follow. An option with two dashes may have its value
after an equals sign, an option with one dash may have it attached, and both may have it as the next
argument, whatever that looks like. Options with one dash and without a value may stand together
behind one dash. Two dashes alone end the options.

Arguments are read from left to right, and the first that cannot be read decides what is reported.
Only then is the text of a number read, and only then are superfluous arguments reported.

## Main definitions

* `CommandLine.UsageError`, `CommandLine.UsageError.message` — what can be wrong with arguments
* `CommandLine.Grammar`, `CommandLine.scan` — reading options
* `CommandLine.Command`, `CommandLine.parse` — the command that arguments ask for
-/

namespace Walkthrough.CommandLine

open Text

/-- What can be wrong with arguments. -/
inductive UsageError
  | missingCommand
  | unknownCommand (name : String)
  | unknownOption (name : String) (suggested : List String)
  | missingValue (option : String)
  | unexpectedValue (option : String)
  | notInteger (option text : String)
  | superfluous (arguments : List String)
deriving DecidableEq, Repr

/-- What is reported. -/
def UsageError.message : UsageError → String
  | .missingCommand => "Missing command."
  | .unknownCommand name => "No such command " ++ quote name ++ "."
  | .unknownOption name suggested =>
    "No such option: " ++ name ++
      (match suggested with
      | [] => ""
      | [one] => " Did you mean " ++ one ++ "?"
      | several => " (Possible options: " ++ ", ".intercalate several ++ ")")
  | .missingValue option => "Option " ++ quote option ++ " requires an argument."
  | .unexpectedValue option => "Option " ++ quote option ++ " does not take a value."
  | .notInteger option text =>
    "Invalid value for " ++ quote option ++ ": " ++ quote text ++ " is not a valid integer."
  | .superfluous arguments =>
    "Got unexpected extra argument" ++ (if arguments.length = 1 then "" else "s") ++ " (" ++
      " ".intercalate arguments ++ ")"

/-- The options. -/
inductive Switch
  | step
  | name
  | count
  | verbose
  | help
  | installCompletion
  | showCompletion
deriving DecidableEq, Repr

/-- Whether an option has a value. -/
def Switch.takesValue : Switch → Bool
  | .step | .name | .count => true
  | _ => false

/-- The spellings of the options of a command. -/
structure Grammar where
  long : List (String × Switch)
  short : List (Char × Switch) := []
  /-- Whether options may follow other arguments. -/
  interspersed : Bool := true

/-- The options before the command. -/
def Grammar.outer : Grammar :=
  { long := [("--install-completion", .installCompletion), ("--show-completion", .showCompletion),
      ("--help", .help)]
    interspersed := false }

/-- The options of the command that lists the steps. -/
def Grammar.list : Grammar := { long := [("--help", .help)] }

/-- The options of the command that runs steps. -/
def Grammar.run : Grammar :=
  { long := [("--step", .step), ("--name", .name), ("--count", .count), ("--verbose", .verbose),
      ("--help", .help)]
    short := [('s', .step), ('v', .verbose)] }

/-- An option as it was given; one without a value has the empty text. -/
abbrev Given := Switch × String

/-- Arguments that have been read: the options in order, and the other arguments. -/
structure Scan where
  given : List Given := []
  others : List String := []
deriving DecidableEq, Repr

/-- The scan with options in front. -/
def Scan.after (options : List Given) (rest : Scan) : Scan :=
  { rest with given := options ++ rest.given }

/-- What an option argument holds: options, and perhaps one at the end that wants the next argument
as its value, as it was spelled. -/
structure Reading where
  given : List Given := []
  wanting : Option (Switch × String) := none

/-- Reads the options behind one dash. What follows an option with a value is its value. -/
def readShort (g : Grammar) : List Char → Except UsageError Reading
  | [] => .ok {}
  | c :: rest =>
    match g.short.lookup c with
    | none => .error (.unknownOption (String.ofList ['-', c]) [])
    | some switch =>
      if switch.takesValue then
        if rest.isEmpty then .ok { wanting := some (switch, String.ofList ['-', c]) }
        else .ok { given := [(switch, String.ofList rest)] }
      else
        match readShort g rest with
        | .error e => .error e
        | .ok later => .ok { later with given := (switch, "") :: later.given }

/-- Reads an option with a long spelling and, if there is one, the value after an equals sign. -/
def readLong (spelling : String) (switch : Switch) (value : Option String) :
    Except UsageError Reading :=
  match switch.takesValue, value with
  | true, some v => .ok { given := [(switch, v)] }
  | true, none => .ok { wanting := some (switch, spelling) }
  | false, some _ => .error (.unexpectedValue spelling)
  | false, none => .ok { given := [(switch, "")] }

/-- The text before the first equals sign, and what follows the sign. -/
def splitValue (cs : List Char) : String × Option String :=
  (String.ofList (cs.takeWhile (· ≠ '=')),
    match cs.dropWhile (· ≠ '=') with
    | [] => none
    | _ :: value => some (String.ofList value))

/-- Reads an argument that looks like options. -/
def readOption (g : Grammar) (argument : String) : Except UsageError Reading :=
  let cs := argument.toList
  let (spelling, value) := splitValue cs
  match g.long.lookup spelling with
  | some switch => readLong spelling switch value
  | none =>
    match cs with
    | '-' :: '-' :: _ =>
      .error (.unknownOption spelling (suggestions spelling (g.long.map (·.1))))
    | _ => readShort g (cs.drop 1)

/-- Whether an argument looks like options: a dash and something behind it. -/
def looksLikeOption (argument : String) : Bool :=
  match argument.toList with
  | '-' :: _ :: _ => true
  | _ => false

/-- Reads arguments from left to right. -/
def scan (g : Grammar) : List String → Except UsageError Scan
  | [] => .ok {}
  | argument :: rest =>
    if argument = "--" then .ok { others := rest }
    else if looksLikeOption argument then
      match readOption g argument with
      | .error e => .error e
      | .ok ⟨given, none⟩ => (scan g rest).map (.after given)
      | .ok ⟨given, some (switch, spelling)⟩ =>
        match rest with
        | [] => .error (.missingValue spelling)
        | value :: rest => (scan g rest).map (.after (given ++ [(switch, value)]))
    else if g.interspersed then
      (scan g rest).map fun later => { later with others := argument :: later.others }
    else .ok { others := argument :: rest }

/-- The last value given to an option. -/
def Scan.last? (s : Scan) (switch : Switch) : Option String :=
  s.given.reverse.lookup switch

/-- Whether help or completion is asked for. -/
def Scan.asksHelp (s : Scan) : Bool :=
  s.given.any fun given => given.1 == .help || given.1 == .installCompletion ||
    given.1 == .showCompletion

/-- What a run is asked to do. -/
structure RunOptions where
  step : Option String := none
  name : String := Settings.defaultName
  count : Int := Settings.defaultCount
  verbose : Bool := false
deriving DecidableEq, Repr

/-- The commands. -/
inductive Command
  | list
  | run (options : RunOptions)
  | help
deriving DecidableEq, Repr

/-- The count that a run is given. -/
def Scan.count (s : Scan) : Except UsageError Int :=
  match s.last? .count with
  | none => .ok Settings.defaultCount
  | some text =>
    match Integer.read? text with
    | some n => .ok n
    | none => .error (.notInteger "--count" text)

/-- Refuses arguments that are no options. -/
def Scan.checkOthers (s : Scan) : Except UsageError Unit :=
  if s.others.isEmpty then .ok () else .error (.superfluous s.others)

/-- Reads the arguments of the command that lists the steps. -/
def parseList (arguments : List String) : Except UsageError Command := do
  let s ← scan .list arguments
  if s.asksHelp then return .help
  s.checkOthers
  return .list

/-- Reads the arguments of the command that runs steps. -/
def parseRun (arguments : List String) : Except UsageError Command := do
  let s ← scan .run arguments
  if s.asksHelp then return .help
  let count ← s.count
  s.checkOthers
  return .run
    { step := s.last? .step
      name := (s.last? .name).getD Settings.defaultName
      count
      verbose := (s.last? .verbose).isSome }

/-- The command that arguments ask for. A name that is no command, and looks like an option, is
reported as an option. -/
def parse (arguments : List String) : Except UsageError Command := do
  if arguments.isEmpty then return .help
  let s ← scan .outer arguments
  if s.asksHelp then return .help
  match s.others with
  | [] => .error .missingCommand
  | "list" :: rest => parseList rest
  | "run" :: rest => parseRun rest
  | name :: rest =>
    let _ ← scan .outer (name :: rest)
    .error (.unknownCommand name)

end Walkthrough.CommandLine
