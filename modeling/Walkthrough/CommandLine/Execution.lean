import Walkthrough.CommandLine.Arguments
import Walkthrough.Run
import Walkthrough.Terminal.Markup
import Walkthrough.Terminal.Table

/-!
# Commands

The lines of a run go to standard output, without the sequences that control a terminal. All that
is said about a run, and the table of steps, goes to standard error, on a terminal that is 80
cells wide.

A command ends with exit code zero, with one if a step is unknown or something went wrong, and with
two if its arguments are wrong; then nothing of it has been done.

## Main definitions

* `CommandLine.Output` — what a command prints and how it ends
* `CommandLine.printed` — marked-up text as it appears on standard error
* `CommandLine.stepTable` — the table of steps
* `CommandLine.execute` — carries out a command
-/

namespace Walkthrough.CommandLine

open Terminal

/-- Why a command failed. -/
inductive Problem
  | usage (e : UsageError)
  | fault (f : Fault)
deriving DecidableEq

/-- What a command prints and how it ends. -/
structure Output where
  exit : Nat
  stdout : String := ""
  stderr : String := ""
  problem : Option Problem := none
deriving DecidableEq

/-- The width of the terminal. -/
def terminalWidth : Nat := 80

/-- Lines, each with a line feed behind it. -/
def unlines (lines : List (List Char)) : String :=
  String.ofList (lines.flatMap (· ++ ['\n']))

/-- Marked-up text as it appears on the terminal. -/
def printed (markup : String) : Except Fault String := do
  let text ← readMarkup markup.toList
  text.checkStyles (staysWhole terminalWidth .fold text.chars)
  return unlines ((wrap terminalWidth .fold text.chars).map (truncate terminalWidth .fold))

/-- Whether a character may stand between the start of a terminal sequence and its last letter. -/
def isParameter (c : Char) : Bool := c.isDigit || c == ';' || c == '?'

/-- Text without the sequences that control a terminal: an escape, a bracket, parameters and a
letter. The first argument bounds the number of characters. -/
def withoutSequences : Nat → List Char → List Char
  | 0, cs => cs
  | _ + 1, [] => []
  | fuel + 1, c :: rest =>
    if c = '\x1b' ∧ rest.head? = some '[' then
      match (rest.drop 1).dropWhile isParameter with
      | letter :: after =>
        if letter.isAlpha then withoutSequences fuel after else c :: withoutSequences fuel rest
      | [] => c :: withoutSequences fuel rest
    else c :: withoutSequences fuel rest

/-- A line as it appears on standard output. -/
def echoed (line : String) : List Char := withoutSequences line.length line.toList ++ ['\n']

/-- Text with line feeds in place of carriage returns followed by line feeds. -/
def withLineFeeds : List Char → List Char
  | '\r' :: '\n' :: rest => '\n' :: withLineFeeds rest
  | c :: rest => c :: withLineFeeds rest
  | [] => []

/-! ### The table of steps -/

/-- A value in a cell of a table: a text, or nothing. -/
def cellText (s : Store) : Value → Except Fault (List Char)
  | .text t => .ok t.toList
  | .null => .ok []
  | v => .error (.notRenderable (s.kind v))

/-- The cells of a step: its order, its name and its description, marked up. -/
def stepCells (s : Store) (e : Record) : Except Fault (List Char × List Char × List Char) := do
  let order ← s.sentence (← s.field e "order")
  let name ← s.field e "name"
  let description ← s.field e "description"
  return (order.toList, ← cellText s name, ← cellText s description)

/-- The columns of the table of steps. -/
def stepColumns (orders names descriptions : List (List Char)) : List Column :=
  [{ heading := "#".toList, alignment := .right, cells := orders },
   { heading := "Name".toList, leastWidth := 10, cells := names },
   { heading := "Description".toList, leastWidth := 30, cells := descriptions }]

/-- The table of steps, given the marked-up cells of each. All cells are read, column by column,
before the styles in them are looked up. -/
def stepTable (rows : List (List Char × List Char × List Char)) : Except Fault String := do
  let orders ← (rows.map (·.1)).mapM readMarkup
  let names ← (rows.map (·.2.1)).mapM readMarkup
  let descriptions ← (rows.map (·.2.2)).mapM readMarkup
  let columns := stepColumns (orders.map (·.chars)) (names.map (·.chars))
    (descriptions.map (·.chars))
  for cells in orders.zip (names.zip descriptions) do
    for (text, width) in [cells.1, cells.2.1, cells.2.2].zip (textWidths terminalWidth columns) do
      text.checkStyles (staysWhole width .ellipsis text.chars)
  return unlines (table terminalWidth "Demo Steps".toList columns)

/-- Lists the steps. -/
def executeList (s : Store) (steps : List Record) : Output :=
  match s.listSteps steps >>= List.mapM (stepCells s) with
  | .error f => { exit := 1, problem := some (.fault f) }
  | .ok rows =>
    match stepTable rows with
    | .error f => { exit := 1, stderr := "\n", problem := some (.fault f) }
    | .ok table => { exit := 0, stderr := "\n" ++ table ++ "\n" }

/-! ### Runs -/

/-- Texts joined with a comma and a space; `index` is that of the first. -/
def joinNames (s : Store) (index : Nat) : List Value → Except Fault (List String)
  | [] => .ok []
  | .text t :: rest => do return t :: (← joinNames s (index + 1) rest)
  | v :: _ => .error (.notText index (s.kind v))

/-- What is said about an unknown step, before it is printed. -/
def unknownStepMarkup (s : Store) (steps : List Record) (step : String) : Except Fault String := do
  let listed ← s.listSteps steps
  let names ← joinNames s 0 (← listed.mapM fun e => s.field e "name")
  return "[red]Unknown step: " ++ step ++ "[/red]. Choose: " ++ commaSeparated names

/-- Reports an unknown step. -/
def reportUnknownStep (s : Store) (steps : List Record) (step : String) : Output :=
  match unknownStepMarkup s steps step >>= printed with
  | .error f => { exit := 1, problem := some (.fault f) }
  | .ok text => { exit := 1, stderr := text }

/-- Whether the step that is asked for is unknown; an empty name asks for all steps. -/
def unknownStep? (s : Store) (steps : List Record) : Option String → Except Fault (Option String)
  | none => .ok none
  | some "" => .ok none
  | some step => do
    match ← s.findStep (.text step) steps with
    | none => return some step
    | some _ => return none

/-- What is said at the beginning of a verbose run, before it is printed. -/
def openingMarkup (step : Option String) : String :=
  let subject := match step with
    | none | some "" => "all steps"
    | some step => step
  "[bold]Running " ++ subject ++ "[/bold]"

/-- The lines that a trace puts on standard output. -/
def Trace.stdout (t : Trace) : String :=
  String.ofList (withLineFeeds (t.events.flatMap fun event =>
    match event with
    | .emit line => echoed line
    | .progress _ => []))

/-- The announcements that a trace puts on standard error. -/
def Trace.stderr (t : Trace) : String :=
  String.join (t.events.filterMap fun event =>
    match event with
    | .emit _ => none
    | .progress text => some text)

/-- The settings that a run is given. -/
def RunOptions.settings (options : RunOptions) : Literal :=
  .settings [("count", .int options.count), ("name", .text options.name)]

/-- Runs steps that are known, after an opening has been printed. -/
def executeKnown (s : Store) (steps : List Record) (options : RunOptions) (opening : String) :
    Output × Store :=
  match options.settings.build [] s with
  | .error f => ({ exit := 1, problem := some (.fault f) }, s)
  | .ok (settings, s) =>
    let listener : Listener := { progress := if options.verbose then some printed else none }
    let only := match options.step with
      | some step => Value.text step
      | none => .null
    let trace := s.run listener steps settings only
    let problem := match trace.outcome with
      | .ok _ => none
      | .error f => some (.fault f)
    ({ exit := if problem.isSome then 1 else 0
       stdout := Trace.stdout trace
       stderr := opening ++ Trace.stderr trace
       problem }, trace.store)

/-- Runs steps. -/
def executeRun (s : Store) (steps : List Record) (options : RunOptions) : Output × Store :=
  match unknownStep? s steps options.step with
  | .error f => ({ exit := 1, problem := some (.fault f) }, s)
  | .ok (some step) => (reportUnknownStep s steps step, s)
  | .ok none =>
    match if options.verbose then printed (openingMarkup options.step) else .ok "" with
    | .error f => ({ exit := 1, problem := some (.fault f) }, s)
    | .ok opening => executeKnown s steps options opening

/-- Carries out the command that arguments ask for. -/
def execute (s : Store) (steps : List Record) (arguments : List String) : Output × Store :=
  match parse arguments with
  | .error e => ({ exit := 2, problem := some (.usage e) }, s)
  | .ok .list => (executeList s steps, s)
  | .ok (.run options) => executeRun s steps options
  | .ok .help => ({ exit := 0 }, s)

end Walkthrough.CommandLine
