import Walkthrough.Program

/-!
# The command line

Carries out one command in a new program and hands what it prints to the standard streams. What went
wrong, if anything did, is told last on standard error.
-/

open Walkthrough in
/-- Runs the command that the arguments ask for, and ends with its exit code. -/
def main (arguments : List String) : IO UInt32 := do
  match (Program.perform {} (.command arguments)).1 with
  | .command exit stdout stderr problem =>
    IO.eprint stderr
    IO.print stdout
    match problem with
    | some (.usage e) => IO.eprintln ("Error: " ++ e.message)
    | some (.fault r) => IO.eprintln ("Error: " ++ r.message)
    | none => pure ()
    return exit.toUInt32
  | _ => return 1
