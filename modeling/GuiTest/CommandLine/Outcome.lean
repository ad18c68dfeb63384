import GuiTest.Json.Printer

/-!
# Outcomes

What a run of the program leaves behind: its two outputs, its exit code, and the time that it
waited.
-/

namespace GuiTest.CommandLine

/-- Why a run failed. -/
inductive Failure where
  | refused
  | checkFailed (message : String)
  | invalidInput (message : String)
  | notFound (message : String)
  deriving DecidableEq, Repr

/-- How to call the program. -/
def usage : String :=
  "usage: vsui [-f|--format text|json] <command>

commands:
  check-map <map>
  find <map> <snapshot> <name> [-c|--context <name>] [-o|--timeout <ms>]
  expect <template> -w|--workdir <directory> [-p|--project <name>] [--cmake] [--no-x64]
         [--check] [--ide-version <version>]
  env
"

namespace Failure

/-- The exit code. -/
def exitCode : Failure → Nat
  | refused => 2
  | checkFailed _ => 1
  | invalidInput _ => 2
  | notFound _ => 3

/-- What is said about the failure. -/
def text : Failure → String
  | refused => usage
  | checkFailed message => "Error: Check failed: " ++ message ++ "\n"
  | invalidInput message => "Error: Invalid input: " ++ message ++ "\n"
  | notFound message => "Error: Not found: " ++ message ++ "\n"

end Failure

/-- What a run leaves behind. `notes` are what it says besides its results and its failure; the time
is in nanoseconds. -/
structure Outcome where
  output : String := ""
  notes : String := ""
  failure : Option Failure := none
  waited : Nat := 0
  deriving DecidableEq, Repr

namespace Outcome

/-- The exit code. -/
def exitCode (o : Outcome) : Nat :=
  match o.failure with
  | some f => f.exitCode
  | none => 0

/-- What is written to the output for errors. -/
def errorOutput (o : Outcome) : String :=
  match o.failure with
  | some f => o.notes ++ f.text
  | none => o.notes

/-- A failure without any output. -/
def failed (f : Failure) : Outcome := { failure := some f }

/-- Lines as output. -/
def ofLines (lines : List String) : Outcome := { output := String.join (lines.map (· ++ "\n")) }

/-- A JSON value as output, with its names in order. -/
def ofJson (v : Json.Value) : Outcome := ofLines [v.sorted.pretty]

end Outcome

end GuiTest.CommandLine
