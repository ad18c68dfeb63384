import GuiTest.Application.Context
import GuiTest.CommandLine.Argument
import GuiTest.Files.Path
import GuiTest.Project.Template
import GuiTest.Suite.Settings

/-!
# Invocations

What arguments and environment ask for. Arguments are refused as a whole: there is no invocation if
one of them is unknown, missing, repeated or of no use. An environment variable may stand in for an
option that is not given, and is refused like the option if its value is of no use.

Two things that the program can be asked for are left out, since they only print texts about its
arguments: help, and the completions for a shell. To ask for them counts as an unknown argument.
-/

namespace GuiTest.CommandLine

/-- How results are written. -/
inductive OutputFormat where
  | text
  | json
  deriving DecidableEq, Repr

/-- The format of a name. -/
def OutputFormat.ofName? (name : String) : Option OutputFormat :=
  if name = "text" then some .text
  else if name = "json" then some .json
  else none

/-- A locator to be found in a snapshot, within a time in milliseconds. -/
structure FindRequest where
  map : Path
  snapshot : Path
  name : String
  context : String
  timeout : UInt64
  deriving DecidableEq, Repr

/-- A project whose expectations are asked for, and whether to look for its files. Without a name it
has the first one that the wizard proposes. -/
structure ExpectRequest where
  template : String
  workdir : Path
  project : Option String
  buildSystem : BuildSystem
  x64 : Bool
  check : Bool
  ideVersion : Option UInt32
  deriving DecidableEq, Repr

/-- What is to be done. -/
inductive Command where
  | checkMap (map : Path)
  | find (request : FindRequest)
  | expect (request : ExpectRequest)
  | env
  deriving DecidableEq, Repr

/-- What arguments ask for. -/
inductive Invocation where
  | version
  | run (command : Command) (format : OutputFormat)
  deriving DecidableEq, Repr

/-- The variable that stands in for the timeout. -/
def timeoutVariable : String := "VSUI_TIMEOUT"

/-- The path of a text, which must not be empty. -/
def path? (text : String) : Option Path := if text = "" then none else some (.ofText text)

/-- Reads a number of 64 bits, perhaps with a plus sign. -/
def number64? (text : String) : Option UInt64 :=
  let digits := match text.toList with | '+' :: rest => rest | all => all
  if digits ≠ [] ∧ digits.all Char.isDigit then
    let n := Json.Number.ofDigits digits
    if n < UInt64.size then some (UInt64.ofNat n) else none
  else none

/-- Reads the value of an option, or that of the variable that stands in for it. The outer answer is
nothing if there is a value that cannot be read. -/
def readValue {α : Type} (read : String → Option α) (given : Option String)
    (stored : Option (List UInt8)) : Option (Option α) :=
  match given, stored with
  | some text, _ => (read text).map some
  | none, some bytes => ((Text.Utf8.decode? bytes).bind read).map some
  | none, none => some none

/-- Reads a directory that an option or a variable must give. -/
def readDirectory? (given : Option String) (stored : Option (List UInt8)) : Option Path :=
  match given, stored with
  | some text, _ => path? text
  | none, some bytes => if bytes = [] then none else some (.ofBytes bytes)
  | none, none => none

namespace FindRequest

/-- The options of the command. -/
def options : List OptionName := [.context, .timeout]

/-- Reads what is to be found. -/
def of? (env : Environment) (g : Gathered) : Option FindRequest :=
  match g.positionals with
  | [map, snapshot, name] => do
    return {
      map := ← path? map
      snapshot := ← path? snapshot
      name
      context := (g.value? .context).getD AppContext.ideName
      timeout := (← readValue number64? (g.value? .timeout) (env timeoutVariable)).getD 0
    }
  | _ => none

end FindRequest

namespace ExpectRequest

/-- The options of the command. -/
def options : List OptionName := [.workdir, .project, .cmake, .noX64, .check, .ideVersion]

/-- Reads whose expectations are asked for. -/
def of? (env : Environment) (g : Gathered) : Option ExpectRequest :=
  match g.positionals with
  | [template] => do
    return {
      template
      workdir := ← readDirectory? (g.value? .workdir) (env SuiteSettings.workdirVariable)
      project := g.value? .project
      buildSystem := if g.has .cmake then .cmake else .msBuild
      x64 := !g.has .noX64
      check := g.has .check
      ideVersion := ←
        readValue IdeVersion.parse? (g.value? .ideVersion) (env SuiteSettings.versionVariable)
    }
  | _ => none

end ExpectRequest

namespace Command

/-- The options of a command of this name, if there is one. -/
def options? (name : String) : Option (List OptionName) :=
  if name = "check-map" then some []
  else if name = "find" then some FindRequest.options
  else if name = "expect" then some ExpectRequest.options
  else if name = "env" then some []
  else none

/-- Reads a command of a name from its arguments. -/
def of? (env : Environment) (name : String) (g : Gathered) : Option Command :=
  if name = "check-map" then
    match g.positionals with
    | [map] => (path? map).map .checkMap
    | _ => none
  else if name = "find" then (FindRequest.of? env g).map .find
  else if name = "expect" then (ExpectRequest.of? env g).map .expect
  else if name = "env" then (if g.positionals = [] then some .env else none)
  else none

end Command

namespace Invocation

/-- Reads the format that is given, if one is. -/
def format? (given : Option String) : Option (Option OutputFormat) :=
  match given with
  | some name => (OutputFormat.ofName? name).map some
  | none => some none

/-- Reads a command and its arguments. A format that is given among them counts more than one that
was given before. -/
def command? (env : Environment) (before : Option OutputFormat) (name : String)
    (arguments : List String) : Option Invocation := do
  let g ← Gathered.gather? (.format :: (← Command.options? name)) {} arguments
  let format ← format? (g.value? .format)
  return .run (← Command.of? env name g) ((format.or before).getD .text)

/-- Reads arguments up to the name of the command. Before it there may be a format; to ask for the
version ends the reading. -/
def read? (env : Environment) (before : Option OutputFormat) : List String → Option Invocation
  | [] => none
  | argument :: rest =>
    match Argument.ofText argument with
    | .plain name => command? env before name rest
    | other =>
      match Given.of? [.version, .format] other, before with
      | some (.flag _), _ => some .version
      | some (.attached _ value), none =>
        (OutputFormat.ofName? value).bind fun f => read? env (some f) rest
      | some (.awaiting _), none =>
        match rest with
        | value :: rest =>
          match Argument.ofText value with
          | .plain value => (OutputFormat.ofName? value).bind fun f => read? env (some f) rest
          | _ => none
        | [] => none
      | _, _ => none

/-- What arguments and environment ask for, unless they are refused. -/
def ofArguments? (env : Environment) (arguments : List String) : Option Invocation :=
  read? env none arguments

end Invocation

end GuiTest.CommandLine
