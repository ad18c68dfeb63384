import GuiTest.Files.Path
import GuiTest.Json.Printer
import GuiTest.Suite.Environment
import GuiTest.Suite.IdeVersion
import GuiTest.Text.Utf8

/-!
# Settings of a test suite

What the tests of a suite work on is said by three environment variables: the Qt installations, the
directory for new projects, and the version of the development environment. A blank value is the
same as none; all other variables are ignored.
-/

namespace GuiTest

/-- A Qt installation and the name under which it is registered. -/
structure QtInstallation where
  name : String
  path : String
  deriving DecidableEq, Repr

/-- What the tests of a suite work on. -/
structure SuiteSettings where
  installations : List QtInstallation := []
  workdir : Option String := none
  ideVersion : Option UInt32 := none
  deriving DecidableEq, Repr

namespace SuiteSettings

/-- The variable of the Qt installations. -/
def installationsVariable : String := "SQUISH_VSTOOLS_QTDIRS"

/-- The variable of the directory for new projects. -/
def workdirVariable : String := "SQUISH_VSTOOLS_WORKDIR"

/-- The variable of the version. -/
def versionVariable : String := "SQUISH_VSTOOLS_VERSION"

/-- Why the settings cannot be read. -/
inductive Fault where
  | emptyEntry (index : Nat)
  | emptyName (path : String)
  | missingPath (name : String)
  | duplicateName (name : String)
  | invalidVersion (value : String)
  | notUnicode (name : String)
  deriving DecidableEq, Repr

namespace Fault

/-- The name of the variable that is at fault. -/
def variableName : Fault → String
  | invalidVersion _ => versionVariable
  | notUnicode name => name
  | _ => installationsVariable

/-- What is wrong with its value. -/
def reason : Fault → String
  | emptyEntry index => "empty Qt installation entry at position " ++ toString index
  | emptyName path => "Qt installation at '" ++ path ++ "' has no name"
  | missingPath name => "Qt installation '" ++ name ++ "' has no path"
  | duplicateName name => "duplicate Qt installation name '" ++ name ++ "'"
  | invalidVersion value => "'" ++ value ++ "' is not a version number"
  | notUnicode _ => "value is not valid Unicode"

/-- What is wrong. -/
def message (f : Fault) : String := f.variableName ++ ": " ++ f.reason

end Fault

/-- The name of an installation that is given by its path alone: the last two parts of the path. -/
def nameOfPath? (path : List Char) : Option (List Char) :=
  match ((Text.splitBy (fun c => c == '/' || c == '\\') path).filter (· ≠ [])).reverse with
  | [] => none
  | [only] => some only
  | last :: parent :: _ => some (parent ++ '_' :: last)

/-- Reads one entry, which is a name and a path with `=` between, or a path. -/
def entry? (entry : List Char) : Option QtInstallation :=
  match Text.splitAtFirst? '=' entry with
  | some (name, path) =>
    some ⟨String.ofList (Text.trimChars name), String.ofList (Text.trimChars path)⟩
  | none =>
    let path := Text.trimChars entry
    (nameOfPath? path).map fun name => ⟨String.ofList name, String.ofList path⟩

/-- Reads entries after those in `before`, whose number is the index of the first. -/
def readEntries (before : List QtInstallation) :
    List (List Char) → Except Fault (List QtInstallation)
  | [] => .ok before
  | entry :: rest =>
    match entry? entry with
    | none => .error (.emptyEntry before.length)
    | some qt =>
      if qt.name = "" then .error (.emptyName qt.path)
      else if qt.path = "" then .error (.missingPath qt.name)
      else if before.any fun other => other.name == qt.name then .error (.duplicateName qt.name)
      else readEntries (before ++ [qt]) rest

/-- Reads a list of installations, with semicolons between them and perhaps some at the end. -/
def parseInstallations (value : String) : Except Fault (List QtInstallation) :=
  readEntries [] (Text.splitBy (· == ';') (Text.dropEndWhile (· == ';') value.toList))

/-- Takes in the value of a variable. -/
def set (s : SuiteSettings) (name value : String) : Except Fault SuiteSettings :=
  let value := Text.trim value
  if value = "" then .ok s
  else if name = installationsVariable then
    (parseInstallations value).map fun installations => { s with installations }
  else if name = workdirVariable then .ok { s with workdir := some value }
  else if name = versionVariable then
    match IdeVersion.parse? value with
    | some version => .ok { s with ideVersion := some version }
    | none => .error (.invalidVersion value)
  else .ok s

/-- Takes in variables one after the other. -/
def setAll (s : SuiteSettings) : List (String × String) → Except Fault SuiteSettings
  | [] => .ok s
  | (name, value) :: rest =>
    match s.set name value with
    | .ok s => s.setAll rest
    | .error f => .error f

/-- The settings that variables make. -/
def ofVariables (entries : List (String × String)) : Except Fault SuiteSettings :=
  setAll {} entries

/-- The values of the variables that are set, as texts. -/
def readTexts (env : Environment) :
    List String → Except Fault (List (String × String))
  | [] => .ok []
  | name :: rest =>
    match env name with
    | none => readTexts env rest
    | some bytes =>
      match Text.Utf8.decode? bytes with
      | none => .error (.notUnicode name)
      | some value => (readTexts env rest).map ((name, value) :: ·)

/-- The settings that an environment makes. All three values must be texts before any is read. -/
def ofEnvironment (env : Environment) : Except Fault SuiteSettings :=
  match readTexts env [installationsVariable, workdirVariable, versionVariable] with
  | .ok entries => ofVariables entries
  | .error f => .error f

/-- The year by which the version is known. -/
def releaseYear? (s : SuiteSettings) : Option Nat := s.ideVersion.bind IdeVersion.releaseYear?

open Json

/-- The JSON value of the settings. -/
def toJson (s : SuiteSettings) : Value :=
  .record
    [("qt_installations", .array (s.installations.map fun qt =>
        .record [("name", .text qt.name), ("path", .text qt.path)])),
     ("workdir", .optionalText s.workdir),
     ("ide_version", .optionalNat (s.ideVersion.map UInt32.toNat))]

end SuiteSettings

end GuiTest
