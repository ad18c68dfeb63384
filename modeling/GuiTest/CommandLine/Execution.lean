import GuiTest.CommandLine.Invocation
import GuiTest.CommandLine.Outcome
import GuiTest.Files.Access
import GuiTest.ObjectMap.Basic
import GuiTest.Project.Expectations
import GuiTest.Suite.Timing

/-!
# Carrying out invocations

What the commands do, given access to files, the environment and a clock. `find` works on a recorded
desktop, in which nothing changes; waiting there only takes time.

What is written is collected, and written when the run is over. So no output can fail half-way, and
the time that is spent waiting is known in the end only.
-/

namespace GuiTest.CommandLine

/-- The version of the program. -/
def programVersion : String := "vsui 0.1.0"

/-- The failure that a fault of an object map is: a map that is not one is an invalid input, one
that does not resolve has failed its check. -/
def Failure.ofMapFault (f : ObjectMap.Fault) : Failure :=
  match f with
  | .malformed => .invalidInput f.message
  | .unknownName _ => .invalidInput f.message
  | f => .checkFailed f.message

/-- The failure that an error of waiting is. -/
def Failure.ofWaitError (e : WaitError) : Failure :=
  match e with
  | .driver reason => .invalidInput reason.message
  | e => .notFound e.message

/-- What is said about a file that cannot be read. -/
def readMessage (f : ReadFault) : String := "IO error: " ++ f.message

variable {m : Type → Type} [Monad m]

/-- Loads an object map. -/
def loadMap (files : FileAccess m) (p : Path) : m (Except Failure ObjectMap) := do
  match ← files.readText p with
  | .error f => return .error (.invalidInput (readMessage f))
  | .ok text =>
    match ObjectMap.parse text with
    | .ok map => return .ok map
    | .error f => return .error (.ofMapFault f)

/-- Loads a snapshot. -/
def loadSnapshot (files : FileAccess m) (p : Path) : m (Except Failure Snapshot) := do
  match ← files.readText p with
  | .error f => return .error (.invalidInput (p.text ++ ": " ++ (DriverError.io f).message))
  | .ok text =>
    match Snapshot.parse? text with
    | some s => return .ok s
    | none =>
      return .error (.invalidInput (p.text ++ ": " ++ (DriverError.json "not a snapshot").message))

/-- The file of the timing settings, in the home directory or else the directory where one works. -/
def timingFile (env : Environment) : Path :=
  let home :=
    match env "HOME" with
    | some (b :: bytes) => Path.ofBytes (b :: bytes)
    | _ => Path.ofText "."
  home.joinAll [".vsui", "config.json"]

/-- Loads the timing settings. -/
def loadTiming (files : FileAccess m) (env : Environment) : m TimingSettings :=
  TimingSettings.loadFrom files (timingFile env)

/-- Lists the locators of an object map. -/
def listMap (map : ObjectMap) : OutputFormat → Outcome
  | .json =>
    .ofJson (.record
      [("valid", .bool true), ("roots", .texts map.roots),
       ("entries", .array (map.entries.map fun (name, l) =>
         .record [("name", .text name), ("depth", .nat l.depth), ("locator", .text l.describe)]))])
  | .text =>
    { Outcome.ofLines (map.entries.map fun (name, l) => name ++ ": " ++ l.describe) with
      notes := toString map.size ++ " locators, " ++ toString map.roots.length ++ " top-level\n" }

/-- Checks an object map and lists its locators. -/
def checkMap (files : FileAccess m) (p : Path) (format : OutputFormat) : m Outcome := do
  match ← loadMap files p with
  | .error f => return .failed f
  | .ok map => return listMap map format

/-- Shows an element that was found. -/
def showFound (name : String) (ctx : AppContext) (l : Locator) (e : Element) :
    OutputFormat → Outcome
  | .json =>
    .ofJson (.record
      [("name", .text name), ("context", ctx.toJson), ("locator", .text l.describe),
       ("element", e.toJson)])
  | .text =>
    .ofLines ([e.describe]
      ++ (match e.attributes.text with | some text => ["  text: " ++ text] | none => [])
      ++ (if e.attributes.enabled then [] else ["  disabled"])
      ++ (if e.children.isEmpty then [] else ["  children: " ++ toString e.children.length]))

/-- Waits for an element in the first context with a name. -/
def awaitElement {σ : Type} [Clock] (driver : UiDriver σ) (context : String) (l : Locator)
    (o : WaitOptions) : Attempt σ Failure (AppContext × Element) := do
  let ctx ← (fixContext driver context).adapt fun e => .notFound e.message
  let e ← (waitForElement driver ctx l o).adapt .ofWaitError
  return (ctx, e)

/-- Looks for an element in a snapshot. -/
def findIn [Clock] (s : Snapshot) (r : FindRequest) (l : Locator) (timing : TimingSettings)
    (format : OutputFormat) : Outcome :=
  let o : WaitOptions := ⟨r.timeout.toNat * nanosPerMilli, timing.waitOptions.interval⟩
  let found := (awaitElement Desktop.driver r.context l o).run 0 { contexts := s }
  let outcome :=
    match found.value with
    | .ok (ctx, e) => showFound r.name ctx l e format
    | .error f => .failed f
  { outcome with waited := found.took }

/-- Finds an element. The map is looked at before the snapshot. -/
def find [Clock] (files : FileAccess m) (env : Environment) (r : FindRequest)
    (format : OutputFormat) : m Outcome := do
  match ← loadMap files r.map with
  | .error f => return .failed f
  | .ok map =>
    match map.get r.name with
    | .error f => return .failed (.ofMapFault f)
    | .ok l =>
      match ← loadSnapshot files r.snapshot with
      | .error f => return .failed f
      | .ok s => return findIn s r l (← loadTiming files env) format

/-- The expectations that are asked for. -/
def ExpectRequest.expectations (r : ExpectRequest) : Except Failure ProjectExpectations :=
  match ProjectTemplate.parse r.template with
  | .error f => .error (.invalidInput f.message)
  | .ok t =>
    let project := r.project.getD (t.expectedName ++ "1")
    match ProjectExpectations.make r.workdir project t r.buildSystem r.x64 r.ideVersion with
    | .error f => .error (.checkFailed f.message)
    | .ok e => .ok e

/-- Describes expectations in lines. -/
def expectationLines (e : ProjectExpectations) : List String :=
  ["template: " ++ e.template.displayName,
   "build system: " ++ e.buildSystem.displayName,
   "wizard pages: " ++ toString e.template.wizardPages,
   "creation path label: " ++ (if e.creationPathLabel then "checked" else "not shown"),
   "opened file: " ++ e.template.openedFilePattern?.getD "none",
   "files:"]
  ++ e.writtenFiles.map (fun p => "  " ++ p.text)
  ++ ["build output: " ++ (match e.buildOutput with | some p => p.text | none => "not checked")]

/-- Shows expectations, with the files that are missing if they were looked for. -/
def showExpectations (e : ProjectExpectations) (missing : Option (List Path)) :
    OutputFormat → Outcome
  | .text => .ofLines (expectationLines e)
  | .json =>
    let more :=
      match missing with
      | some paths => [("missing", Json.Value.texts (paths.map (·.text)))]
      | none => []
    match e.members? with
    | some members => .ofJson (.record (members ++ more))
    | none => .failed (.invalidInput "path contains invalid UTF-8 characters")

/-- The failure that missing files are. An outcome that has failed already is left as it is. -/
def failIfMissing (missing : List Path) (o : Outcome) : Outcome :=
  if missing = [] ∨ o.failure.isSome then o
  else
    { o with
      failure := some (.checkFailed (toString missing.length ++ " expected files missing: "
        ++ Text.join ", " (missing.map (·.text)))) }

/-- Shows what is expected of a project, and looks for its files if that is asked for. -/
def expect (files : FileAccess m) (r : ExpectRequest) (format : OutputFormat) : m Outcome := do
  match r.expectations with
  | .error f => return .failed f
  | .ok e =>
    if r.check then
      let missing ← e.missingFiles files
      return failIfMissing missing (showExpectations e (some missing) format)
    else return showExpectations e none format

/-- Describes settings in lines. -/
def settingLines (suite : SuiteSettings) (timing : TimingSettings) (workdirExists : Bool) :
    List String :=
  (if suite.installations = [] then
    ["Qt versions: none (set " ++ SuiteSettings.installationsVariable ++ ")"]
   else "Qt versions:" :: suite.installations.map fun qt => "  " ++ qt.name ++ " = " ++ qt.path)
  ++ [match suite.workdir with
      | some dir => "workdir: " ++ dir ++ (if workdirExists then "" else " (missing)")
      | none => "workdir: none (set " ++ SuiteSettings.workdirVariable ++ ")",
      match suite.ideVersion, suite.releaseYear? with
      | some v, some year =>
        "IDE version: " ++ toString v.toNat ++ " (Visual Studio " ++ toString year ++ ")"
      | some v, none => "IDE version: " ++ toString v.toNat
      | none, _ => "IDE version: any",
      "timing: poll " ++ toString timing.pollInterval.toNat
        ++ "ms, timeout " ++ toString timing.defaultTimeout.toNat
        ++ "ms, settle " ++ toString timing.settleTimeout.toNat
        ++ "ms, backoff " ++ toString timing.backoff.toNat
        ++ "ms, max " ++ toString timing.maxCycles.toNat ++ " cycles"]

/-- Shows the settings of the suite and of timing. -/
def env (files : FileAccess m) (environment : Environment) (format : OutputFormat) :
    m Outcome := do
  match SuiteSettings.ofEnvironment environment with
  | .error f => return .failed (.invalidInput f.message)
  | .ok suite =>
    let timing ← loadTiming files environment
    match format with
    | .json => return .ofJson (.record [("suite", suite.toJson), ("tuning", timing.toJson)])
    | .text =>
      let workdirExists ←
        match suite.workdir with
        | some dir => files.isDirectory (.ofText dir)
        | none => pure false
      return .ofLines (settingLines suite timing workdirExists)

/-- Carries out a command. -/
def Command.execute [Clock] (files : FileAccess m) (environment : Environment)
    (format : OutputFormat) : Command → m Outcome
  | .checkMap map => CommandLine.checkMap files map format
  | .find r => CommandLine.find files environment r format
  | .expect r => CommandLine.expect files r format
  | .env => CommandLine.env files environment format

/-- Does what arguments and environment ask for. -/
def run [Clock] (files : FileAccess m) (environment : Environment) (arguments : List String) :
    m Outcome :=
  match Invocation.ofArguments? environment arguments with
  | none => return .failed .refused
  | some .version => return .ofLines [programVersion]
  | some (.run command format) => command.execute files environment format

end GuiTest.CommandLine
