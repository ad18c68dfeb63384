import GuiTest.Report.Entry
import GuiTest.Text.Quoted
import GuiTest.Waiting.Poll

/-!
# Reports

A report collects entries in the order of recording. Sections nest: every entry names those that are
open. If the report has a log, each entry is added to it as one line when it is recorded. Operations
are computations on the report, so what a section encloses is any such computation.

Notes on the form of the definitions:
- The log is the text of the file to which lines are added. Each line is taken to be written; a disk
  that is full does not occur.
- When an entry is recorded, and under which identifier, is not known before. Any supply of stamps
  may be given.
-/

namespace GuiTest

/-- A report. `supply` gives the stamps of its entries, the first for number zero; `log` is the text
of the log so far, if one is kept. -/
structure Report where
  name : String
  supply : Nat → Stamp
  entries : List ReportEntry := []
  sections : List String := []
  log : Option String := none

/-- How many entries of each verdict there are. -/
structure Summary where
  passes : Nat
  fails : Nat
  warnings : Nat
  fatals : Nat
  deriving DecidableEq, Repr

namespace Report

/-- An operation on a report. -/
abbrev Operation (α : Type) := StateM Report α

/-- The line of an entry in the log. -/
def logLine (e : ReportEntry) : String := e.toJson.compact ++ "\n"

/-- Records an entry. -/
def record (severity : Severity) (message : String) (detail : Option String) : Operation Unit :=
  modify fun r =>
    let e : ReportEntry :=
      { stamp := r.supply r.entries.length, severity, message, detail, sections := r.sections }
    { r with entries := r.entries ++ [e], log := r.log.map (· ++ logLine e) }

/-- Records a pass. -/
def pass (message : String) : Operation Unit := record .pass message none

/-- Records a failure. -/
def fail (message : String) (detail : Option String) : Operation Unit := record .fail message detail

/-- Records a warning. -/
def warning (message : String) : Operation Unit := record .warning message none

/-- Records a failure after which the test cannot go on. -/
def fatal (message : String) (detail : Option String) : Operation Unit :=
  record .fatal message detail

/-- Records a message. -/
def note (message : String) : Operation Unit := record .log message none

/-- Records a pass or a failure, and answers which. -/
def verify (condition : Bool) (message : String) : Operation Bool := do
  record (if condition then .pass else .fail) message none
  return condition

/-- Records whether two values are equal, and shows both if they are not. -/
def compare {α : Type} [BEq α] (shown : α → String) (actual expected : α)
    (message : String) : Operation Bool := do
  if actual == expected then
    record .pass message none
    return true
  else
    let detail := "'" ++ shown actual ++ "' and '" ++ shown expected ++ "' are not equal"
    record .fail message (some detail)
    return false

/-- Records how a wait ended: a pass, or an entry of some severity if time was up. -/
def poll (result : PollResult) (onTimeout : Severity) (message : String) : Operation Bool := do
  match result with
  | .satisfied _ _ =>
    pass message
    return true
  | .timedOut attempts elapsed =>
    let detail := "timed out after " ++ toString (elapsed / nanosPerMilli) ++ "ms ("
      ++ toString attempts ++ " attempts)"
    record onTimeout message (some detail)
    return false

/-- Opens a section. -/
def beginSection (name : String) : Operation Unit :=
  modify fun r => { r with sections := r.sections ++ [name] }

/-- Closes the innermost section, if one is open. -/
def endSection : Operation Unit := modify fun r => { r with sections := r.sections.dropLast }

/-- Does something within a section. -/
def inSection {α : Type} (name : String) (body : Operation α) : Operation α := do
  beginSection name
  let result ← body
  endSection
  return result

/-- The number of entries of a severity. -/
def count (r : Report) (severity : Severity) : Nat :=
  (r.entries.filter fun e => e.severity = severity).length

/-- How many entries of each verdict there are. -/
def summary (r : Report) : Summary :=
  ⟨r.count .pass, r.count .fail, r.count .warning, r.count .fatal⟩

/-- Whether some entry is a failure. -/
def hasFailures (r : Report) : Bool := r.entries.any fun e => e.severity.isFailure

/-- A list of quoted texts. -/
def quotedList (texts : List String) : String :=
  "[" ++ Text.join ", " (texts.map Text.quoted) ++ "]"

/-- A quoted text, if there is one. -/
def quotedOption : Option String → String
  | some s => "Some(" ++ Text.quoted s ++ ")"
  | none => "None"

/-- The report in short, for diagnosis. -/
def describe (r : Report) : String :=
  "TestReport \x7b name: " ++ Text.quoted r.name ++ ", entries: " ++ toString r.entries.length
    ++ ", sections: " ++ quotedList r.sections
    ++ ", log_writer: \"<Option<BufWriter<File>>>\" \x7d"

end Report

end GuiTest
