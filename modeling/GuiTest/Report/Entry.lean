import GuiTest.Json.Decode
import GuiTest.Json.Printer
import GuiTest.Report.Timestamp
import GuiTest.Report.Uuid

/-!
# Report entries

An entry is one verdict or message, with a stamp of when it was recorded and the sections that were
open then, the outermost first. It is written as one JSON record.
-/

namespace GuiTest

/-- What an entry says. -/
inductive Severity where
  | log
  | pass
  | warning
  | fail
  | fatal
  deriving DecidableEq, Repr

namespace Severity

/-- Whether it is a failure. -/
def isFailure : Severity → Bool
  | fail => true
  | fatal => true
  | _ => false

/-- The name in records. -/
def name : Severity → String
  | log => "log"
  | pass => "pass"
  | warning => "warning"
  | fail => "fail"
  | fatal => "fatal"

/-- The name as it is shown. -/
def label : Severity → String
  | log => "LOG"
  | pass => "PASS"
  | warning => "WARNING"
  | fail => "FAIL"
  | fatal => "FATAL"

/-- The severity with a name in records. -/
def ofName? (name : String) : Option Severity :=
  [log, pass, warning, fail, fatal].find? fun s => s.name == name

open Json

/-- Reads a severity: its name, or an object with the name and null. -/
def decode : Decode Severity
  | _, .string (some name) => ofName? name
  | _ + 1, .object [(some name, .null)] => ofName? name
  | _, _ => none

end Severity

/-- What tells entries apart: an identifier and the moment of recording. -/
structure Stamp where
  id : Uuid
  time : Timestamp
  deriving DecidableEq, Repr

/-- One recorded verdict or message. -/
structure ReportEntry where
  stamp : Stamp
  severity : Severity
  message : String
  detail : Option String
  sections : List String
  deriving DecidableEq, Repr

namespace ReportEntry

open Json

/-- The JSON value of an entry. The detail is left out if there is none, and the sections if none
was open. -/
def toJson (e : ReportEntry) : Value :=
  .record
    ([("id", .text e.stamp.id.toText), ("timestamp", .text e.stamp.time.toText),
      ("severity", .text e.severity.name), ("message", .text e.message)]
      ++ (match e.detail with | some d => [("detail", .text d)] | none => [])
      ++ (if e.sections = [] then [] else [("section", .texts e.sections)]))

/-- The member names of an entry, in order. -/
def memberNames : List String := ["id", "timestamp", "severity", "message", "detail", "section"]

/-- Reads an entry. -/
def decode : Decode ReportEntry := Decode.record memberNames false fun fields depth => do
  let id ← Uuid.parse? (← fields.required "id" Decode.text depth)
  let time ← Timestamp.parse? (← fields.required "timestamp" Decode.text depth)
  return {
    stamp := ⟨id, time⟩
    severity := ← fields.required "severity" Severity.decode depth
    message := ← fields.required "message" Decode.text depth
    detail := ← fields.optional "detail" (Decode.optional Decode.text) none depth
    sections := ← fields.optional "section" (Decode.list Decode.text) [] depth
  }

end ReportEntry

end GuiTest
