import GuiTest.Locator.Basic

/-!
# Making locators

A draft collects settings, of which the last of each sort counts. Only when it is finished are the
settings checked: a regular expression that was overridden may be malformed.

Each call that sets something is a value (`Setting`), so any sequence of calls is a list of them.
-/

namespace GuiTest.Locator

/-- Why there is no locator. -/
inductive Fault where
  | noCriteria
  | zeroOccurrence
  | badPattern (source : String) (reason : Regex.Fault)
  deriving DecidableEq, Repr

namespace Fault

/-- What is wrong, without the reason why a regular expression was refused. -/
def summary : Fault → String
  | noCriteria => "locator has no match criteria"
  | zeroOccurrence => "occurrence must be at least 1"
  | badPattern source _ => "invalid text pattern '" ++ source ++ "'"

/-- Why a regular expression was refused. -/
def reason? : Fault → Option String
  | badPattern _ .malformed => some "regex parse error:\n    the pattern is malformed"
  | badPattern _ .tooLarge => some "Compiled regex exceeds size limit of 10485760 bytes."
  | _ => none

/-- What is wrong. -/
def message (f : Fault) : String :=
  match f.reason? with
  | some reason => f.summary ++ ": " ++ reason
  | none => f.summary

end Fault

end GuiTest.Locator

namespace GuiTest.TextMatch

/-- A match with a regular expression for the whole text. -/
def ofPattern (source : String) (L : Regex.Library := Regex.engine) :
    Except Locator.Fault (TextMatch L) :=
  match Regex.Whole.ofSource source L with
  | .ok expression => .ok (.regex expression)
  | .error reason => .error (.badPattern source reason)

end GuiTest.TextMatch

namespace GuiTest.Locator

/-- One setting of a draft. A `pattern` is a criterion on the text that is yet to be read. -/
inductive Setting where
  | criterion (c : Criterion)
  | pattern (source : String)
  | occurrence (n : UInt32)
  | container (l : Locator)

/-- Settings so far. A pattern and a criterion on the text exclude each other. -/
structure Draft where
  criteria : List Criterion
  pattern : Option String
  occurrence : Option UInt32
  containers : List Level

namespace Draft

/-- No settings. -/
def empty : Draft := ⟨[], none, none, []⟩

/-- The criteria that are about something else. -/
def others (aspect : Aspect) (criteria : List Criterion) : List Criterion :=
  criteria.filter (·.aspect ≠ aspect)

/-- Makes a setting. -/
def set (d : Draft) : Setting → Draft
  | .criterion c =>
    { d with
      criteria := others c.aspect d.criteria ++ [c]
      pattern := if c.aspect = .text then none else d.pattern }
  | .pattern source => { d with criteria := others .text d.criteria, pattern := some source }
  | .occurrence n => { d with occurrence := some n }
  | .container l => { d with containers := l.levels }

/-- The criteria with that of the pattern, which comes last. -/
def allCriteria (d : Draft) : Except Fault (List Criterion) :=
  match d.pattern with
  | some source => (TextMatch.ofPattern source).map fun m => d.criteria ++ [.text m]
  | none => .ok d.criteria

/-- Finishes the draft. -/
def build (d : Draft) : Except Fault Locator := do
  let criteria ← d.allCriteria
  if criteria = [] then throw .noCriteria
  if d.occurrence = some 0 then throw .zeroOccurrence
  return ⟨⟨criteria, d.occurrence⟩, d.containers⟩

end Draft

/-- The settings that make a locator again. -/
def toDraft (l : Locator) : Draft := ⟨l.own.criteria, none, l.own.occurrence, l.containers⟩

/-- Picks another occurrence. -/
def withOccurrence (l : Locator) (n : UInt32) : Except Fault Locator :=
  (l.toDraft.set (.occurrence n)).build

end GuiTest.Locator
