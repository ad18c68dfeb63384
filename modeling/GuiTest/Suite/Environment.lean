import GuiTest.Text.Blank
import GuiTest.Text.Utf8

/-!
# Environment variables

A process is given an environment: names with values, which are bytes and need not be text.
-/

namespace GuiTest

/-- The values of the variables that are set. -/
abbrev Environment := String → Option (List UInt8)

namespace Environment

/-- The environment of a list of variables, of which the first with a name counts. -/
def ofList (entries : List (String × List UInt8)) : Environment :=
  fun name => entries.lookup name

/-- A variable from its name, `=` and its value. -/
def ofEntry? (entry : List UInt8) : Option (String × List UInt8) := do
  let (name, value) ← Text.splitAtFirst? '='.toUInt8 entry
  return (← Text.Utf8.decode? name, value)

/-- The environment in the form in which a process is given it: each entry ends with a zero. -/
def ofBlock (bytes : List UInt8) : Environment :=
  ofList ((Text.splitBy (· == 0) bytes).filterMap ofEntry?)

end Environment

end GuiTest
