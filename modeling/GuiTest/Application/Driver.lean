import GuiTest.Application.Desktop
import GuiTest.Waiting.Timed

/-!
# Drivers

A driver is what tests use to look at an application and to act on it. The operations in the
structure are its own; a driver that does not know of double-clicks makes two clicks of one. `find`
and `exists?` are made from what is shown, and no driver here has another way to search.
`fixContext` picks the process that a test is about.

Notes on the form of the definitions:
- A call is an attempt on a state, which may be anything. So an answer may depend on the moment and
  on all that was done before, as that of an application does.
- One call is over when the next one begins; no test here makes two at a time.
-/

namespace GuiTest

/-- An operation that takes time and may fail. -/
abbrev Attempt (σ ε α : Type) := ExceptT ε (Timed σ) α

/-- Makes an attempt, and if it succeeds, makes it again. -/
def Attempt.twice {σ ε : Type} (x : Attempt σ ε Unit) : Attempt σ ε Unit := do
  x
  x

/-- The operations that an application offers to tests. -/
structure UiDriver (σ : Type) where
  contexts : Attempt σ DriverError (List AppContext)
  dump : AppContext → Attempt σ DriverError Forest
  click : AppContext → Locator → Attempt σ DriverError Unit
  doubleClick : AppContext → Locator → Attempt σ DriverError Unit :=
    fun ctx l => (click ctx l).twice
  typeText : AppContext → Locator → String → Attempt σ DriverError Unit
  pressKeys : AppContext → Locator → String → Attempt σ DriverError Unit

namespace UiDriver

variable {σ : Type}

/-- The first element that a locator means, in the elements that are shown now. -/
def find (driver : UiDriver σ) (ctx : AppContext) (l : Locator) :
    Attempt σ DriverError (Option Element) := do
  return l.findFirst? (← driver.dump ctx)

/-- Whether a locator means an element now. -/
def exists? (driver : UiDriver σ) (ctx : AppContext) (l : Locator) :
    Attempt σ DriverError Bool := do
  return (← driver.find ctx l).isSome

end UiDriver

/-- Why no context was picked. -/
inductive ContextError where
  | unexpected (expected : String) (found : List String)
  | driver (e : DriverError)
  deriving DecidableEq, Repr

/-- What went wrong. -/
def ContextError.message : ContextError → String
  | unexpected expected found =>
    "no application context named '" ++ expected ++ "' (found: [" ++ Text.join ", " found ++ "])"
  | driver e => e.message

/-- Picks the first live context with a name. -/
def fixContext {σ : Type} (driver : UiDriver σ) (expected : String) :
    Attempt σ ContextError AppContext := do
  let live ← driver.contexts.adapt ContextError.driver
  match live.find? fun c => c.name == expected with
  | some c => return c
  | none => throw (.unexpected expected (live.map (·.name)))

namespace Desktop

/-- An operation on a desktop, which takes no time. -/
def Operation.attempt {α : Type} (x : Operation α) : Attempt Desktop DriverError α :=
  ExceptT.mk (Timed.ofState x.run)

/-- The driver of a desktop. -/
def driver : UiDriver Desktop where
  contexts := Operation.attempt do return (← get).liveContexts
  dump ctx := Operation.attempt (tree ctx)
  click ctx l := Operation.attempt (Desktop.click ctx l)
  doubleClick ctx l := Operation.attempt (Desktop.doubleClick ctx l)
  typeText ctx l text := Operation.attempt (Desktop.typeText ctx l text)
  pressKeys ctx l keys := Operation.attempt (Desktop.pressKeys ctx l keys)

end Desktop

end GuiTest
