import GuiTest.Application.Driver

/-!
# Conditions

What a test can wait for. A condition is evaluated as often as need be. Where the driver fails
during an evaluation, what is asked of it counts as not being so.

Conditions that a test makes for itself are probes: some words, and any computation that takes time
and answers whether they hold. Those may look at the application or not.
-/

namespace GuiTest

/-- A demand on a number. -/
inductive CountCheck where
  | exactly (n : Nat)
  | atLeast (n : Nat)
  | atMost (n : Nat)
  deriving DecidableEq, Repr

namespace CountCheck

/-- Whether a number meets the demand. -/
def holds : CountCheck → Nat → Bool
  | exactly n, count => count == n
  | atLeast n, count => n ≤ count
  | atMost n, count => count ≤ n

/-- The demand as it is shown. -/
def describe : CountCheck → String
  | exactly n => "Exactly(" ++ toString n ++ ")"
  | atLeast n => "AtLeast(" ++ toString n ++ ")"
  | atMost n => "AtMost(" ++ toString n ++ ")"

end CountCheck

/-- Something to wait for. -/
inductive Condition (σ : Type) where
  | elementExists (ctx : AppContext) (l : Locator)
  | elementAbsent (ctx : AppContext) (l : Locator)
  | textEquals (ctx : AppContext) (l : Locator) (expected : String)
  | contextCount (demand : CountCheck)
  | contextNamed (leading : String)
  | probe (what : String) (evaluate : Timed σ Bool)
  | not (c : Condition σ)

namespace Condition

variable {σ : Type}

/-- What is waited for, in words. -/
def describe : Condition σ → String
  | elementExists _ l => l.describe ++ " to exist"
  | elementAbsent _ l => l.describe ++ " to disappear"
  | textEquals _ l expected => "text of " ++ l.describe ++ " to equal '" ++ expected ++ "'"
  | contextCount demand => "application context count " ++ demand.describe
  | contextNamed leading => "an application context named '" ++ leading ++ "*'"
  | probe what _ => what
  | not c => "not (" ++ c.describe ++ ")"

/-- Whether an attempt succeeded with a value that passes. -/
def succeeds {ε α : Type} (attempt : Attempt σ ε α) (passes : α → Bool) : Timed σ Bool := do
  match ← attempt.run with
  | .ok a => return passes a
  | .error _ => return false

/-- Evaluates a condition once. -/
def check (driver : UiDriver σ) : Condition σ → Timed σ Bool
  | elementExists ctx l => succeeds (driver.exists? ctx l) id
  | elementAbsent ctx l => succeeds (driver.exists? ctx l) (!·)
  | textEquals ctx l expected =>
    succeeds (driver.find ctx l) fun
      | some e => e.attributes.text.getD "" == expected
      | none => false
  | contextCount demand => succeeds driver.contexts fun live => demand.holds live.length
  | contextNamed leading =>
    succeeds driver.contexts fun live => live.any fun c => Text.startsWith leading c.name
  | probe _ evaluate => evaluate
  | not c => do return !(← c.check driver)

end Condition

end GuiTest
