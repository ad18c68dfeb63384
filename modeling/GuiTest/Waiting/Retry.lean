import GuiTest.Waiting.Poll

/-!
# Repeating an action while an application is busy

A menu that is opened before its entries are there has to be closed and opened again. `retry` does
an action, waits a little for the busy state to clear, and else dismisses what the action did,
pauses, and begins again, at most a given number of times.

The cycles that may follow are counted down and those that are done are counted up, so their sum is
always the most that there may be.
-/

namespace GuiTest

/-- How long to wait for the busy state to clear, the pause before the next cycle in nanoseconds,
and how many cycles there may be. -/
structure RetryOptions where
  settle : WaitOptions
  backoff : Nat
  maxCycles : Nat
  deriving DecidableEq, Repr

/-- Two seconds to settle, with four attempts a second; a pause of a second; twenty cycles. -/
def RetryOptions.standard : RetryOptions where
  settle := ⟨2000 * nanosPerMilli, 250 * nanosPerMilli⟩
  backoff := 1000 * nanosPerMilli
  maxCycles := 20

/-- How repeating ended, and after how many cycles. -/
inductive RetryOutcome where
  | cleared (cycles : Nat)
  | exhausted (cycles : Nat)
  deriving DecidableEq, Repr

namespace RetryOutcome

/-- Whether the busy state cleared. -/
def isCleared : RetryOutcome → Bool
  | cleared _ => true
  | exhausted _ => false

/-- The number of cycles. -/
def cycles : RetryOutcome → Nat
  | cleared n => n
  | exhausted n => n

/-- Takes exhaustion for an error, which is told in words. -/
def toExcept (r : RetryOutcome) (what : String) : Except String Nat :=
  match r with
  | cleared n => .ok n
  | exhausted n => .error (what ++ " still busy after " ++ toString n ++ " retries")

end RetryOutcome

/-- Repeats an action after `cycles` cycles, when there may be `left` more. The first failure of the
action or of the dismissal ends it. After the last cycle what the action did is dismissed too. -/
def retryFrom {σ ε : Type} [Clock] (driver : UiDriver σ) (cleared : Condition σ)
    (action dismiss : Attempt σ ε Unit) (o : RetryOptions) (cycles left : Nat) :
    Attempt σ ε RetryOutcome := do
  action
  let settled ← ExceptT.lift (pollWait driver cleared o.settle)
  if settled.isSatisfied then return .cleared cycles
  dismiss
  match left with
  | 0 => return .exhausted cycles
  | more + 1 => do
    ExceptT.lift (Timed.sleep o.backoff)
    retryFrom driver cleared action dismiss o (cycles + 1) more

/-- Repeats an action until the busy state clears. -/
def retry {σ ε : Type} [Clock] (driver : UiDriver σ) (cleared : Condition σ)
    (action dismiss : Attempt σ ε Unit) (o : RetryOptions) : Attempt σ ε RetryOutcome :=
  retryFrom driver cleared action dismiss o 0 o.maxCycles

/-- A click as a step of a wait. -/
def clickStep {σ : Type} (driver : UiDriver σ) (ctx : AppContext) (l : Locator) :
    Attempt σ WaitError Unit := (driver.click ctx l).adapt .driver

/-- Opens a menu and then its entry, once the entry is there. -/
def openEntry {σ : Type} [Clock] (driver : UiDriver σ) (ctx : AppContext) (menu entry : Locator)
    (o : WaitOptions) : Attempt σ WaitError Unit := do
  clickStep driver ctx menu
  let _ ← waitForElement driver ctx entry o
  clickStep driver ctx entry

/-- Opens an entry of a menu, and the menu again as long as the busy mark is shown. A second click
on the menu closes it. -/
def openMenuEntry {σ : Type} [Clock] (driver : UiDriver σ) (ctx : AppContext)
    (menu entry busy : Locator) (o : RetryOptions) : Attempt σ WaitError RetryOutcome :=
  retry driver (.elementAbsent ctx busy) (openEntry driver ctx menu entry o.settle)
    (clickStep driver ctx menu) o

end GuiTest
