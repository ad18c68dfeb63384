import GuiTest.Waiting.Condition

/-!
# Waiting

Waiting is trying again and again until an attempt succeeds or time is up. Between attempts there is
a pause of one interval, or of what is left of the time if that is less; so there is always an
attempt at the very end. The count of attempts does not end here, as a counter of 32 bits does.
-/

namespace GuiTest

/-- How long to wait, and the pause between attempts, in nanoseconds. -/
structure WaitOptions where
  timeout : Nat
  interval : Nat
  deriving DecidableEq, Repr

/-- Nanoseconds in a millisecond. -/
def nanosPerMilli : Nat := 1000000

namespace WaitOptions

/-- The shortest pause between attempts. -/
def minInterval : Nat := 10 * nanosPerMilli

/-- Twenty seconds, with two attempts a second. -/
def standard : WaitOptions := ⟨20000 * nanosPerMilli, 500 * nanosPerMilli⟩

/-- The pause that is kept between attempts. -/
def pause (o : WaitOptions) : Nat := max o.interval minInterval

/-- A pause is at least ten milliseconds. -/
theorem pause_eq (o : WaitOptions) : o.pause = max o.interval 10000000 := rfl

/-- So it is never empty. -/
theorem pause_pos (o : WaitOptions) : 0 < o.pause := by
  rw [pause_eq]
  omega

/-- The pause after so much of the time is spent: no more than what is left of it. -/
def rest (o : WaitOptions) (spent : Nat) : Nat := min o.pause (o.timeout - spent)

/-- As long as time is left, so is what is left of it for a pause. -/
theorem rest_pos (o : WaitOptions) {spent : Nat} (h : spent < o.timeout) : 0 < o.rest spent := by
  have := o.pause_pos
  rw [rest]
  omega

end WaitOptions

/-- How trying ended: with a value or without, after how many attempts and how long. -/
structure Tried (α : Type) where
  found : Option α
  attempts : Nat
  elapsed : Nat

/-- Tries until there is a value or time is up. The first attempt was at the moment `start`; since
then `attempts` attempts were made and the time `spent` has gone by. -/
def tryFrom {σ α : Type} [Clock] (o : WaitOptions) (attempt : Timed σ (Option α))
    (start attempts spent : Nat) (s : σ) : Timed.Outcome σ (Tried α) :=
  let outcome := attempt (start + spent) s
  let spentNow := spent + outcome.took
  match outcome.value with
  | some a => ⟨⟨some a, attempts + 1, spentNow⟩, outcome.state, spentNow⟩
  | none =>
    if _h : o.timeout ≤ spentNow then
      ⟨⟨none, attempts + 1, spentNow⟩, outcome.state, spentNow⟩
    else
      tryFrom o attempt start (attempts + 1)
        (spentNow + Clock.asleep (start + spentNow) (o.rest spentNow)) outcome.state
termination_by o.timeout - spent
decreasing_by
  -- The clock does not wake the loop before some of the time that is left has gone by.
  have hleft : spent + (attempt (start + spent) s).took < o.timeout := Nat.not_le.mp _h
  have hrest := o.rest_pos hleft
  have hasleep := Clock.le_asleep (start + (spent + (attempt (start + spent) s).took))
    (o.rest (spent + (attempt (start + spent) s).took))
  omega

section Trying

variable {σ α : Type} [Clock] {o : WaitOptions} {attempt : Timed σ (Option α)}
  {start attempts spent : Nat} {s : σ}

/-- What is found ends the loop. -/
theorem tryFrom_of_some {a : α} (hfound : (attempt (start + spent) s).value = some a) :
    tryFrom o attempt start attempts spent s
      = ⟨⟨some a, attempts + 1, spent + (attempt (start + spent) s).took⟩,
        (attempt (start + spent) s).state, spent + (attempt (start + spent) s).took⟩ := by
  rw [tryFrom, hfound]

/-- So does the end of the time. -/
theorem tryFrom_of_up (hnone : (attempt (start + spent) s).value = none)
    (hup : o.timeout ≤ spent + (attempt (start + spent) s).took) :
    tryFrom o attempt start attempts spent s
      = ⟨⟨none, attempts + 1, spent + (attempt (start + spent) s).took⟩,
        (attempt (start + spent) s).state, spent + (attempt (start + spent) s).took⟩ := by
  rw [tryFrom, hnone]
  exact dif_pos hup

/-- Otherwise there is a pause and another pass. -/
theorem tryFrom_of_left (hnone : (attempt (start + spent) s).value = none)
    (hleft : ¬ o.timeout ≤ spent + (attempt (start + spent) s).took) :
    tryFrom o attempt start attempts spent s
      = tryFrom o attempt start (attempts + 1)
        (spent + (attempt (start + spent) s).took
          + Clock.asleep (start + (spent + (attempt (start + spent) s).took))
            (o.rest (spent + (attempt (start + spent) s).took)))
        (attempt (start + spent) s).state := by
  rw [tryFrom, hnone]
  exact dif_neg hleft

end Trying

/-- Tries until there is a value or time is up. -/
def tryUntil {σ α : Type} [Clock] (o : WaitOptions) (attempt : Timed σ (Option α)) :
    Timed σ (Tried α) :=
  fun now s => tryFrom o attempt now 0 0 s

/-- How waiting for a condition ended. -/
inductive PollResult where
  | satisfied (attempts elapsed : Nat)
  | timedOut (attempts elapsed : Nat)
  deriving DecidableEq, Repr

/-- Why a wait gave nothing. -/
inductive WaitError where
  | timedOut (what : String) (waited : Nat)
  | elementNotFound (target : String) (waited : Nat)
  | driver (e : DriverError)
  deriving DecidableEq, Repr

/-- What went wrong. -/
def WaitError.message : WaitError → String
  | timedOut what waited =>
    "timed out after " ++ toString (waited / nanosPerMilli) ++ "ms waiting for " ++ what
  | elementNotFound target waited =>
    "element not found after " ++ toString (waited / nanosPerMilli) ++ "ms: " ++ target
  | driver e => e.message

namespace PollResult

/-- Whether the condition came to hold. -/
def isSatisfied : PollResult → Bool
  | satisfied _ _ => true
  | timedOut _ _ => false

/-- The number of evaluations. -/
def attempts : PollResult → Nat
  | satisfied n _ => n
  | timedOut n _ => n

/-- The time from the beginning to the end. -/
def elapsed : PollResult → Nat
  | satisfied _ t => t
  | timedOut _ t => t

/-- Takes a timeout for an error. -/
def toExcept (r : PollResult) (what : String) : Except WaitError Nat :=
  match r with
  | satisfied _ t => .ok t
  | timedOut _ t => .error (.timedOut what t)

end PollResult

/-- Waits until a condition holds. -/
def pollWait {σ : Type} [Clock] (driver : UiDriver σ) (c : Condition σ) (o : WaitOptions) :
    Timed σ PollResult := do
  let tried ← tryUntil o do return if ← c.check driver then some () else none
  match tried.found with
  | some _ => return .satisfied tried.attempts tried.elapsed
  | none => return .timedOut tried.attempts tried.elapsed

/-- Waits until a locator means an element, and answers that element. A failure of the driver counts
as not having found it yet. -/
def waitForElement {σ : Type} [Clock] (driver : UiDriver σ) (ctx : AppContext) (l : Locator)
    (o : WaitOptions) : Attempt σ WaitError Element := do
  let tried ← ExceptT.lift (tryUntil o do
    match ← (driver.find ctx l).run with
    | .ok found => return found
    | .error _ => return none : Timed σ (Tried Element))
  match tried.found with
  | some e => return e
  | none => throw (.elementNotFound l.describe tried.elapsed)

/-- Waits until a locator means nothing, and answers how long that took. -/
def waitUntilGone {σ : Type} [Clock] (driver : UiDriver σ) (ctx : AppContext) (l : Locator)
    (o : WaitOptions) : Attempt σ WaitError Nat := do
  let gone : Condition σ := .elementAbsent ctx l
  let result ← ExceptT.lift (pollWait driver gone o)
  liftExcept (result.toExcept gone.describe)

end GuiTest
