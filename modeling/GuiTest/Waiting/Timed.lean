/-!
# Computations that take time

A timed computation is told the moment at which it begins and a state; it answers with a value, the
new state, and the time that it took. The clock so never goes back, and a computation that follows
another begins when that one ended.

Times are whole nanoseconds. There is no longest one here; the durations of a program end after
`2 ^ 64` seconds. How long a computation is asleep is up to the clock that it runs on (`Clock`), but
never shorter than it asked for. That it is not longer either (`Clock.Exact`) is supposed where it
is needed, and holds of the clock of a simulation (`Clock.punctual`).
-/

namespace GuiTest

/-- A clock: how long a computation is asleep that asks at a moment to sleep for a duration. -/
class Clock where
  asleep (now duration : Nat) : Nat
  le_asleep (now duration : Nat) : duration ≤ asleep now duration

namespace Clock

/-- A computation is asleep for exactly as long as it asked for. -/
def Exact [Clock] : Prop := ∀ now duration, asleep now duration = duration

/-- The clock that keeps nothing asleep for longer. -/
abbrev punctual : Clock := ⟨fun _ duration => duration, fun _ duration => Nat.le_refl duration⟩

/-- The punctual clock is exact. -/
theorem exact_punctual : @Exact punctual := fun _ _ => rfl

end Clock

/-- What a timed computation answers. -/
structure Timed.Outcome (σ α : Type) where
  value : α
  state : σ
  took : Nat

/-- A computation that takes time. -/
def Timed (σ α : Type) : Type := Nat → σ → Timed.Outcome σ α

namespace Timed

variable {σ α β : Type}

/-- Answers at once. -/
def pure (a : α) : Timed σ α := fun _ s => ⟨a, s, 0⟩

/-- One computation after another. -/
def bind (x : Timed σ α) (f : α → Timed σ β) : Timed σ β := fun now s =>
  let first := x now s
  let second := f first.value (now + first.took) first.state
  ⟨second.value, second.state, first.took + second.took⟩

instance : Monad (Timed σ) where
  pure := pure
  bind := bind

/-- Sleeps. -/
def sleep [Clock] (duration : Nat) : Timed σ Unit := fun now s =>
  ⟨(), s, Clock.asleep now duration⟩

/-- The present moment. -/
def now : Timed σ Nat := fun t s => ⟨t, s, 0⟩

/-- The state. -/
def getState : Timed σ σ := fun _ s => ⟨s, s, 0⟩

/-- Changes the state, which takes no time. -/
def modifyState (f : σ → σ) : Timed σ Unit := fun _ s => ⟨(), f s, 0⟩

/-- A computation without time. -/
def ofState (x : StateM σ α) : Timed σ α := fun _ s =>
  let (a, s) := x.run s
  ⟨a, s, 0⟩

instance : LawfulMonad (Timed σ) :=
  LawfulMonad.mk' _
    (fun x => by
      funext now s
      simp [Functor.map, bind, pure])
    (fun a f => by
      funext now s
      simp [Bind.bind, Pure.pure, bind, pure])
    (fun x f g => by
      funext now s
      simp [Bind.bind, bind, Nat.add_assoc])

end Timed

end GuiTest
