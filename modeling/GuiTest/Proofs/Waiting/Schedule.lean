import Mathlib.Algebra.Order.Floor.Div
import GuiTest.Application.Rehearsal
import GuiTest.Waiting.Poll

/-!
# The schedule of a wait

On an exact clock that only pauses move, the attempts of a wait come at fixed times: one at the
start, and one after each pause, of which the last is cut at the end of the time
(`WaitOptions.pollTime`). The
loop leaves after the first attempt that succeeds (`tryUntil_found`) or after the one at the end of
the time (`tryUntil_timedOut`), and what it leaves behind is what the attempts up to then make of
the state, each at its time (`Timed.runAt`). `pollWait_schedule` says so for conditions.
-/

namespace GuiTest

namespace Timed

variable {σ α : Type}

/-- What a computation makes of a state when it runs at the given moments, one after the other. -/
def runAt (x : Timed σ α) : List Nat → σ → σ
  | [], s => s
  | t :: ts, s => runAt x ts (x t s).state

/-- Runs at one time after the other go on from the state that was left. -/
theorem runAt_append (x : Timed σ α) (ts us : List Nat) (s : σ) :
    x.runAt (ts ++ us) s = x.runAt us (x.runAt ts s) := by
  induction ts generalizing s with
  | nil => rfl
  | cons t ts ih => exact ih (x t s).state

/-- A computation that in addition writes down the moments at which it runs. -/
def recorded (x : Timed σ α) : Timed (σ × List Nat) α := fun now s =>
  ⟨(x now s.1).value, ((x now s.1).state, s.2 ++ [now]), (x now s.1).took⟩

/-- What writes down its moments leaves the same state, and the moments. -/
theorem runAt_recorded (x : Timed σ α) (ts log : List Nat) (s : σ) :
    x.recorded.runAt ts (s, log) = (x.runAt ts s, log ++ ts) := by
  induction ts generalizing s log with
  | nil => rw [List.append_nil]; rfl
  | cons t ts ih =>
    rw [runAt, runAt, recorded, ih, List.append_assoc]
    rfl

/-- The computation takes no time. -/
def Instant (x : Timed σ α) : Prop := ∀ now s, (x now s).took = 0

end Timed

namespace WaitOptions

/-- The time from the start to the attempt after so many pauses. -/
def pollTime (o : WaitOptions) (pauses : Nat) : Nat := min (pauses * o.pause) o.timeout

/-- The number of pauses until the time is up. -/
def pauses (o : WaitOptions) : Nat := o.timeout ⌈/⌉ o.pause

/-- The moments of the first attempts of a wait. -/
def moments (o : WaitOptions) (start attempts : Nat) : List Nat :=
  (List.range attempts).map fun k => start + o.pollTime k

@[simp] theorem pollTime_zero (o : WaitOptions) : o.pollTime 0 = 0 := by
  rw [pollTime, Nat.zero_mul, Nat.zero_min]

theorem pollTime_le (o : WaitOptions) (k : Nat) : o.pollTime k ≤ o.timeout := Nat.min_le_right ..

theorem pauses_le_iff (o : WaitOptions) {k : Nat} : o.pauses ≤ k ↔ o.timeout ≤ k * o.pause := by
  rw [pauses, ceilDiv_le_iff_le_mul o.pause_pos, Nat.mul_comm]

/-- The time is up after the last pause and not before. -/
theorem timeout_le_pollTime_iff (o : WaitOptions) {k : Nat} :
    o.timeout ≤ o.pollTime k ↔ o.pauses ≤ k := by
  rw [pauses_le_iff, pollTime]
  omega

/-- The last evaluation is made when the time is up. -/
theorem pollTime_pauses (o : WaitOptions) : o.pollTime o.pauses = o.timeout :=
  Nat.le_antisymm (o.pollTime_le _) (o.timeout_le_pollTime_iff.mpr (Nat.le_refl _))

/-- The pause after an attempt before the end leads to the next attempt. -/
theorem pollTime_succ (o : WaitOptions) {k : Nat} (h : k < o.pauses) :
    o.pollTime k + o.rest (o.pollTime k) = o.pollTime (k + 1) := by
  have hlt : ¬ o.timeout ≤ k * o.pause := fun hle => absurd (o.pauses_le_iff.mpr hle) (by omega)
  rw [rest, pollTime, pollTime, Nat.succ_mul]
  omega

/-- One evaluation more is one moment more. -/
theorem moments_succ (o : WaitOptions) (start attempts : Nat) :
    o.moments start (attempts + 1) = o.moments start attempts ++ [start + o.pollTime attempts] := by
  rw [moments, moments, List.range_succ, List.map_append]
  rfl

end WaitOptions

/-! ## Trying on a clock that only pauses move -/

section Trying

variable {σ α : Type} {x : Timed σ (Option α)} {o : WaitOptions} {start : Nat} {s : σ}

/-- What an attempt gives after so many others. -/
def nthTry (x : Timed σ (Option α)) (o : WaitOptions) (start : Nat) (s : σ) (k : Nat) : Option α :=
  (x (start + o.pollTime k) (x.runAt (o.moments start k) s)).value

/-- And it goes on from the state that those before it left. -/
theorem runAt_moments_succ (k : Nat) :
    (x (start + o.pollTime k) (x.runAt (o.moments start k) s)).state
      = x.runAt (o.moments start (k + 1)) s := by
  rw [WaitOptions.moments_succ, Timed.runAt_append]
  rfl

variable [Clock]

/-- As long as no attempt succeeds, the loop comes to each of its attempts at its time. -/
theorem tryUntil_eq_tryFrom (exact : Clock.Exact) (hx : x.Instant) :
    ∀ k ≤ o.pauses, (∀ j < k, nthTry x o start s j = none) →
      tryUntil o x start s
        = tryFrom o x start k (o.pollTime k) (x.runAt (o.moments start k) s) := by
  intro k
  induction k with
  | zero => exact fun _ _ => by rw [WaitOptions.pollTime_zero]; rfl
  | succ k ih =>
    intro hk hnone
    rw [ih (by omega) fun j hj => hnone j (by omega), tryFrom]
    have hvalue : (x (start + o.pollTime k) (x.runAt (o.moments start k) s)).value = none :=
      hnone k (by omega)
    have hup : ¬ o.timeout ≤ o.pollTime k := fun h =>
      absurd (o.timeout_le_pollTime_iff.mp h) (by omega)
    simp only [hvalue, hx _ _, Nat.add_zero]
    rw [dif_neg hup, exact, o.pollTime_succ (by omega), runAt_moments_succ]

/-- **An attempt that succeeds ends the loop**, and the first one does. -/
theorem tryUntil_found (exact : Clock.Exact) (hx : x.Instant) {k : Nat} {a : α}
    (hk : k ≤ o.pauses) (hnone : ∀ j < k, nthTry x o start s j = none)
    (hsome : nthTry x o start s k = some a) :
    tryUntil o x start s
      = ⟨⟨some a, k + 1, o.pollTime k⟩, x.runAt (o.moments start (k + 1)) s, o.pollTime k⟩ := by
  rw [tryUntil_eq_tryFrom exact hx k hk hnone, tryFrom]
  have hvalue : (x (start + o.pollTime k) (x.runAt (o.moments start k) s)).value = some a := hsome
  simp only [hvalue, hx _ _, Nat.add_zero, runAt_moments_succ]

/-- **If no attempt succeeds**, the loop ends with the attempt at the end of the time. -/
theorem tryUntil_timedOut (exact : Clock.Exact) (hx : x.Instant)
    (hnone : ∀ j ≤ o.pauses, nthTry x o start s j = none) :
    tryUntil o x start s = ⟨⟨none, o.pauses + 1, o.timeout⟩,
      x.runAt (o.moments start (o.pauses + 1)) s, o.timeout⟩ := by
  rw [tryUntil_eq_tryFrom exact hx o.pauses (Nat.le_refl _) fun j hj => hnone j (Nat.le_of_lt hj),
    tryFrom]
  have hvalue : (x (start + o.pollTime o.pauses)
      (x.runAt (o.moments start o.pauses) s)).value = none := hnone o.pauses (Nat.le_refl _)
  simp only [hvalue, hx _ _, Nat.add_zero]
  rw [dif_pos (Nat.le_of_eq o.pollTime_pauses.symm), runAt_moments_succ, o.pollTime_pauses]

end Trying

/-! ## Waiting for a condition -/

/-- What is answered for how trying ended. -/
def PollResult.ofTried {α : Type} (tried : Tried α) : PollResult :=
  match tried.found with
  | some _ => .satisfied tried.attempts tried.elapsed
  | none => .timedOut tried.attempts tried.elapsed

section Polling

variable {σ : Type} (driver : UiDriver σ) (c : Condition σ) (o : WaitOptions) (start : Nat) (s : σ)

/-- An evaluation as an attempt, which succeeds if the condition holds. -/
def Condition.attempt : Timed σ (Option Unit) := fun now s =>
  let evaluation := c.check driver now s
  ⟨if evaluation.value then some () else none, evaluation.state, evaluation.took⟩

/-- Whether the condition holds when it is evaluated after so many other evaluations. -/
def Condition.holdsAfter (k : Nat) : Bool :=
  (c.check driver (start + o.pollTime k) ((c.check driver).runAt (o.moments start k) s)).value

/-- An attempt makes of the state what the evaluation makes of it. -/
theorem runAt_attempt (ts : List Nat) :
    (c.attempt driver).runAt ts s = (c.check driver).runAt ts s := by
  induction ts generalizing s with
  | nil => rfl
  | cons t ts ih => exact ih (c.check driver t s).state

/-- An attempt succeeds when the condition holds. -/
theorem nthTry_attempt (k : Nat) :
    nthTry (c.attempt driver) o start s k
      = if c.holdsAfter driver o start s k then some () else none := by
  rw [nthTry, runAt_attempt]
  rfl

/-- Of the evaluations that a wait may make there is a first that holds, or none holds. -/
theorem holdsAfter_cases :
    (∃ k ≤ o.pauses, c.holdsAfter driver o start s k = true ∧
        ∀ j < k, c.holdsAfter driver o start s j = false) ∨
      ∀ k ≤ o.pauses, c.holdsAfter driver o start s k = false := by
  by_cases h : ∃ k, k ≤ o.pauses ∧ c.holdsAfter driver o start s k = true
  · obtain ⟨hle, htrue⟩ := Nat.find_spec h
    refine Or.inl ⟨Nat.find h, hle, htrue, fun j hj => ?_⟩
    have hmin := Nat.find_min h hj
    rw [Bool.eq_false_iff]
    exact fun hj' => hmin ⟨by omega, hj'⟩
  · refine Or.inr fun k hk => ?_
    rw [Bool.eq_false_iff]
    exact fun hk' => h ⟨k, hk, hk'⟩

variable {driver c o start s}

/-- It makes no difference to a condition that its evaluations are written down. -/
theorem holdsAfter_recorded (what : String) (driver' : UiDriver (σ × List Nat)) (k : Nat) :
    Condition.holdsAfter driver' (.probe what (c.check driver).recorded) o start (s, []) k
      = c.holdsAfter driver o start s k := by
  rw [Condition.holdsAfter, Condition.check, Timed.runAt_recorded]
  rfl

variable [Clock]

/-- A wait for a condition tries to see it hold. -/
theorem pollWait_eq (driver : UiDriver σ) (c : Condition σ) (o : WaitOptions) (start : Nat)
    (s : σ) :
    pollWait driver c o start s =
      ⟨.ofTried (tryUntil o (c.attempt driver) start s).value,
        (tryUntil o (c.attempt driver) start s).state,
        (tryUntil o (c.attempt driver) start s).took⟩ := by
  have hattempt : (do return if ← c.check driver then some () else none : Timed σ (Option Unit))
      = c.attempt driver := rfl
  rw [pollWait, hattempt, PollResult.ofTried]
  simp only [Bind.bind, Timed.bind]
  cases (tryUntil o (c.attempt driver) start s).value.found <;> rfl

/-- The first evaluation that holds ends the wait. -/
theorem pollWait_satisfied (exact : Clock.Exact) (hc : (c.check driver).Instant) {k : Nat}
    (hk : k ≤ o.pauses)
    (hfalse : ∀ j < k, c.holdsAfter driver o start s j = false)
    (htrue : c.holdsAfter driver o start s k = true) :
    pollWait driver c o start s
      = ⟨.satisfied (k + 1) (o.pollTime k),
        (c.check driver).runAt (o.moments start (k + 1)) s, o.pollTime k⟩ := by
  have hnone : ∀ j < k, nthTry (c.attempt driver) o start s j = none := fun j hj => by
    rw [nthTry_attempt, hfalse j hj]
    rfl
  have hsome : nthTry (c.attempt driver) o start s k = some () := by
    rw [nthTry_attempt, htrue]
    rfl
  rw [pollWait_eq, tryUntil_found (x := c.attempt driver) exact hc hk hnone hsome, runAt_attempt]
  rfl

/-- If none holds, the evaluation at the end of the time ends the wait. -/
theorem pollWait_timedOut (exact : Clock.Exact) (hc : (c.check driver).Instant)
    (hfalse : ∀ k ≤ o.pauses, c.holdsAfter driver o start s k = false) :
    pollWait driver c o start s
      = ⟨.timedOut (o.pauses + 1) o.timeout,
        (c.check driver).runAt (o.moments start (o.pauses + 1)) s, o.timeout⟩ := by
  have hnone : ∀ j ≤ o.pauses, nthTry (c.attempt driver) o start s j = none := fun j hj => by
    rw [nthTry_attempt, hfalse j hj]
    rfl
  rw [pollWait_eq, tryUntil_timedOut (x := c.attempt driver) exact hc hnone, runAt_attempt]
  rfl

/-- A wait in vain takes all the time that there is. -/
theorem took_of_not_satisfied (exact : Clock.Exact) (hc : (c.check driver).Instant)
    (h : (pollWait driver c o start s).value.isSatisfied = false) :
    (pollWait driver c o start s).took = o.timeout := by
  rcases holdsAfter_cases driver c o start s with ⟨k, hk, htrue, hfalse⟩ | hfalse
  · rw [pollWait_satisfied exact hc hk hfalse htrue] at h
    cases h
  · rw [pollWait_timedOut exact hc hfalse]

/-- To write down the moments of the evaluations changes nothing else, and what is written down are
the moments of the schedule up to the last evaluation. -/
theorem pollWait_recorded (exact : Clock.Exact) (hc : (c.check driver).Instant) (what : String)
    (driver' : UiDriver (σ × List Nat)) :
    (pollWait driver' (.probe what (c.check driver).recorded) o start (s, [])).value
        = (pollWait driver c o start s).value
      ∧ (pollWait driver' (.probe what (c.check driver).recorded) o start (s, [])).state
        = ((pollWait driver c o start s).state,
          o.moments start (pollWait driver c o start s).value.attempts) := by
  have hc' : (Condition.check driver' (.probe what (c.check driver).recorded)).Instant :=
    fun now s => hc now s.1
  rcases holdsAfter_cases driver c o start s with ⟨k, hk, htrue, hfalse⟩ | hfalse
  · rw [pollWait_satisfied exact hc hk hfalse htrue,
      pollWait_satisfied exact hc' hk (fun j hj => (holdsAfter_recorded ..).trans (hfalse j hj))
        ((holdsAfter_recorded ..).trans htrue), Condition.check, Timed.runAt_recorded]
    exact ⟨rfl, rfl⟩
  · rw [pollWait_timedOut exact hc hfalse,
      pollWait_timedOut exact hc' (fun j hj => (holdsAfter_recorded ..).trans (hfalse j hj)),
      Condition.check, Timed.runAt_recorded]
    exact ⟨rfl, rfl⟩

end Polling

/-- **The schedule of a wait.** On an exact clock that only pauses move, a condition is evaluated at
the times `min (k * interval) timeout` for `k = 0, 1, …` and at no other, where the interval is not
below ten milliseconds. The first evaluation that holds ends the wait, and so does the one at the
end of the time, which is number `⌈timeout / interval⌉ + 1`. What holds from a moment on is seen
less than one interval later, and time is up only at its end. -/
theorem pollWait_schedule {σ : Type} [Clock] (exact : Clock.Exact) (driver : UiDriver σ)
    (c : Condition σ) (o : WaitOptions) (start : Nat) (s : σ)
    (instant : (c.check driver).Instant) :
    let interval := max o.interval 10000000
    let last := o.timeout ⌈/⌉ interval
    let time := fun k => min (k * interval) o.timeout
    let moments := fun evaluations => (List.range evaluations).map fun k => start + time k
    let stateAfter := fun evaluations => (c.check driver).runAt (moments evaluations) s
    let holds := fun k => (c.check driver (start + time k) (stateAfter k)).value
    let run := pollWait driver c o start s
    (∀ k ≤ last, holds k = true → (∀ j < k, holds j = false) →
        run = ⟨.satisfied (k + 1) (time k), stateAfter (k + 1), time k⟩)
      ∧ ((∀ k ≤ last, holds k = false) →
        run = ⟨.timedOut (last + 1) o.timeout, stateAfter (last + 1), o.timeout⟩)
      ∧ (∀ what driver',
        let noted := pollWait driver' (.probe what (c.check driver).recorded) o start (s, [])
        noted.value = run.value ∧ noted.state = (run.state, moments run.value.attempts))
      ∧ (∀ f ≤ o.timeout, (∀ k ≤ last, holds k = decide (f ≤ time k)) →
        ∃ k, run.value = .satisfied (k + 1) (time k) ∧ f ≤ time k
          ∧ (∀ j < k, time j < f) ∧ time k < f + interval)
      ∧ (∀ attempts elapsed, run.value = .timedOut attempts elapsed →
        attempts = last + 1 ∧ elapsed = o.timeout ∧ run.took = o.timeout) := by
  intro interval last time moments stateAfter holds run
  have hsat : ∀ k ≤ last, holds k = true → (∀ j < k, holds j = false) →
      run = ⟨.satisfied (k + 1) (time k), stateAfter (k + 1), time k⟩ :=
    fun k hk htrue hfalse => pollWait_satisfied exact instant hk hfalse htrue
  refine ⟨hsat, pollWait_timedOut exact instant, pollWait_recorded exact instant, ?_, ?_⟩
  · intro f hf hholds
    rcases holdsAfter_cases driver c o start s with ⟨k, (hk : k ≤ last), htrue, hfalse⟩ | hfalse
    · have hseen : f ≤ time k := of_decide_eq_true ((hholds k hk).symm.trans htrue)
      have hunseen : ∀ j < k, time j < f := fun j hj =>
        Nat.lt_of_not_le (of_decide_eq_false ((hholds j (by omega)).symm.trans (hfalse j hj)))
      refine ⟨k, congrArg Timed.Outcome.value (hsat k hk htrue hfalse), hseen, hunseen, ?_⟩
      cases k with
      | zero => simp only [time, interval]; omega
      | succ k =>
        have := hunseen k (Nat.lt_succ_self k)
        simp only [time, Nat.succ_mul] at this ⊢
        omega
    · -- The evaluation at the end of the time cannot miss what holds from `f` on.
      have hend := (hholds last (Nat.le_refl _)).symm.trans (hfalse last (Nat.le_refl _))
      have hlast : time last = o.timeout := o.pollTime_pauses
      rw [hlast] at hend
      exact absurd hf (of_decide_eq_false hend)
  · intro attempts elapsed hrun
    rcases holdsAfter_cases driver c o start s with ⟨k, hk, htrue, hfalse⟩ | hfalse
    · rw [hsat k hk htrue hfalse] at hrun
      cases hrun
    · have htimedOut : run = _ := pollWait_timedOut exact instant hfalse
      rw [htimedOut] at hrun ⊢
      cases hrun
      exact ⟨rfl, rfl, rfl⟩

/-- What comes after 1.2 seconds is seen after 1.5, by the fourth of the evaluations that are made
twice a second. With 25 milliseconds of time, evaluations that are asked for every 3 are made after
0, 10, 20 and 25: what comes after 22 is seen by the last of them, and what comes later is not. -/
theorem pollWait_schedule_rehearsed :
    letI : Clock := .punctual
    let come := fun moment => Condition.probe "the mark" (Rehearsal.hasCome moment)
    let r : Rehearsal := { desktop := Desktop.empty }
    Clock.Exact ∧ (∀ moment, ((come moment).check Rehearsal.driver).Instant)
      ∧ pollWait Rehearsal.driver (come 1200000000) ⟨5000000000, 500000000⟩ 0 r
        = ⟨.satisfied 4 1500000000, r, 1500000000⟩
      ∧ pollWait Rehearsal.driver (come 22000000) ⟨25000000, 3000000⟩ 0 r
        = ⟨.satisfied 4 25000000, r, 25000000⟩
      ∧ pollWait Rehearsal.driver (come 26000000) ⟨25000000, 3000000⟩ 0 r
        = ⟨.timedOut 4 25000000, r, 25000000⟩
      ∧ ∀ driver', (pollWait driver' (.probe "the mark" ((come 26000000).check
          Rehearsal.driver).recorded) ⟨25000000, 3000000⟩ 0 (r, [])).state
        = (r, [0, 10000000, 20000000, 25000000]) := by
  let _ : Clock := .punctual
  let come := fun moment => Condition.probe "the mark" (Rehearsal.hasCome moment)
  let r : Rehearsal := { desktop := Desktop.empty }
  have hinstant : ∀ moment, ((come moment).check Rehearsal.driver).Instant := fun _ _ _ => rfl
  have seen := pollWait_schedule Clock.exact_punctual Rehearsal.driver (come 1200000000)
    ⟨5000000000, 500000000⟩ 0 r (hinstant _)
  have seenLast := pollWait_schedule Clock.exact_punctual Rehearsal.driver (come 22000000)
    ⟨25000000, 3000000⟩ 0 r (hinstant _)
  have missed := pollWait_schedule Clock.exact_punctual Rehearsal.driver (come 26000000)
    ⟨25000000, 3000000⟩ 0 r (hinstant _)
  have hmissed := missed.2.1 (by decide)
  refine ⟨Clock.exact_punctual, hinstant, seen.1 3 (by decide) rfl (by decide),
    seenLast.1 3 (by decide) rfl (by decide), hmissed, fun driver' => ?_⟩
  rw [(missed.2.2.1 "the mark" driver').2, hmissed]
  rfl

end GuiTest
