import Mathlib.Algebra.Group.Nat.Even
import GuiTest.Proofs.Waiting.Schedule

/-!
# Failures of the driver during a wait

What is asked of the driver counts as not being so where the driver fails. A negation turns this
around with the rest: whether a failing evaluation holds is told by the number of negations alone
(`Condition.FailsAt.check_eq`). A wait is satisfied by the evaluation that it ends with
(`pollWait_eq_satisfied_iff`), so failures never satisfy a wait for a condition that is negated an
even number of times, and they always do if that number is odd (`pollWait_failure`).
-/

namespace GuiTest

namespace Attempt

variable {σ ε α β : Type} {x : Attempt σ ε α} {now : Nat} {s : σ}

/-- An attempt at a moment in a state comes to an error. -/
def FailsAt (x : Attempt σ ε α) (now : Nat) (s : σ) : Prop :=
  ∃ e, (x.run now s).value = Except.error e

/-- What begins with a failure fails. -/
theorem FailsAt.bind (h : FailsAt x now s) (f : α → Attempt σ ε β) : FailsAt (x >>= f) now s := by
  obtain ⟨e, he⟩ := h
  refine ⟨e, ?_⟩
  show (Timed.bind x.run _ now s).value = Except.error e
  rw [Timed.bind, he]
  rfl

theorem FailsAt.find {driver : UiDriver σ} {ctx : AppContext}
    (h : FailsAt (driver.dump ctx) now s) (l : Locator) : FailsAt (driver.find ctx l) now s :=
  h.bind _

theorem FailsAt.exists? {driver : UiDriver σ} {ctx : AppContext}
    (h : FailsAt (driver.dump ctx) now s) (l : Locator) : FailsAt (driver.exists? ctx l) now s :=
  (h.find l).bind _

/-- A failure is no success, whatever would pass. -/
theorem FailsAt.succeeds (h : FailsAt x now s) (passes : α → Bool) :
    (Condition.succeeds x passes now s).value = false := by
  obtain ⟨e, he⟩ := h
  show (Timed.bind x.run _ now s).value = false
  rw [Timed.bind, he]
  rfl

end Attempt

namespace Condition

variable {σ : Type} {driver : UiDriver σ} {c : Condition σ} {now : Nat} {s : σ}

/-- How many negations there are around what is asked of the driver. -/
def negations : Condition σ → Nat
  | not c => c.negations + 1
  | _ => 0

/-- The driver fails when a condition is evaluated at a moment in a state. -/
def FailsAt (driver : UiDriver σ) (now : Nat) (s : σ) : Condition σ → Prop
  | elementExists ctx _ => Attempt.FailsAt (driver.dump ctx) now s
  | elementAbsent ctx _ => Attempt.FailsAt (driver.dump ctx) now s
  | textEquals ctx _ _ => Attempt.FailsAt (driver.dump ctx) now s
  | contextCount _ => Attempt.FailsAt driver.contexts now s
  | contextNamed _ => Attempt.FailsAt driver.contexts now s
  | probe _ _ => False
  | not c => c.FailsAt driver now s

/-- **A failing evaluation** holds exactly if there is an odd number of negations. -/
theorem FailsAt.check_eq (h : c.FailsAt driver now s) :
    (c.check driver now s).value = decide (Odd c.negations) := by
  induction c with
  | elementExists ctx l => exact (h.exists? l).succeeds _
  | elementAbsent ctx l => exact (h.exists? l).succeeds _
  | textEquals ctx l expected => exact (h.find l).succeeds _
  | contextCount demand => exact h.succeeds _
  | contextNamed leading => exact h.succeeds _
  | probe what evaluate => cases h
  | not c ih =>
    have hnot : ((not c).check driver now s).value = !(c.check driver now s).value := rfl
    rw [hnot, ih h, negations, ← decide_not]
    exact decide_eq_decide.mpr Nat.odd_add_one.symm

end Condition

/-! ## The evaluations of a wait -/

section Evaluations

variable {σ : Type} [Clock] {driver : UiDriver σ} {c : Condition σ} {o : WaitOptions} {start : Nat}
  {s t t' : σ} {k spent spent' : Nat}

/-- A wait comes to evaluate its condition after so many other evaluations, when so much time is
spent, in a state: first at the start, and again after an evaluation in time that does not hold. -/
inductive EvaluatesAt (driver : UiDriver σ) (c : Condition σ) (o : WaitOptions) (start : Nat)
    (s : σ) : Nat → Nat → σ → Prop where
  | first : EvaluatesAt driver c o start s 0 0 s
  | again {k spent : Nat} {t : σ} (h : EvaluatesAt driver c o start s k spent t)
    (hfalse : (c.check driver (start + spent) t).value = false)
    (hleft : spent + (c.check driver (start + spent) t).took < o.timeout) :
    EvaluatesAt driver c o start s (k + 1)
      (spent + (c.check driver (start + spent) t).took
        + Clock.asleep (start + (spent + (c.check driver (start + spent) t).took))
          (min o.pause (o.timeout - (spent + (c.check driver (start + spent) t).took))))
      (c.check driver (start + spent) t).state

namespace EvaluatesAt

/-- An evaluation has one time. -/
theorem unique (h : EvaluatesAt driver c o start s k spent t)
    (h' : EvaluatesAt driver c o start s k spent' t') : spent = spent' ∧ t = t' := by
  induction h generalizing spent' t' with
  | first =>
    cases h'
    exact ⟨rfl, rfl⟩
  | again _ _ _ ih =>
    cases h' with
    | again h' _ _ =>
      obtain ⟨rfl, rfl⟩ := ih h'
      exact ⟨rfl, rfl⟩

/-- The loop goes on from each of its evaluations. -/
theorem tryUntil_eq (h : EvaluatesAt driver c o start s k spent t) :
    tryUntil o (c.attempt driver) start s = tryFrom o (c.attempt driver) start k spent t := by
  induction h with
  | first => rfl
  | again h hfalse hleft ih =>
    rw [ih, tryFrom]
    simp only [Condition.attempt, hfalse]
    rw [dif_neg (Nat.not_le.mpr hleft)]
    rfl

/-- An evaluation that holds ends the wait. -/
theorem pollWait_eq (h : EvaluatesAt driver c o start s k spent t)
    (htrue : (c.check driver (start + spent) t).value = true) :
    (pollWait driver c o start s).value
      = .satisfied (k + 1) (spent + (c.check driver (start + spent) t).took) := by
  rw [GuiTest.pollWait_eq, h.tryUntil_eq, tryFrom]
  simp only [Condition.attempt, htrue]
  rfl

/-- If the loop finds something, it comes to an evaluation that holds. -/
theorem exists_of_found (h : EvaluatesAt driver c o start s k spent t)
    (hfound : (tryFrom o (c.attempt driver) start k spent t).value.found.isSome) :
    ∃ k' spent' t', EvaluatesAt driver c o start s k' spent' t'
      ∧ (c.check driver (start + spent') t').value = true := by
  -- Along the loop: it found something now, gave up without, or goes on to an evaluation in time.
  induction k, spent, t using tryFrom.induct o (c.attempt driver) start with
  | case1 k spent t _ a hsome =>
    refine ⟨k, spent, t, h, ?_⟩
    by_contra hne
    cases hsome.symm.trans (if_neg hne)
  | case2 k spent t _ _ hnone hup =>
    rw [tryFrom, hnone] at hfound
    rw [dif_pos hup] at hfound
    cases hfound
  | case3 k spent t _ _ hnone hleft ih =>
    have hfalse : (c.check driver (start + spent) t).value = false := by
      by_contra htrue
      rw [Bool.not_eq_false] at htrue
      cases hnone.symm.trans (if_pos htrue)
    rw [tryFrom, hnone] at hfound
    rw [dif_neg hleft] at hfound
    exact ih (h.again hfalse (Nat.not_le.mp hleft)) hfound

end EvaluatesAt

/-- **A wait is satisfied by the evaluation that it ends with.** -/
theorem pollWait_eq_satisfied_iff {attempts elapsed : Nat} :
    (pollWait driver c o start s).value = .satisfied attempts elapsed ↔
      ∃ k spent t, EvaluatesAt driver c o start s k spent t
        ∧ (c.check driver (start + spent) t).value = true
        ∧ attempts = k + 1 ∧ elapsed = spent + (c.check driver (start + spent) t).took := by
  constructor
  · intro h
    have hfound : (tryUntil o (c.attempt driver) start s).value.found.isSome := by
      rw [pollWait_eq, PollResult.ofTried] at h
      split at h
      next a hsome => rw [hsome]; rfl
      next => cases h
    obtain ⟨k, spent, t, heval, htrue⟩ := EvaluatesAt.first.exists_of_found hfound
    cases h.symm.trans (heval.pollWait_eq htrue)
    exact ⟨k, spent, t, heval, htrue, rfl, rfl⟩
  · rintro ⟨k, spent, t, heval, htrue, rfl, rfl⟩
    exact heval.pollWait_eq htrue

end Evaluations

/-- **What a failure of the driver does to a wait.** An evaluation in which the driver fails holds
exactly if there is an odd number of negations around what is asked. A wait is satisfied by an
evaluation that holds; so with an even number it is never satisfied by one in which the driver
fails, and with an odd number the first such evaluation that it comes to ends it, as satisfied. -/
theorem pollWait_failure {σ : Type} [Clock] (driver : UiDriver σ) (c : Condition σ)
    (o : WaitOptions) (start : Nat) (s : σ) :
    let run := pollWait driver c o start s
    (∀ now t, c.FailsAt driver now t → (c.check driver now t).value = decide (Odd c.negations))
      ∧ (∀ attempts elapsed, run.value = .satisfied attempts elapsed ↔
        ∃ k spent t, EvaluatesAt driver c o start s k spent t
          ∧ (c.check driver (start + spent) t).value = true
          ∧ attempts = k + 1 ∧ elapsed = spent + (c.check driver (start + spent) t).took)
      ∧ (Even c.negations → ∀ k spent t, EvaluatesAt driver c o start s k spent t →
        c.FailsAt driver (start + spent) t → ∀ elapsed, run.value ≠ .satisfied (k + 1) elapsed)
      ∧ (Odd c.negations → ∀ k spent t, EvaluatesAt driver c o start s k spent t →
        c.FailsAt driver (start + spent) t →
          run.value = .satisfied (k + 1) (spent + (c.check driver (start + spent) t).took)) := by
  intro run
  refine ⟨fun now t h => h.check_eq, fun _ _ => pollWait_eq_satisfied_iff, ?_, ?_⟩
  · intro heven k spent t heval hfails elapsed hrun
    obtain ⟨k', spent', t', heval', htrue, hattempts, -⟩ := pollWait_eq_satisfied_iff.mp hrun
    cases hattempts
    -- The evaluation with this number is the one that failed.
    obtain ⟨rfl, rfl⟩ := heval.unique heval'
    rw [hfails.check_eq, decide_eq_true_iff] at htrue
    exact Nat.not_even_iff_odd.mpr htrue heven
  · intro hodd k spent t heval hfails
    exact heval.pollWait_eq (hfails.check_eq.trans (decide_eq_true hodd))

/-- A failure of the driver satisfies a wait for something not to be there that is there. -/
theorem pollWait_failure_negated :
    letI : Clock := .punctual
    let ide : AppContext := ⟨1, "devenv", none⟩
    let dialog : Locator := ⟨⟨[.kind "Dialog"], none⟩, []⟩
    let gone : Condition Rehearsal := .not (.elementExists ide dialog)
    let r : Rehearsal := {
      desktop := { contexts := [⟨ide, [.ofKind "Dialog"]⟩] }
      failures := [⟨.dump, 1, "window is being torn down"⟩] }
    gone.FailsAt Rehearsal.driver 0 r ∧ (gone.check Rehearsal.driver 0 r).value = true
      ∧ (pollWait Rehearsal.driver gone ⟨20000000, 10000000⟩ 0 r).value = .satisfied 1 0 := by
  let _ : Clock := .punctual
  intro ide dialog gone r
  have htrue : (gone.check Rehearsal.driver 0 r).value = true := rfl
  exact ⟨⟨_, rfl⟩, htrue, EvaluatesAt.first.pollWait_eq htrue⟩

end GuiTest
