import GuiTest.Proofs.Application.Desktop
import GuiTest.Proofs.Waiting.Schedule

/-!
# What becomes of a rehearsal

A call of a rehearsal's driver first makes the changes that are due. Then it fails as it was told
to, or does to the desktop what it is for (`call_cases`); it takes no time. So to ask for the
elements again and again leaves the desktop as it would have become by itself (`course_runAt_dump`),
and that way no gesture is ever recorded (`calls_lapse`).
-/

namespace GuiTest

namespace Rehearsal

variable {α : Type} (r : Rehearsal) (now : Nat)

/-! ## What happens by itself -/

/-- What a rehearsal becomes by itself when its moments come one after the other. -/
def lapse (moments : List Nat) : Rehearsal := moments.foldl (fun r t => r.applyDue t) r

/-- No change is a gesture. -/
theorem calls_changed (d : Desktop) (c : Change) : (changed d c).calls = d.calls := by
  cases c with
  | addContext | removeContext => rfl
  | updateTree ctx edits =>
    show (Desktop.Operation.runOn (Desktop.updateTree ctx _) d).2.calls = d.calls
    rw [Desktop.updateTree, Desktop.runOn_bind, Desktop.runOn_tree]
    cases d.shown ctx with
    | ok forest => rfl
    | error e => rfl

/-- Nor are the changes that are due together. -/
theorem calls_foldl_changed (due : List (Nat × Change)) (d : Desktop) :
    (due.foldl (fun d (_, c) => changed d c) d).calls = d.calls := by
  induction due generalizing d with
  | nil => rfl
  | cons c due ih => rw [List.foldl_cons, ih, calls_changed]

theorem calls_applyDue : (r.applyDue now).desktop.calls = r.desktop.calls :=
  calls_foldl_changed _ r.desktop

theorem calls_lapse (moments : List Nat) : (r.lapse moments).desktop.calls = r.desktop.calls := by
  rw [lapse]
  induction moments generalizing r with
  | nil => rfl
  | cons t moments ih => rw [List.foldl_cons, ih, calls_applyDue]

/-- What there is, and what is still to come. -/
def course : Desktop × List (Nat × Change) := (r.desktop, r.scheduled)

variable {r} in
/-- What happens by itself depends on nothing else. -/
theorem course_applyDue {r' : Rehearsal} (h : r.course = r'.course) :
    (r.applyDue now).course = (r'.applyDue now).course := by
  obtain ⟨hdesktop, hscheduled⟩ := Prod.mk.inj h
  rw [applyDue, applyDue, course, course, hdesktop, hscheduled]

/-! ## What a call comes to -/

/-- A call fails if a failure is due, and else it is what the desktop does. -/
theorem run_call (kind : CallKind) (x : Desktop.Operation α) :
    (call kind x).run now r =
      match takeFailure kind (r.applyDue now).failures with
      | some (message, failures) =>
        ⟨.error (.commandFailed message), { r.applyDue now with failures }, 0⟩
      | none => (onDesktop x).run now (r.applyDue now) := rfl

/-- A call fails as it was told to, or is passed on to the desktop as it has become by now. -/
theorem call_cases (kind : CallKind) (x : Desktop.Operation α) :
    (∃ message failures, (call kind x).run now r
        = ⟨.error (.commandFailed message), { r.applyDue now with failures }, 0⟩)
      ∨ (call kind x).run now r
        = ⟨(x.runOn (r.applyDue now).desktop).1,
          { r.applyDue now with desktop := (x.runOn (r.applyDue now).desktop).2 }, 0⟩ := by
  rw [run_call]
  cases takeFailure kind (r.applyDue now).failures with
  | some failure => exact Or.inl ⟨failure.1, failure.2, rfl⟩
  | none => exact Or.inr rfl

/-- To ask for the elements is to count it and to call. -/
theorem run_dump (ctx : AppContext) :
    (driver.dump ctx).run now r
      = ⟨((call .dump (Desktop.tree ctx)).run now { r with dumps := r.dumps + 1 }).value,
        ((call .dump (Desktop.tree ctx)).run now { r with dumps := r.dumps + 1 }).state,
        ((call .dump (Desktop.tree ctx)).run now { r with dumps := r.dumps + 1 }).took⟩ := by
  show (⟨_, _, 0 + _⟩ : Timed.Outcome Rehearsal (Except DriverError Forest)) = _
  rw [Nat.zero_add]
  rfl

theorem course_dump (ctx : AppContext) :
    ((driver.dump ctx).run now r).state.course = (r.applyDue now).course := by
  have hdue : ({ r with dumps := r.dumps + 1 } : Rehearsal).course = r.course := rfl
  rw [run_dump, ← course_applyDue now hdue]
  rcases call_cases { r with dumps := r.dumps + 1 } now .dump (Desktop.tree ctx) with
    ⟨message, failures, hrun⟩ | hrun
  · rw [hrun]
    rfl
  · rw [hrun, Desktop.runOn_tree]

/-- To ask for the elements takes no time. -/
theorem instant_dump (ctx : AppContext) : (driver.dump ctx).run.Instant := by
  intro now r
  rw [run_dump]
  rcases call_cases { r with dumps := r.dumps + 1 } now .dump (Desktop.tree ctx) with
    ⟨message, failures, hrun⟩ | hrun
  · rw [hrun]
  · rw [hrun]

/-- To ask for the elements changes nothing that does not change by itself. -/
theorem course_runAt_dump (ctx : AppContext) (moments : List Nat) :
    ((driver.dump ctx).run.runAt moments r).course = (r.lapse moments).course := by
  suffices h : ∀ r' : Rehearsal, r'.course = r.course →
      ((driver.dump ctx).run.runAt moments r').course = (r.lapse moments).course from h r rfl
  induction moments generalizing r with
  | nil => exact fun _ h => h
  | cons t moments ih =>
    intro r' h
    refine ih (r.applyDue t) _ ?_
    rw [course_dump, course_applyDue t h]

end Rehearsal

end GuiTest
