import GuiTest.Proofs.Application.Rehearsal

/-!
# Drivers that forward to a desktop

A driver may stand before a desktop (`UiDriver.Forwards`): it passes its calls on, or lets them
fail, and all of the desktop may change at any time but its record of gestures. Then a click that
succeeds is recorded once, and nothing is recorded of one that fails or of a look (`calls_click`,
`calls_dump`). The driver of a rehearsal is one of them (`Rehearsal.forwards`).
-/

namespace GuiTest

section Forwarding

variable {σ α : Type}

/-- An attempt does an operation to the desktop that it stands before, as that has become by then,
or it fails and does nothing to it. But for the record of gestures the desktop may change before and
after that. -/
def ForwardsTo (desktop : σ → Desktop) (x : Attempt σ DriverError α)
    (operation : Desktop.Operation α) : Prop :=
  ∀ now s, ∃ d : Desktop, d.calls = (desktop s).calls
    ∧ ((∃ e, (x.run now s).value = .error e ∧ (desktop (x.run now s).state).calls = d.calls)
      ∨ ((x.run now s).value = (operation.runOn d).1
        ∧ (desktop (x.run now s).state).calls = (operation.runOn d).2.calls))

/-- A driver stands before a desktop. It answers at once when it is asked for elements. -/
structure UiDriver.Forwards (driver : UiDriver σ) (desktop : σ → Desktop) : Prop where
  contexts : ForwardsTo desktop driver.contexts do return (← get).liveContexts
  dump (ctx : AppContext) : ForwardsTo desktop (driver.dump ctx) (Desktop.tree ctx)
  click (ctx : AppContext) (l : Locator) :
    ForwardsTo desktop (driver.click ctx l) (Desktop.click ctx l)
  typeText (ctx : AppContext) (l : Locator) (text : String) :
    ForwardsTo desktop (driver.typeText ctx l text) (Desktop.typeText ctx l text)
  pressKeys (ctx : AppContext) (l : Locator) (keys : String) :
    ForwardsTo desktop (driver.pressKeys ctx l keys) (Desktop.pressKeys ctx l keys)
  instant (ctx : AppContext) : (driver.dump ctx).run.Instant

namespace UiDriver.Forwards

variable {driver : UiDriver σ} {desktop : σ → Desktop} (h : driver.Forwards desktop)
  (ctx : AppContext) (l : Locator) (now : Nat) (s : σ)
include h

/-- To ask for the elements is not recorded. -/
theorem calls_dump :
    (desktop ((driver.dump ctx).run now s).state).calls = (desktop s).calls := by
  obtain ⟨d, hd, ⟨e, -, hleft⟩ | ⟨-, hleft⟩⟩ := h.dump ctx now s
  · rw [hleft, hd]
  · rw [hleft, Desktop.runOn_tree, hd]

/-- A click is recorded if it succeeds, and else nothing is. -/
theorem calls_click :
    (desktop ((driver.click ctx l).run now s).state).calls = (desktop s).calls
      ++ if ((driver.click ctx l).run now s).value.isOk then
          [⟨.click, ctx.name, l.describe⟩] else [] := by
  obtain ⟨d, hd, ⟨e, hvalue, hleft⟩ | ⟨hvalue, hleft⟩⟩ := h.click ctx l now s
  · rw [hvalue, hleft, hd]
    exact (List.append_nil _).symm
  · have hrun := Desktop.runOn_perform ctx l .click d
    rw [Desktop.perform] at hrun
    rw [hrun] at hvalue hleft
    cases haim : d.aim ctx l with
    | ok p =>
      rw [haim] at hvalue hleft
      rw [hvalue, hleft, Desktop.calls_hit, ← hd]
      rfl
    | error e =>
      rw [haim] at hvalue hleft
      rw [hvalue, hleft, hd]
      exact (List.append_nil _).symm

end UiDriver.Forwards

end Forwarding

namespace Rehearsal

theorem forwardsTo_call {α : Type} (kind : CallKind) (x : Desktop.Operation α) :
    ForwardsTo desktop (call kind x) x := by
  intro now r
  refine ⟨(r.applyDue now).desktop, r.calls_applyDue now, ?_⟩
  rcases r.call_cases now kind x with ⟨message, failures, hrun⟩ | hrun
  · rw [hrun]
    exact Or.inl ⟨_, rfl, rfl⟩
  · rw [hrun]
    exact Or.inr ⟨rfl, rfl⟩

/-- **A rehearsal stands before its desktop.** -/
theorem forwards : driver.Forwards desktop where
  contexts := forwardsTo_call .contexts _
  dump ctx := by
    intro now r
    rw [run_dump]
    exact forwardsTo_call .dump (Desktop.tree ctx) now { r with dumps := r.dumps + 1 }
  click ctx l := forwardsTo_call .click (Desktop.click ctx l)
  typeText ctx l text := forwardsTo_call .typeText (Desktop.typeText ctx l text)
  pressKeys ctx l keys := forwardsTo_call .pressKeys (Desktop.pressKeys ctx l keys)
  instant ctx := instant_dump ctx

end Rehearsal

end GuiTest
