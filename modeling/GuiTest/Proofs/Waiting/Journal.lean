import GuiTest.Waiting.Retry

/-!
# Journals of drivers

A driver can keep a journal of its calls: when each came and what was answered to it
(`UiDriver.journaled`). What a computation does with a driver can then be read off the journal that
it leaves (`MakesCalls`). To keep a journal changes nothing else: what is put together from
computations of which one keeps a journal of the other is related in the same way (`Accounts`), up
to waits and repeated actions.
-/

namespace GuiTest

/-- A call of a driver, with the moment at which it came and the answer to it. -/
inductive DriverCall where
  | contexts (now : Nat) (answer : Except DriverError (List AppContext))
  | dump (now : Nat) (ctx : AppContext) (answer : Except DriverError Forest)
  | act (now : Nat) (ctx : AppContext) (l : Locator) (action : Action)
    (answer : Except DriverError Unit)

section Journal

variable {σ ε α β : Type}

/-- An attempt that in addition makes an entry in a journal. -/
def Attempt.journaled (x : Attempt σ ε α) (entry : Nat → Except ε α → DriverCall) :
    Attempt (σ × List DriverCall) ε α :=
  ExceptT.mk fun now s =>
    let outcome := x.run now s.1
    ⟨outcome.value, (outcome.state, s.2 ++ [entry now outcome.value]), outcome.took⟩

/-- A driver that in addition keeps a journal. -/
def UiDriver.journaled (driver : UiDriver σ) : UiDriver (σ × List DriverCall) where
  contexts := Attempt.journaled driver.contexts .contexts
  dump ctx := Attempt.journaled (driver.dump ctx) fun now => .dump now ctx
  click ctx l := Attempt.journaled (driver.click ctx l) fun now => .act now ctx l .click
  doubleClick ctx l :=
    Attempt.journaled (driver.doubleClick ctx l) fun now => .act now ctx l .doubleClick
  typeText ctx l text :=
    Attempt.journaled (driver.typeText ctx l text) fun now => .act now ctx l (.typeText text)
  pressKeys ctx l keys :=
    Attempt.journaled (driver.pressKeys ctx l keys) fun now => .act now ctx l (.pressKeys keys)

/-- What is done with a driver makes these calls. The journal in which they are found does not
change what else is done. -/
def MakesCalls (run : ∀ {τ : Type}, UiDriver τ → Timed τ α) (driver : UiDriver σ) (now : Nat)
    (s : σ) (calls : List DriverCall) : Prop :=
  run driver.journaled now (s, [])
    = ⟨(run driver now s).value, ((run driver now s).state, calls), (run driver now s).took⟩

/-- A way to account for what becomes of a state by calls, which can be done piece by piece. -/
structure Account (σ : Type) where
  holds : σ → List DriverCall → σ → Prop
  nil : ∀ s, holds s [] s
  append : ∀ {s t u : σ} {first rest : List DriverCall}, holds s first t → holds t rest u →
    holds s (first ++ rest) u

/-- A computation keeps a journal of what another one does, and the calls in it account for what
becomes of the state. -/
def Accounts (account : Account σ) (x' : Timed (σ × List DriverCall) α) (x : Timed σ α) : Prop :=
  ∀ now s log, ∃ calls,
    x' now (s, log) = ⟨(x now s).value, ((x now s).state, log ++ calls), (x now s).took⟩
      ∧ account.holds s calls (x now s).state

namespace Accounts

variable {account : Account σ}

/-- What is accounted for makes the calls that its account holds of. -/
theorem makesCalls {run : ∀ {τ : Type}, UiDriver τ → Timed τ α} {driver : UiDriver σ}
    (h : Accounts account (run driver.journaled) (run driver)) (now : Nat) (s : σ) :
    ∃ calls, MakesCalls run driver now s calls
      ∧ account.holds s calls (run driver now s).state := by
  obtain ⟨calls, hrun, hcalls⟩ := h now s []
  rw [List.nil_append] at hrun
  exact ⟨calls, hrun, hcalls⟩

/-- An attempt that makes an entry by itself. -/
theorem journaled {x : Attempt σ ε α} {entry : Nat → Except ε α → DriverCall}
    (h : ∀ now s, account.holds s [entry now (x.run now s).value] (x.run now s).state) :
    Accounts account (Attempt.journaled x entry).run x.run :=
  fun now s _ => ⟨[entry now (x.run now s).value], rfl, h now s⟩

/-! ## Putting computations together -/

protected theorem pure (a : α) : Accounts account (pure a) (pure a) := by
  intro now s log
  refine ⟨[], ?_, account.nil s⟩
  rw [List.append_nil]
  rfl

protected theorem sleep [Clock] (duration : Nat) :
    Accounts account (Timed.sleep duration) (Timed.sleep duration) := by
  intro now s log
  refine ⟨[], ?_, account.nil s⟩
  rw [List.append_nil]
  rfl

/-- The journal of a computation that follows comes after that of the first. -/
protected theorem bind {x' : Timed (σ × List DriverCall) α} {x : Timed σ α}
    {f' : α → Timed (σ × List DriverCall) β} {f : α → Timed σ β} (hx : Accounts account x' x)
    (hf : ∀ a, Accounts account (f' a) (f a)) : Accounts account (x' >>= f') (x >>= f) := by
  intro now s log
  obtain ⟨first, hfirst, hfirstCalls⟩ := hx now s log
  -- What follows goes on from the state, and with the journal, that the first leaves.
  obtain ⟨rest, hrest, hrestCalls⟩ :=
    hf (x now s).value (now + (x now s).took) (x now s).state (log ++ first)
  refine ⟨first ++ rest, ?_, account.append hfirstCalls hrestCalls⟩
  show Timed.bind x' f' now (s, log) = _
  rw [Timed.bind, hfirst]
  dsimp only
  rw [hrest, List.append_assoc]
  rfl

/-- What follows an attempt is left out if the attempt fails. -/
protected theorem bindAttempt {x' : Attempt (σ × List DriverCall) ε α} {x : Attempt σ ε α}
    {f' : α → Attempt (σ × List DriverCall) ε β} {f : α → Attempt σ ε β}
    (hx : Accounts account x'.run x.run) (hf : ∀ a, Accounts account (f' a).run (f a).run) :
    Accounts account (x' >>= f').run (x >>= f).run := by
  rw [ExceptT.run_bind, ExceptT.run_bind]
  refine hx.bind fun r => ?_
  cases r with
  | ok a => exact hf a
  | error e => exact .pure _

protected theorem lift {x' : Timed (σ × List DriverCall) α} {x : Timed σ α}
    (hx : Accounts account x' x) :
    Accounts account (ExceptT.lift x' : Attempt _ ε α).run (ExceptT.lift x : Attempt _ ε α).run :=
  hx.bind fun a => .pure (Except.ok a)

protected theorem adapt {δ : Type} {x' : Attempt (σ × List DriverCall) ε α} {x : Attempt σ ε α}
    (f : ε → δ) (hx : Accounts account x'.run x.run) :
    Accounts account (x'.adapt f).run (x.adapt f).run :=
  hx.bind fun r => .pure (r.mapError f)

/-- A wait is accounted for if each evaluation is. -/
theorem tryFrom [Clock] {o : WaitOptions} {x' : Timed (σ × List DriverCall) (Option α)}
    {x : Timed σ (Option α)} (hx : Accounts account x' x) (start attempts spent : Nat) (s : σ)
    (log : List DriverCall) :
    let run := GuiTest.tryFrom o x start attempts spent s
    ∃ calls, GuiTest.tryFrom o x' start attempts spent (s, log)
        = ⟨run.value, (run.state, log ++ calls), run.took⟩
      ∧ account.holds s calls run.state := by
  intro run
  -- Along the loop: it found something now, gave up without, or goes on after a pause.
  induction attempts, spent, s using tryFrom.induct o x start generalizing log with
  | case1 attempts spent s _ a hfound =>
    obtain ⟨calls, hrun, hcalls⟩ := hx (start + spent) s log
    have hfound' := (congrArg Timed.Outcome.value hrun).trans hfound
    have heq : run = _ := tryFrom_of_some hfound
    rw [heq, tryFrom_of_some hfound', hrun]
    exact ⟨calls, rfl, hcalls⟩
  | case2 attempts spent s _ _ hnone hup =>
    obtain ⟨calls, hrun, hcalls⟩ := hx (start + spent) s log
    have hnone' := (congrArg Timed.Outcome.value hrun).trans hnone
    have heq : run = _ := tryFrom_of_up hnone hup
    rw [heq, tryFrom_of_up hnone' (by rw [hrun]; exact hup), hrun]
    exact ⟨calls, rfl, hcalls⟩
  | case3 attempts spent s outcome spentNow hnone hleft ih =>
    obtain ⟨first, hrun, hfirst⟩ := hx (start + spent) s log
    obtain ⟨rest, hrest, hcalls⟩ := ih (log ++ first)
    have hnone' := (congrArg Timed.Outcome.value hrun).trans hnone
    have heq : run = _ := tryFrom_of_left hnone hleft
    rw [heq, tryFrom_of_left hnone' (by rw [hrun]; exact hleft), hrun]
    refine ⟨first ++ rest, ?_, account.append hfirst hcalls⟩
    rw [← List.append_assoc]
    exact hrest

/-- Trying again and again. -/
protected theorem tryUntil [Clock] {o : WaitOptions}
    {x' : Timed (σ × List DriverCall) (Option α)} {x : Timed σ (Option α)}
    (hx : Accounts account x' x) :
    Accounts account (tryUntil o x') (tryUntil o x) :=
  fun now s log => hx.tryFrom now 0 0 s log

/-! ## Waits and repeated actions -/

section Waits

variable {driver' : UiDriver (σ × List DriverCall)} {driver : UiDriver σ} {ctx : AppContext}
  {l : Locator} {o : WaitOptions}

theorem find (h : Accounts account (driver'.dump ctx).run (driver.dump ctx).run) (l : Locator) :
    Accounts account (driver'.find ctx l).run (driver.find ctx l).run :=
  h.bindAttempt fun forest => .pure (Except.ok (l.findFirst? forest))

theorem exists? (h : Accounts account (driver'.dump ctx).run (driver.dump ctx).run)
    (l : Locator) : Accounts account (driver'.exists? ctx l).run (driver.exists? ctx l).run :=
  (h.find l).bindAttempt fun found => .pure (Except.ok found.isSome)

/-- A condition made of an attempt is accounted for as the attempt is. -/
theorem succeeds {x' : Attempt (σ × List DriverCall) ε α} {x : Attempt σ ε α}
    (h : Accounts account x'.run x.run) (passes : α → Bool) :
    Accounts account (Condition.succeeds x' passes) (Condition.succeeds x passes) := by
  refine h.bind fun r => ?_
  cases r with
  | ok a => exact .pure _
  | error e => exact .pure _

/-- So is a wait for a condition. -/
theorem pollWait [Clock] {c' : Condition (σ × List DriverCall)} {c : Condition σ}
    (h : Accounts account (c'.check driver') (c.check driver)) :
    Accounts account (GuiTest.pollWait driver' c' o) (GuiTest.pollWait driver c o) := by
  refine Accounts.bind (.tryUntil (h.bind fun b => .pure _)) fun tried => ?_
  cases tried.found with
  | some a => exact .pure _
  | none => exact .pure _

/-- And so is a wait for an element. -/
theorem waitForElement [Clock]
    (h : Accounts account (driver'.dump ctx).run (driver.dump ctx).run) :
    Accounts account (GuiTest.waitForElement driver' ctx l o).run
      (GuiTest.waitForElement driver ctx l o).run := by
  refine Accounts.bindAttempt (.lift (.tryUntil ((h.find l).bind fun r => ?_))) fun tried => ?_
  · cases r with
    | ok found => exact .pure _
    | error e => exact .pure _
  · cases tried.found with
    | some e => exact .pure _
    | none => exact .pure _

end Waits

/-- Repeating an action, by induction on the cycles that are left. -/
theorem retryFrom [Clock] {driver' : UiDriver (σ × List DriverCall)} {driver : UiDriver σ}
    {c' : Condition (σ × List DriverCall)} {c : Condition σ}
    {act' dismiss' : Attempt (σ × List DriverCall) ε Unit} {act dismiss : Attempt σ ε Unit}
    {o : RetryOptions} (hc : Accounts account (c'.check driver') (c.check driver))
    (hact : Accounts account act'.run act.run)
    (hdismiss : Accounts account dismiss'.run dismiss.run) (cycles left : Nat) :
    Accounts account (GuiTest.retryFrom driver' c' act' dismiss' o cycles left).run
      (GuiTest.retryFrom driver c act dismiss o cycles left).run := by
  induction left generalizing cycles with
  | zero =>
    refine hact.bindAttempt fun _ => Accounts.bindAttempt (.lift hc.pollWait) fun settled => ?_
    cases settled.isSatisfied with
    | true => exact .pure _
    | false => exact hdismiss.bindAttempt fun _ => .pure _
  | succ left ih =>
    refine hact.bindAttempt fun _ => Accounts.bindAttempt (.lift hc.pollWait) fun settled => ?_
    cases settled.isSatisfied with
    | true => exact .pure _
    | false =>
      refine hdismiss.bindAttempt fun _ => Accounts.bindAttempt (.lift (.sleep _)) fun _ => ?_
      exact ih (cycles + 1)

end Accounts

/-! ## What is found in a journal -/

/-- Whatever it starts from, a computation adds calls to the journal of which something holds,
together with what it answers. -/
def Journals (x : Timed (σ × List DriverCall) α) (P : List DriverCall → α → Prop) : Prop :=
  ∀ now s, ∃ calls, (x now s).state.2 = s.2 ++ calls ∧ P calls (x now s).value

namespace Journals

variable {x : Timed (σ × List DriverCall) α} {P : List DriverCall → α → Prop}

/-- A journal may be said to hold less. -/
theorem mono {Q : List DriverCall → α → Prop} (h : Journals x P)
    (hPQ : ∀ calls a, P calls a → Q calls a) : Journals x Q := by
  intro now s
  obtain ⟨calls, hcalls, hP⟩ := h now s
  exact ⟨calls, hcalls, hPQ calls _ hP⟩

theorem journaled {x : Attempt σ ε α} {entry : Nat → Except ε α → DriverCall} :
    Journals (Attempt.journaled x entry).run fun calls r => ∃ now, calls = [entry now r] :=
  fun now _ => ⟨_, rfl, now, rfl⟩

protected theorem pure {a : α} (h : P [] a) : Journals (σ := σ) (pure a) P :=
  fun _ s => ⟨[], (List.append_nil s.2).symm, h⟩

protected theorem sleep [Clock] (duration : Nat) :
    Journals (σ := σ) (Timed.sleep duration) fun calls _ => calls = [] :=
  fun _ s => ⟨[], (List.append_nil s.2).symm, rfl⟩

protected theorem bind {f : α → Timed (σ × List DriverCall) β} {Q : List DriverCall → β → Prop}
    (hx : Journals x P)
    (hf : ∀ first a, P first a → Journals (f a) fun rest b => Q (first ++ rest) b) :
    Journals (x >>= f) Q := by
  intro now s
  obtain ⟨first, hfirst, hP⟩ := hx now s
  obtain ⟨rest, hrest, hQ⟩ := hf first _ hP (now + (x now s).took) (x now s).state
  refine ⟨first ++ rest, ?_, hQ⟩
  rw [← List.append_assoc, ← hfirst]
  exact hrest

protected theorem map {g : α → β} {Q : List DriverCall → β → Prop} (hx : Journals x P)
    (hg : ∀ calls a, P calls a → Q calls (g a)) : Journals (g <$> x) Q := by
  rw [← bind_pure_comp]
  refine hx.bind fun first a hP => .pure ?_
  rw [List.append_nil]
  exact hg first a hP

/-- What follows an attempt is left out if the attempt fails. -/
protected theorem bindAttempt {x : Attempt (σ × List DriverCall) ε α}
    {P : List DriverCall → Except ε α → Prop} {f : α → Attempt (σ × List DriverCall) ε β}
    {Q : List DriverCall → Except ε β → Prop} (hx : Journals x.run P)
    (hf : ∀ first a, P first (.ok a) → Journals (f a).run fun rest r => Q (first ++ rest) r)
    (herror : ∀ first e, P first (.error e) → Q first (.error e)) :
    Journals (x >>= f).run Q := by
  rw [ExceptT.run_bind]
  refine hx.bind fun first r hP => ?_
  cases r with
  | ok a => exact hf first a hP
  | error e =>
    refine .pure ?_
    rw [List.append_nil]
    exact herror first e hP

protected theorem lift (hx : Journals x P) :
    Journals (ExceptT.lift x : Attempt _ ε α).run fun calls r => ∃ a, r = .ok a ∧ P calls a := by
  rw [ExceptT.run_lift]
  exact hx.map fun calls a hP => ⟨a, rfl, hP⟩

end Journals

end Journal

end GuiTest
