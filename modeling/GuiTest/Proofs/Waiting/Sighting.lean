import GuiTest.Proofs.Application.Rehearsal
import GuiTest.Proofs.Waiting.Journal

/-!
# Waiting for an element to be seen or to be gone

All waits for an element ask for the elements that are shown and nothing else, at the times of the
schedule (`UiDriver.looks`). They differ in which answer ends them: one in which the locator means
something (`Locator.seenIn`), or one in which it means nothing (`Locator.absentIn`); a failure of
the driver is neither. So waiting for an element and waiting for the condition that it exists stay
in step to the end (`waits_agree`), and none of them leaves more behind than what became of the
application while it was looked at.
-/

namespace GuiTest

namespace Locator

/-- The element that is seen in an answer of the driver. -/
def seenIn (l : Locator) : Except DriverError Forest → Option Element
  | .ok forest => l.findFirst? forest
  | .error _ => none

/-- Whether an answer of the driver shows that there is no such element. -/
def absentIn (l : Locator) : Except DriverError Forest → Bool
  | .ok forest => (l.findFirst? forest).isNone
  | .error _ => false

/-- That it is seen in an answer of the driver that there is no such element. -/
def goneIn (l : Locator) (answer : Except DriverError Forest) : Option Unit :=
  if l.absentIn answer then some () else none

variable {l : Locator} {forest : Forest} {e : Element} {answer : Except DriverError Forest}

theorem findFirst?_eq_some_iff : l.findFirst? forest = some e ↔
    ∃ p, (l.find forest).head? = some p ∧ forest.at? p = some e := by
  rw [findFirst?, locate?, Option.bind_eq_some_iff]

/-- There is none if nothing is found. -/
theorem findFirst?_eq_none_iff : l.findFirst? forest = none ↔ l.find forest = [] := by
  constructor
  · intro h
    by_contra hne
    obtain ⟨p, hp⟩ := Option.ne_none_iff_exists'.mp (mt List.head?_eq_none_iff.mp hne)
    obtain ⟨e, he⟩ := exists_at?_of_locate? hp
    rw [findFirst?_eq_some_iff.mpr ⟨p, hp, he⟩] at h
    cases h
  · intro h
    exact findFirst?_eq_none (by rw [locate?, h]; rfl)

/-- A locator is seen in an answer if that is a forest and something is found in it. -/
theorem seenIn_eq_some_iff : l.seenIn answer = some e ↔
    ∃ forest p, answer = .ok forest ∧ (l.find forest).head? = some p ∧ forest.at? p = some e := by
  cases answer with
  | ok forest =>
    rw [seenIn, findFirst?_eq_some_iff]
    simp
  | error e => simp [seenIn]

/-- It is absent from an answer if that is a forest and nothing is found in it. -/
theorem absentIn_iff : l.absentIn answer = true ↔
    ∃ forest, answer = .ok forest ∧ l.find forest = [] := by
  cases answer with
  | ok forest =>
    rw [absentIn, Option.isNone_iff_eq_none, findFirst?_eq_none_iff]
    simp
  | error e => simp [absentIn]

/-- To be gone is the same. -/
theorem goneIn_eq_some_iff : l.goneIn answer = some () ↔
    ∃ forest, answer = .ok forest ∧ l.find forest = [] := by
  rw [goneIn, ← absentIn_iff]
  cases l.absentIn answer <;> simp

end Locator

/-! ## Trying with what is made of an answer -/

section Mapping

variable {σ α β : Type}

/-- What is made of a value afterwards changes neither the state nor the time. -/
@[simp] theorem Timed.map_apply (g : α → β) (x : Timed σ α) (now : Nat) (s : σ) :
    (g <$> x) now s = ⟨g (x now s).value, (x now s).state, (x now s).took⟩ := rfl

/-- So it makes no difference to the states of several runs. -/
theorem Timed.runAt_map (g : α → β) (x : Timed σ α) (ts : List Nat) (s : σ) :
    (g <$> x).runAt ts s = x.runAt ts s := by
  induction ts generalizing s with
  | nil => rfl
  | cons t ts ih => exact ih (x t s).state

/-- How trying ended, with something made of what was found. -/
def Tried.map (g : α → β) (tried : Tried α) : Tried β :=
  ⟨tried.found.map g, tried.attempts, tried.elapsed⟩

variable [Clock]

/-- A wait whose findings are worked on finds the same, worked on. -/
theorem tryFrom_map (g : α → β) (o : WaitOptions) (x : Timed σ (Option α))
    (start attempts spent : Nat) (s : σ) :
    let run := tryFrom o x start attempts spent s
    tryFrom o (Option.map g <$> x) start attempts spent s
      = ⟨run.value.map g, run.state, run.took⟩ := by
  intro run
  -- Along the loop: what is found stays found, and nothing stays nothing.
  induction attempts, spent, s using tryFrom.induct o x start with
  | case1 attempts spent s _ a hfound =>
    have hfound' : ((Option.map g <$> x) (start + spent) s).value = some (g a) :=
      congrArg (Option.map g) hfound
    have hrun : run = _ := tryFrom_of_some hfound
    rw [hrun, tryFrom_of_some hfound']
    rfl
  | case2 attempts spent s _ _ hnone hup =>
    have hnone' : ((Option.map g <$> x) (start + spent) s).value = none :=
      congrArg (Option.map g) hnone
    have hrun : run = _ := tryFrom_of_up hnone hup
    rw [hrun, tryFrom_of_up hnone' hup]
    rfl
  | case3 attempts spent s _ _ hnone hleft ih =>
    have hnone' : ((Option.map g <$> x) (start + spent) s).value = none :=
      congrArg (Option.map g) hnone
    have hrun : run = _ := tryFrom_of_left hnone hleft
    rw [hrun, tryFrom_of_left hnone' hleft]
    exact ih

/-- To make something of what an attempt finds does not change how trying goes. -/
theorem tryUntil_map (g : α → β) (o : WaitOptions) (x : Timed σ (Option α)) :
    tryUntil o (Option.map g <$> x) = Tried.map g <$> tryUntil o x := by
  funext now s
  exact tryFrom_map g o x now 0 0 s

end Mapping

/-! ## Looking at an application -/

/-- Calls that ask for the elements at the first times of a wait, with the answers to them. -/
def DriverCall.looks (ctx : AppContext) (o : WaitOptions) (start : Nat)
    (answers : Nat → Except DriverError Forest) (count : Nat) : List DriverCall :=
  (List.range count).map fun k => .dump (start + o.pollTime k) ctx (answers k)

section Looks

variable (ctx : AppContext) (o : WaitOptions) (start : Nat)
  (answers : Nat → Except DriverError Forest)

theorem DriverCall.looks_zero : looks ctx o start answers 0 = [] := rfl

/-- Each look is one more call, at its time in the schedule. -/
theorem DriverCall.looks_succ (count : Nat) :
    looks ctx o start answers (count + 1)
      = looks ctx o start answers count
        ++ [.dump (start + o.pollTime count) ctx (answers count)] := by
  rw [looks, looks, List.range_succ, List.map_append]
  rfl

end Looks

section Looking

variable {σ α : Type} (driver : UiDriver σ) (ctx : AppContext) (l : Locator) (o : WaitOptions)
  (start : Nat) (s : σ)

/-- The answer that a wait gets when it asks for the elements after so many other times. -/
def UiDriver.shown (k : Nat) : Except DriverError Forest :=
  ((driver.dump ctx).run (start + o.pollTime k)
    ((driver.dump ctx).run.runAt (o.moments start k) s)).value

/-- The first times that a wait asks for the elements. -/
def UiDriver.looks (count : Nat) : List DriverCall :=
  DriverCall.looks ctx o start (driver.shown ctx o start s) count

/-- A journal of looking holds what was asked for, and what else becomes of the state is the
same. -/
theorem UiDriver.runAt_journaled (log : List DriverCall) (count : Nat) :
    (driver.journaled.dump ctx).run.runAt (o.moments start count) (s, log)
      = ((driver.dump ctx).run.runAt (o.moments start count) s,
        log ++ driver.looks ctx o start s count) := by
  induction count with
  | zero =>
    rw [looks, DriverCall.looks_zero, List.append_nil]
    rfl
  | succ count ih =>
    rw [WaitOptions.moments_succ, Timed.runAt_append, Timed.runAt_append, ih, looks, looks,
      DriverCall.looks_succ, ← List.append_assoc]
    rfl

/-- What a look shows does not depend on whether calls are written down. -/
theorem UiDriver.shown_journaled (log : List DriverCall) (k : Nat) :
    driver.journaled.shown ctx o start (s, log) k = driver.shown ctx o start s k := by
  rw [shown, runAt_journaled]
  rfl

/-- What an evaluation finds is read off the answer to its look. -/
theorem nthTry_map_dump (h : Except DriverError Forest → Option α) (k : Nat) :
    nthTry (h <$> (driver.dump ctx).run) o start s k = h (driver.shown ctx o start s k) := by
  rw [nthTry, Timed.runAt_map]
  rfl

/-! ### What the waits try -/

theorem UiDriver.run_find :
    (driver.find ctx l).run = Except.map l.findFirst? <$> (driver.dump ctx).run := by
  rw [find, bind_pure_comp, ExceptT.run_map]

/-- To ask whether something exists is to take one look too. -/
theorem UiDriver.run_exists? :
    (driver.exists? ctx l).run
      = Except.map (fun forest => (l.findFirst? forest).isSome) <$> (driver.dump ctx).run := by
  rw [exists?, bind_pure_comp, ExceptT.run_map, run_find, ← comp_map]
  refine congrArg (· <$> _) (funext fun answer => ?_)
  cases answer <;> rfl

/-- Looking for an element once. -/
def UiDriver.sight : Timed σ (Option Element) := l.seenIn <$> (driver.dump ctx).run

/-- Looking once for there being no such element. -/
def UiDriver.absence : Timed σ (Option Unit) := l.goneIn <$> (driver.dump ctx).run

/-- To look for an element, and to take a failure for not having found it, is to look once. -/
theorem find_bind_eq_sight
    {f : Except DriverError (Option Element) → Timed σ (Option Element)}
    (hok : ∀ found, f (.ok found) = pure found) (herror : ∀ e, f (.error e) = pure none) :
    (driver.find ctx l).run >>= f = driver.sight ctx l := by
  rw [UiDriver.run_find, bind_map_left, UiDriver.sight, ← bind_pure_comp]
  refine bind_congr fun answer => ?_
  cases answer with
  | ok forest => exact hok _
  | error e => exact herror e

/-- Of an attempt that is to pass, only what it answers matters. -/
theorem succeeds_eq_map {ε : Type} (x : Attempt σ ε α) (passes : α → Bool) :
    Condition.succeeds x passes
      = (fun r : Except ε α => r.toOption.any passes) <$> x.run := by
  rw [Condition.succeeds, ← bind_pure_comp]
  refine bind_congr fun r => ?_
  cases r <;> rfl

/-- The condition that an element exists takes one look. -/
theorem check_elementExists :
    Condition.check driver (.elementExists ctx l)
      = (fun answer => (l.seenIn answer).isSome) <$> (driver.dump ctx).run := by
  rw [Condition.check, succeeds_eq_map, UiDriver.run_exists?, ← comp_map]
  refine congrArg (· <$> _) (funext fun answer => ?_)
  cases answer <;> rfl

/-- So does the condition that it is absent. -/
theorem check_elementAbsent :
    Condition.check driver (.elementAbsent ctx l) = l.absentIn <$> (driver.dump ctx).run := by
  rw [Condition.check, succeeds_eq_map, UiDriver.run_exists?, ← comp_map]
  refine congrArg (· <$> _) (funext fun answer => ?_)
  cases answer with
  | ok forest =>
    show (!(l.findFirst? forest).isSome) = (l.findFirst? forest).isNone
    rw [Option.not_isSome]
  | error e => rfl

/-- To try for the condition is to look for the element and forget which it is. -/
theorem attempt_elementExists :
    Condition.attempt driver (.elementExists ctx l)
      = Option.map (fun _ => ()) <$> driver.sight ctx l := by
  have hattempt : Condition.attempt driver (.elementExists ctx l)
      = (fun b => if b then some () else none) <$> Condition.check driver (.elementExists ctx l) :=
    rfl
  rw [hattempt, check_elementExists, UiDriver.sight, ← comp_map, ← comp_map]
  refine congrArg (· <$> _) (funext fun answer => ?_)
  show (if (l.seenIn answer).isSome then some () else none) = (l.seenIn answer).map fun _ => ()
  cases l.seenIn answer <;> rfl

/-- To try for its absence is to look for that. -/
theorem attempt_elementAbsent :
    Condition.attempt driver (.elementAbsent ctx l) = driver.absence ctx l := by
  have hattempt : Condition.attempt driver (.elementAbsent ctx l)
      = (fun b => if b then some () else none) <$> Condition.check driver (.elementAbsent ctx l) :=
    rfl
  rw [hattempt, check_elementAbsent, UiDriver.absence, ← comp_map]
  rfl

/-! ### How looking ends -/

/-- Looking for something ends with this look: all looks before it were in vain, and if it was in
vain too, then time is up. -/
structure UiDriver.LastLook (sought : Except DriverError Forest → Option α) (k : Nat) : Prop where
  le : k ≤ o.pauses
  earlier : ∀ j < k, sought (driver.shown ctx o start s j) = none
  last : sought (driver.shown ctx o start s k) = none → k = o.pauses

/-- There always is a last look, the first that finds what is sought or the one at the end. -/
theorem UiDriver.exists_lastLook (sought : Except DriverError Forest → Option α) :
    ∃ k, driver.LastLook ctx o start s sought k := by
  -- It is the first look at which it is seen, or the last of all if there is none.
  by_cases h : ∃ k, k ≤ o.pauses ∧ sought (driver.shown ctx o start s k) ≠ none
  · obtain ⟨hle, hfound⟩ := Nat.find_spec h
    refine ⟨Nat.find h, hle, fun j hj => ?_, fun hnone => absurd hnone hfound⟩
    have hmin := Nat.find_min h hj
    by_contra hj'
    exact hmin ⟨by omega, hj'⟩
  · refine ⟨o.pauses, Nat.le_refl _, fun j hj => ?_, fun _ => rfl⟩
    by_contra hj'
    exact h ⟨j, by omega, hj'⟩

variable {driver ctx l o start s}

namespace UiDriver.LastLook

variable {sought : Except DriverError Forest → Option α} {k : Nat}

/-- With a journal looking ends with the same look. -/
theorem journaled (hk : driver.LastLook ctx o start s sought k) (log : List DriverCall) :
    driver.journaled.LastLook ctx o start (s, log) sought k where
  le := hk.le
  earlier j hj := (congrArg sought (driver.shown_journaled ..)).trans (hk.earlier j hj)
  last h := hk.last ((congrArg sought (driver.shown_journaled ..)).symm.trans h)

/-- It is seen at this look exactly if it can be seen there and could not be seen before. -/
theorem eq_some_iff (hk : driver.LastLook ctx o start s sought k) {a : α} {time : Nat} :
    (sought (driver.shown ctx o start s k) = some a ∧ o.pollTime k = time)
      ↔ ∃ n ≤ o.pauses, time = o.pollTime n ∧ sought (driver.shown ctx o start s n) = some a
        ∧ ∀ j < n, sought (driver.shown ctx o start s j) = none := by
  constructor
  · intro h
    exact ⟨k, hk.le, h.2.symm, h.1, hk.earlier⟩
  · intro h
    obtain ⟨n, hn, htime, hsome, hnone⟩ := h
    have hnk : n = k := by
      -- Before the last look nothing is seen, and after it there is no time.
      rcases Nat.lt_trichotomy n k with hlt | heq | hgt
      · have := hk.earlier n hlt
        rw [hsome] at this
        cases this
      · exact heq
      · have := hk.last (hnone k hgt)
        omega
    rw [hnk] at htime hsome
    exact ⟨hsome, htime.symm⟩

end UiDriver.LastLook

/-! ### What the waits come to -/

/-- What a wait for an element answers for how trying ended. -/
def Tried.toExcept (l : Locator) (tried : Tried Element) : Except WaitError Element :=
  match tried.found with
  | some e => .ok e
  | none => .error (.elementNotFound l.describe tried.elapsed)

variable [Clock]

/-- A wait for an element tries to see it. -/
theorem run_waitForElement (driver : UiDriver σ) (ctx : AppContext) (l : Locator)
    (o : WaitOptions) :
    (waitForElement driver ctx l o).run
      = Tried.toExcept l <$> tryUntil o (driver.sight ctx l) := by
  rw [waitForElement, find_bind_eq_sight driver ctx l (fun _ => rfl) (fun _ => rfl),
    ExceptT.run_bind, ExceptT.run_lift, bind_map_left, ← bind_pure_comp]
  refine bind_congr fun tried => ?_
  rw [Tried.toExcept]
  cases h : tried.found with
  | some e => simp only [h]; rfl
  | none => simp only [h]; rfl

/-- A wait for a condition tries to see it hold. -/
theorem pollWait_eq_map (driver : UiDriver σ) (c : Condition σ) (o : WaitOptions) :
    pollWait driver c o = PollResult.ofTried <$> tryUntil o (c.attempt driver) := by
  funext now s
  rw [pollWait_eq]
  rfl

/-- A wait for the condition that an element exists tries to see it. -/
theorem pollWait_elementExists (driver : UiDriver σ) (ctx : AppContext) (l : Locator)
    (o : WaitOptions) :
    pollWait driver (.elementExists ctx l) o
      = PollResult.ofTried <$> tryUntil o (driver.sight ctx l) := by
  rw [pollWait_eq_map, attempt_elementExists, tryUntil_map, ← comp_map]
  refine congrArg (· <$> _) (funext fun tried => ?_)
  show PollResult.ofTried (tried.map fun _ => ()) = PollResult.ofTried tried
  rw [PollResult.ofTried, PollResult.ofTried, Tried.map]
  cases tried.found <;> rfl

/-- A wait for an element to be gone tries to see its absence. -/
theorem run_waitUntilGone (driver : UiDriver σ) (ctx : AppContext) (l : Locator)
    (o : WaitOptions) :
    (waitUntilGone driver ctx l o).run
      = (fun tried => (PollResult.ofTried tried).toExcept (l.describe ++ " to disappear"))
        <$> tryUntil o (driver.absence ctx l) := by
  rw [waitUntilGone, ExceptT.run_bind, ExceptT.run_lift, bind_map_left, pollWait_eq_map,
    attempt_elementAbsent, bind_map_left, ← bind_pure_comp]
  refine bind_congr fun tried => ?_
  show (liftExcept ((PollResult.ofTried tried).toExcept (l.describe ++ " to disappear")) :
    Attempt σ WaitError Nat).run = pure _
  cases (PollResult.ofTried tried).toExcept (l.describe ++ " to disappear") with
  | ok elapsed => rfl
  | error e => rfl

namespace UiDriver.LastLook

variable {sought : Except DriverError Forest → Option α} {k : Nat}

/-- Looking ends with the last look. -/
theorem tryUntil_eq (hk : driver.LastLook ctx o start s sought k)
    (exact : Clock.Exact)
    (instant : (driver.dump ctx).run.Instant) :
    tryUntil o (sought <$> (driver.dump ctx).run) start s
      = ⟨⟨sought (driver.shown ctx o start s k), k + 1, o.pollTime k⟩,
        (driver.dump ctx).run.runAt (o.moments start (k + 1)) s, o.pollTime k⟩ := by
  have hx : Timed.Instant (sought <$> (driver.dump ctx).run) := fun now s => instant now s
  have hearlier : ∀ j < k, nthTry (sought <$> (driver.dump ctx).run) o start s j = none :=
    fun j hj => (nthTry_map_dump ..).trans (hk.earlier j hj)
  have hlast := nthTry_map_dump driver ctx o start s sought k
  -- The last look is the first that shows what is sought, or the one at the end of the time.
  cases hsought : sought (driver.shown ctx o start s k) with
  | some a =>
    rw [hsought] at hlast
    rw [tryUntil_found exact hx hk.le hearlier hlast, Timed.runAt_map]
  | none =>
    rw [hsought] at hlast
    have hup := hk.last hsought
    rw [tryUntil_timedOut exact hx fun j hj => ?_, Timed.runAt_map, hup, o.pollTime_pauses]
    rcases Nat.lt_or_eq_of_le hj with hlt | heq
    · exact hearlier j (hup ▸ hlt)
    · rw [heq, ← hup]
      exact hlast

/-- Whoever looks for something until it is seen makes these calls and no other. -/
theorem makesCalls {β : Type} {run : ∀ {τ : Type}, UiDriver τ → Timed τ β} {g : Tried α → β}
    (hk : driver.LastLook ctx o start s sought k) (exact : Clock.Exact)
    (instant : (driver.dump ctx).run.Instant)
    (hrun : ∀ {τ : Type} (driver : UiDriver τ),
      run driver = g <$> tryUntil o (sought <$> (driver.dump ctx).run)) :
    MakesCalls run driver start s (driver.looks ctx o start s (k + 1)) := by
  have hinstant : (driver.journaled.dump ctx).run.Instant := fun now s => instant now s.1
  rw [MakesCalls, hrun, hrun, Timed.map_apply, Timed.map_apply, hk.tryUntil_eq exact instant,
    (hk.journaled []).tryUntil_eq exact hinstant, UiDriver.shown_journaled,
    UiDriver.runAt_journaled]
  rfl

end UiDriver.LastLook

/-- A wait for an element answers as its last look says, at the time of that. -/
theorem waitForElement_eq {k : Nat} (hk : driver.LastLook ctx o start s l.seenIn k)
    (exact : Clock.Exact)
    (instant : (driver.dump ctx).run.Instant) :
    (waitForElement driver ctx l o).run start s
      = ⟨Tried.toExcept l ⟨l.seenIn (driver.shown ctx o start s k), k + 1, o.pollTime k⟩,
        (driver.dump ctx).run.runAt (o.moments start (k + 1)) s, o.pollTime k⟩ := by
  rw [run_waitForElement, Timed.map_apply, UiDriver.sight, hk.tryUntil_eq exact instant]

/-- A wait for the condition ends with the same look. -/
theorem pollWait_elementExists_eq {k : Nat} (hk : driver.LastLook ctx o start s l.seenIn k)
    (exact : Clock.Exact)
    (instant : (driver.dump ctx).run.Instant) :
    pollWait driver (.elementExists ctx l) o start s
      = ⟨.ofTried ⟨l.seenIn (driver.shown ctx o start s k), k + 1, o.pollTime k⟩,
        (driver.dump ctx).run.runAt (o.moments start (k + 1)) s, o.pollTime k⟩ := by
  rw [pollWait_elementExists, Timed.map_apply, UiDriver.sight, hk.tryUntil_eq exact instant]

/-- A wait for the absence answers as its own last look says. -/
theorem waitUntilGone_eq {k : Nat} (hk : driver.LastLook ctx o start s l.goneIn k)
    (exact : Clock.Exact)
    (instant : (driver.dump ctx).run.Instant) :
    (waitUntilGone driver ctx l o).run start s
      = ⟨(PollResult.ofTried ⟨l.goneIn (driver.shown ctx o start s k), k + 1,
          o.pollTime k⟩).toExcept (l.describe ++ " to disappear"),
        (driver.dump ctx).run.runAt (o.moments start (k + 1)) s, o.pollTime k⟩ := by
  rw [run_waitUntilGone, Timed.map_apply, UiDriver.absence, hk.tryUntil_eq exact instant]

/-- An element that was waited for was seen, and it is missed only when time is up. -/
theorem waitForElement_cases {k : Nat} (hk : driver.LastLook ctx o start s l.seenIn k)
    (exact : Clock.Exact)
    (instant : (driver.dump ctx).run.Instant) :
    (∃ e, ((waitForElement driver ctx l o).run start s).value = .ok e
        ∧ l.seenIn (driver.shown ctx o start s k) = some e)
      ∨ (((waitForElement driver ctx l o).run start s).value
          = .error (.elementNotFound l.describe o.timeout)
        ∧ l.seenIn (driver.shown ctx o start s k) = none) := by
  rw [waitForElement_eq hk exact instant, Tried.toExcept]
  cases hseen : l.seenIn (driver.shown ctx o start s k) with
  | some e => exact Or.inl ⟨e, rfl, rfl⟩
  | none =>
    refine Or.inr ⟨?_, rfl⟩
    rw [hk.last hseen, o.pollTime_pauses]

/-- The element that is answered is the first one of the last look. -/
theorem waitForElement_eq_ok {k : Nat} (hk : driver.LastLook ctx o start s l.seenIn k)
    (exact : Clock.Exact)
    (instant : (driver.dump ctx).run.Instant) {e : Element}
    (h : ((waitForElement driver ctx l o).run start s).value = .ok e) :
    l.seenIn (driver.shown ctx o start s k) = some e := by
  rcases waitForElement_cases hk exact instant with ⟨e', hok, hseen⟩ | ⟨herror, -⟩
  · cases h.symm.trans hok
    exact hseen
  · cases h.symm.trans herror

/-- There is one error to a wait for an element, and it says how long it went on. -/
theorem waitForElement_eq_error (exact : Clock.Exact)
    (instant : (driver.dump ctx).run.Instant) {err : WaitError}
    (h : ((waitForElement driver ctx l o).run start s).value = .error err) :
    err = .elementNotFound l.describe o.timeout := by
  obtain ⟨k, hk⟩ := driver.exists_lastLook ctx o start s l.seenIn
  rcases waitForElement_cases hk exact instant with ⟨e, hok, -⟩ | ⟨herror, -⟩
  · cases h.symm.trans hok
  · exact Except.error.inj (h.symm.trans herror)

/-- To wait for an element succeeds exactly if to wait for the condition that it exists does. -/
theorem waitForElement_isOk_iff (exact : Clock.Exact)
    (instant : (driver.dump ctx).run.Instant) :
    (∃ e, ((waitForElement driver ctx l o).run start s).value = .ok e)
      ↔ (pollWait driver (.elementExists ctx l) o start s).value.isSatisfied = true := by
  obtain ⟨k, hk⟩ := driver.exists_lastLook ctx o start s l.seenIn
  rw [pollWait_elementExists_eq hk exact instant, PollResult.ofTried]
  rcases waitForElement_cases hk exact instant with ⟨e, hok, hseen⟩ | ⟨herror, hnone⟩
  · rw [hok, hseen]
    exact ⟨fun _ => rfl, fun _ => ⟨e, rfl⟩⟩
  · rw [herror, hnone]
    constructor
    · intro h
      cases h.choose_spec
    · intro h
      cases h

/-- The attempts are counted from one. -/
theorem attempts_pollWait {k : Nat} (hk : driver.LastLook ctx o start s l.seenIn k)
    (exact : Clock.Exact)
    (instant : (driver.dump ctx).run.Instant) :
    (pollWait driver (.elementExists ctx l) o start s).value.attempts = k + 1 := by
  rw [pollWait_elementExists_eq hk exact instant, PollResult.ofTried]
  cases l.seenIn (driver.shown ctx o start s k) <;> rfl

/-- An element is gone when its absence is seen, and a wait for that fails only when time is up. -/
theorem waitUntilGone_cases {k : Nat} (hk : driver.LastLook ctx o start s l.goneIn k)
    (exact : Clock.Exact)
    (instant : (driver.dump ctx).run.Instant) :
    (((waitUntilGone driver ctx l o).run start s).value = .ok (o.pollTime k)
        ∧ l.goneIn (driver.shown ctx o start s k) = some ())
      ∨ (((waitUntilGone driver ctx l o).run start s).value
          = .error (.timedOut (l.describe ++ " to disappear") o.timeout)
        ∧ l.goneIn (driver.shown ctx o start s k) = none) := by
  rw [waitUntilGone_eq hk exact instant, PollResult.ofTried]
  cases hgone : l.goneIn (driver.shown ctx o start s k) with
  | some _ => exact Or.inl ⟨rfl, rfl⟩
  | none =>
    refine Or.inr ⟨?_, rfl⟩
    rw [hk.last hgone, o.pollTime_pauses]
    rfl

/-- A wait answers that an element is gone after the first look at which it is. -/
theorem waitUntilGone_eq_ok_iff (exact : Clock.Exact)
    (instant : (driver.dump ctx).run.Instant) {d : Nat} :
    ((waitUntilGone driver ctx l o).run start s).value = .ok d
      ↔ ∃ k ≤ o.pauses, d = o.pollTime k ∧ l.goneIn (driver.shown ctx o start s k) = some ()
        ∧ ∀ j < k, l.goneIn (driver.shown ctx o start s j) = none := by
  obtain ⟨k, hk⟩ := driver.exists_lastLook ctx o start s l.goneIn
  rw [← hk.eq_some_iff]
  rcases waitUntilGone_cases hk exact instant with ⟨hok, hgone⟩ | ⟨herror, hnone⟩
  · rw [hok, Except.ok.injEq]
    exact ⟨fun h => ⟨hgone, h⟩, fun h => h.2⟩
  · rw [herror, hnone]
    constructor
    · intro h
      cases h
    · intro h
      cases h.1

/-- There is one error to a wait for the absence. -/
theorem waitUntilGone_eq_error (exact : Clock.Exact)
    (instant : (driver.dump ctx).run.Instant) {err : WaitError}
    (h : ((waitUntilGone driver ctx l o).run start s).value = .error err) :
    err = .timedOut (l.describe ++ " to disappear") o.timeout := by
  obtain ⟨k, hk⟩ := driver.exists_lastLook ctx o start s l.goneIn
  rcases waitUntilGone_cases hk exact instant with ⟨hok, -⟩ | ⟨herror, -⟩
  · cases h.symm.trans hok
  · exact Except.error.inj (h.symm.trans herror)

end Looking

/-- A computation that takes up to a time of the schedule leaves a desktop as it became by itself,
and no gesture is recorded meanwhile. -/
def Rehearsal.Undisturbed {α : Type} (o : WaitOptions) (start : Nat) (r : Rehearsal)
    (outcome : Timed.Outcome Rehearsal α) : Prop :=
  outcome.state.desktop.calls = r.desktop.calls
    ∧ ∃ k, outcome.took = o.pollTime k
      ∧ outcome.state.desktop = (r.lapse (o.moments start (k + 1))).desktop

/-- A run that only looks leaves a rehearsal as it was. -/
theorem Rehearsal.undisturbed_of_eq {α : Type} {ctx : AppContext} {o : WaitOptions} {start k : Nat}
    {r : Rehearsal} {value : α} {outcome : Timed.Outcome Rehearsal α}
    (h : outcome = ⟨value, (driver.dump ctx).run.runAt (o.moments start (k + 1)) r, o.pollTime k⟩) :
    r.Undisturbed o start outcome := by
  have hcourse := r.course_runAt_dump ctx (o.moments start (k + 1))
  have hdesktop : outcome.state.desktop = (r.lapse (o.moments start (k + 1))).desktop := by
    rw [h]
    exact congrArg Prod.fst hcourse
  refine ⟨?_, k, ?_, hdesktop⟩
  · rw [hdesktop, calls_lapse]
  · rw [h]

/-- No wait for an element disturbs a rehearsal. -/
theorem Rehearsal.undisturbed_waits [Clock] (exact : Clock.Exact) (r : Rehearsal) (ctx : AppContext)
    (l : Locator) (o : WaitOptions) (start : Nat) :
    r.Undisturbed o start ((waitForElement driver ctx l o).run start r)
      ∧ r.Undisturbed o start (pollWait driver (.elementExists ctx l) o start r)
      ∧ r.Undisturbed o start ((waitUntilGone driver ctx l o).run start r) := by
  have instant := instant_dump ctx
  obtain ⟨k, hk⟩ := driver.exists_lastLook ctx o start r l.seenIn
  obtain ⟨m, hm⟩ := driver.exists_lastLook ctx o start r l.goneIn
  exact ⟨undisturbed_of_eq (waitForElement_eq hk exact instant),
    undisturbed_of_eq (pollWait_elementExists_eq hk exact instant),
    undisturbed_of_eq (waitUntilGone_eq hm exact instant)⟩

/-- **All waits for an element look alike.** They ask for the elements at the times of the schedule
and do nothing else, until they see what they wait for or time is up. So waiting for an element and
waiting for the condition that it exists succeed alike, make the same calls and take the same time,
and the element is the first one that the locator means in what was shown last. A failure of the
driver only counts as not having seen it. An element is gone after the first of these times at which
the locator means nothing in what is shown. To wait changes nothing that does not change by
itself. -/
theorem waits_agree {σ : Type} [Clock] (exact : Clock.Exact) (driver : UiDriver σ)
    (ctx : AppContext) (l : Locator) (o : WaitOptions) (start : Nat) (s : σ)
    (instant : (driver.dump ctx).run.Instant) :
    let waited := (waitForElement driver ctx l o).run start s
    let polled := pollWait driver (.elementExists ctx l) o start s
    let gone := (waitUntilGone driver ctx l o).run start s
    let shown := driver.shown ctx o start s
    let looks := driver.looks ctx o start s
    let absent := fun k => ∃ forest, shown k = .ok forest ∧ l.find forest = []
    ((∃ e, waited.value = .ok e) ↔ polled.value.isSatisfied = true)
      ∧ waited.took = polled.took ∧ waited.state = polled.state
      ∧ (∃ k, waited.took = o.pollTime k ∧ polled.value.attempts = k + 1
        ∧ MakesCalls (fun driver => (waitForElement driver ctx l o).run) driver start s
          (looks (k + 1))
        ∧ MakesCalls (fun driver => pollWait driver (.elementExists ctx l) o) driver start s
          (looks (k + 1))
        ∧ ∀ e, waited.value = .ok e →
          ∃ forest p, shown k = .ok forest ∧ (l.find forest).head? = some p
            ∧ forest.at? p = some e)
      ∧ (∃ k, gone.took = o.pollTime k
        ∧ MakesCalls (fun driver => (waitUntilGone driver ctx l o).run) driver start s
          (looks (k + 1)))
      ∧ (∀ err, waited.value = .error err → err = .elementNotFound l.describe o.timeout)
      ∧ (∀ err, gone.value = .error err →
        err = .timedOut (l.describe ++ " to disappear") o.timeout)
      ∧ (∀ d, gone.value = .ok d ↔
        ∃ k ≤ o.pauses, d = o.pollTime k ∧ absent k ∧ ∀ j < k, ¬ absent j)
      ∧ ∀ r : Rehearsal,
        r.Undisturbed o start ((waitForElement Rehearsal.driver ctx l o).run start r)
          ∧ r.Undisturbed o start (pollWait Rehearsal.driver (.elementExists ctx l) o start r)
          ∧ r.Undisturbed o start ((waitUntilGone Rehearsal.driver ctx l o).run start r) := by
  intro waited polled gone shown looks absent
  obtain ⟨k, hk⟩ := driver.exists_lastLook ctx o start s l.seenIn
  obtain ⟨m, hm⟩ := driver.exists_lastLook ctx o start s l.goneIn
  have hwaited : waited = _ := waitForElement_eq hk exact instant
  have hpolled : polled = _ := pollWait_elementExists_eq hk exact instant
  have hgone : gone = _ := waitUntilGone_eq hm exact instant
  have hcalls := hk.makesCalls exact instant fun driver => run_waitForElement driver ctx l o
  have hpollCalls := hk.makesCalls exact instant fun driver => pollWait_elementExists driver ctx l o
  have hgoneCalls := hm.makesCalls exact instant fun driver => run_waitUntilGone driver ctx l o
  refine ⟨waitForElement_isOk_iff exact instant, by rw [hwaited, hpolled], by rw [hwaited, hpolled],
    ⟨k, by rw [hwaited], attempts_pollWait hk exact instant, hcalls, hpollCalls, ?_⟩,
    ⟨m, by rw [hgone], hgoneCalls⟩, fun err => waitForElement_eq_error exact instant,
    fun err => waitUntilGone_eq_error exact instant, ?_,
    fun r => r.undisturbed_waits exact ctx l o start⟩
  · intro e he
    exact Locator.seenIn_eq_some_iff.mp (waitForElement_eq_ok hk exact instant he)
  · intro d
    -- To see that there is no such element is to be shown elements among which there is none.
    have habsent : ∀ j, absent j ↔ l.goneIn (shown j) = some () := fun j =>
      Locator.goneIn_eq_some_iff.symm
    have hnone : ∀ j, ¬ l.goneIn (shown j) = some () ↔ l.goneIn (shown j) = none := fun j => by
      cases l.goneIn (shown j) <;> simp
    simp only [habsent, hnone]
    exact waitUntilGone_eq_ok_iff exact instant

/-- A dialog that comes after 1.2 seconds is seen after 1.5, by the fourth request for the elements.
Of the other three the first fails; so there is seen to be no dialog after half a second only. -/
theorem waits_agree_seen_at_1500 :
    letI : Clock := .punctual
    let ctx : AppContext := ⟨1, "devenv", none⟩
    let dialog : Locator := ⟨⟨[.kind "Dialog"], none⟩, []⟩
    let o : WaitOptions := ⟨5000000000, 500000000⟩
    let r : Rehearsal :=
      { desktop := { contexts := [⟨ctx, []⟩] }
        scheduled := [(1200000000, .updateTree ctx [.push (.ofKind "Dialog")])]
        failures := [⟨.dump, 1, "busy"⟩] }
    let waited := (waitForElement Rehearsal.driver ctx dialog o).run 0 r
    let gone := (waitUntilGone Rehearsal.driver ctx dialog o).run 0 r
    Clock.Exact ∧ (Rehearsal.driver.dump ctx).run.Instant
      ∧ (∃ e, waited.value = .ok e) ∧ waited.took = 1500000000 ∧ waited.state.dumps = 4
      ∧ waited.state.desktop.calls = [] ∧ gone.value = .ok 500000000 := by
  let _ : Clock := .punctual
  intro ctx dialog o r waited gone
  have hinstant := Rehearsal.instant_dump ctx
  obtain ⟨hok, htook, hstate, -, -, -, -, hgone, hrehearsal⟩ :=
    waits_agree Clock.exact_punctual Rehearsal.driver ctx dialog o 0 r hinstant
  have hpolled : (pollWait Rehearsal.driver (.elementExists ctx dialog) o 0 r).value
      = .satisfied 4 1500000000 := by decide +kernel
  have hdumps : (pollWait Rehearsal.driver (.elementExists ctx dialog) o 0 r).state.dumps = 4 := by
    decide +kernel
  have htime : (pollWait Rehearsal.driver (.elementExists ctx dialog) o 0 r).took = 1500000000 := by
    decide +kernel
  have hfirst : ¬ dialog.absentIn (Rehearsal.driver.shown ctx o 0 r 0) = true := by decide +kernel
  have hsecond : dialog.absentIn (Rehearsal.driver.shown ctx o 0 r 1) = true := by decide +kernel
  refine ⟨Clock.exact_punctual, hinstant, hok.mpr (by rw [hpolled]; rfl), htook.trans htime,
    (congrArg Rehearsal.dumps hstate).trans hdumps, (hrehearsal r).1.1,
    (hgone _).mpr ⟨1, by decide, by decide, Locator.absentIn_iff.mp hsecond, fun j hj => ?_⟩⟩
  have hj0 : j = 0 := by omega
  rw [hj0]
  exact mt Locator.absentIn_iff.mpr hfirst

end GuiTest
