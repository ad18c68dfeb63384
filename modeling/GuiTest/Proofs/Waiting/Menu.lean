import GuiTest.Proofs.Application.Forwarding
import GuiTest.Proofs.Waiting.Sighting

/-!
# The clicks on a menu

To open an entry of a menu as long as an application is busy clicks the menu, its entry, and the
menu again to close it, round after round. How such a run ends can be read off the last click in its
journal and what comes after it (`MenuExit`): a click that failed, a click that opens the menu and
looks for an entry that never comes, a click on the entry and looks for the busy mark, or the click
that closes the menu after the last round. The calls before it are whole rounds and a part of one,
in which no click failed. `openMenuEntry_trace` reads off what was clicked, and what that says about
the answer.
-/

namespace GuiTest

/-! ## Words of clicks -/

/-- What is clicked to open an entry of a menu. -/
inductive MenuClick where
  | menu
  | entry
  deriving DecidableEq

namespace MenuClick

/-- The clicks of so many rounds. -/
def rounds : Nat → List MenuClick
  | 0 => []
  | n + 1 => menu :: entry :: menu :: rounds n

/-- The locator of what is clicked. -/
def target (menuLocator entryLocator : Locator) : MenuClick → Locator
  | menu => menuLocator
  | entry => entryLocator

/-- Each round has three clicks. -/
theorem length_rounds (n : Nat) : (rounds n).length = 3 * n := by
  induction n with
  | zero => rfl
  | succ n ih =>
    show (rounds n).length + 3 = 3 * (n + 1)
    omega

/-- Two of the three are on the menu. -/
theorem count_rounds (n : Nat) : (rounds n).count menu = 2 * n := by
  induction n with
  | zero => rfl
  | succ n ih =>
    have hne : entry ≠ menu := by decide
    rw [rounds, List.count_cons_self, List.count_cons_of_ne hne, List.count_cons_self, ih]
    omega

/-- Rounds after rounds are so many rounds. -/
theorem rounds_append (m n : Nat) : rounds m ++ rounds n = rounds (m + n) := by
  induction m with
  | zero => rw [Nat.zero_add]; rfl
  | succ m ih =>
    rw [Nat.succ_add, rounds, rounds, ← ih]
    rfl

/-- Whole rounds and the beginning of one are the beginning of more rounds. -/
theorem rounds_append_prefix {n m : Nat} (h : n ≤ m) {part : List MenuClick}
    (hpart : part <+: [menu, entry, menu]) : rounds n ++ part <+: rounds (m + 1) := by
  have hsplit : rounds (m + 1) = rounds n ++ ([menu, entry, menu] ++ rounds (m - n)) := by
    have hround : [menu, entry, menu] ++ rounds (m - n) = rounds (m - n + 1) := rfl
    rw [hround, rounds_append]
    congr 1
    omega
  rw [hsplit, List.prefix_append_right_inj]
  exact hpart.trans (List.prefix_append _ _)

end MenuClick

/-! ## Clicks in a journal -/

namespace DriverCall

/-- What was clicked, if that succeeded. -/
def clicked? : DriverCall → Option Locator
  | act _ _ l .click (.ok _) => some l
  | _ => none

/-- Whether a call is a gesture that failed. -/
def refused : DriverCall → Bool
  | act _ _ _ _ (.error _) => true
  | _ => false

/-- Whether a call is a gesture. -/
def isAct : DriverCall → Bool
  | act .. => true
  | _ => false

end DriverCall

/-- What was clicked, as a journal tells. -/
def clicks (calls : List DriverCall) : List Locator := calls.filterMap DriverCall.clicked?

@[simp] theorem clicks_append (first rest : List DriverCall) :
    clicks (first ++ rest) = clicks first ++ clicks rest := List.filterMap_append

/-- The calls of which none is a gesture. -/
def OnlyAsks (calls : List DriverCall) : Prop := ∀ call ∈ calls, call.isAct = false

/-- Looks ask only. -/
theorem onlyAsks_looks (ctx : AppContext) (o : WaitOptions) (start : Nat)
    (answers : Nat → Except DriverError Forest) (count : Nat) :
    OnlyAsks (DriverCall.looks ctx o start answers count) := by
  intro call hcall
  obtain ⟨k, -, hk⟩ := List.mem_map.mp hcall
  rw [← hk]
  rfl

namespace OnlyAsks

variable {calls : List DriverCall} (h : OnlyAsks calls)
include h

/-- Calls that only ask are no clicks. -/
theorem clicks_eq : clicks calls = [] := by
  rw [clicks, List.filterMap_eq_nil_iff]
  intro call hcall
  have hask := h call hcall
  cases call with
  | act => cases hask
  | contexts | dump => rfl

/-- Nor is any of them a click that was refused. -/
theorem refused_eq {call : DriverCall} (hcall : call ∈ calls) : call.refused = false := by
  have hask := h call hcall
  cases call with
  | act => cases hask
  | contexts | dump => rfl

end OnlyAsks

/-- A journal has only one last gesture. -/
theorem last_act_unique {before before' after after' : List DriverCall} {x x' : DriverCall}
    (hx : x.isAct = true) (hx' : x'.isAct = true) (hafter : OnlyAsks after)
    (hafter' : OnlyAsks after') (h : before ++ x :: after = before' ++ x' :: after') :
    before = before' ∧ x = x' ∧ after = after' := by
  -- One of the two comes first or they are the same; if one did, the other would come after it.
  rcases List.append_eq_append_iff.mp h with ⟨between, hbefore, hrest⟩ | ⟨between, hbefore, hrest⟩
  · cases between with
    | nil =>
      obtain ⟨hhead, htail⟩ := List.cons.inj hrest
      exact ⟨by rw [hbefore, List.append_nil], hhead, htail⟩
    | cons y between =>
      obtain ⟨-, htail⟩ := List.cons.inj hrest
      have hmem : x' ∈ after := by rw [htail]; simp
      rw [hafter x' hmem] at hx'
      cases hx'
  · cases between with
    | nil =>
      obtain ⟨hhead, htail⟩ := List.cons.inj hrest
      exact ⟨by rw [hbefore, List.append_nil], hhead.symm, htail.symm⟩
    | cons y between =>
      obtain ⟨-, htail⟩ := List.cons.inj hrest
      have hmem : x ∈ after' := by rw [htail]; simp
      rw [hafter' x hmem] at hx
      cases hx

/-! ## How a run ends -/

section Menu

variable (ctx : AppContext) (menu entry : Locator) (settle : WaitOptions)

/-- The gestures in a journal are these clicks, and they all succeeded. -/
structure Clicked (calls : List DriverCall) (w : List MenuClick) : Prop where
  clicks_eq : clicks calls = w.map (MenuClick.target menu entry)
  granted : ∀ call ∈ calls, call.refused = false

/-- The journal of a run, what was clicked in it and its answer, when there may be so many more
rounds after the first and some cycles were counted before. -/
inductive MenuExit : Nat → Nat → List DriverCall → List MenuClick →
    Except WaitError RetryOutcome → Prop where
  | stopped {cycles left : Nat} {before : List DriverCall} {w : List MenuClick} {c : MenuClick}
      {t : Nat} {e : DriverError} (hbefore : Clicked menu entry before w)
      (hw : w ++ [c] <+: MenuClick.rounds (left + 1)) :
      MenuExit cycles left (before ++ [.act t ctx (c.target menu entry) .click (.error e)]) w
        (.error (.driver e))
  | missed {cycles left n t since : Nat} {before : List DriverCall}
      {answers : Nat → Except DriverError Forest}
      (hbefore : Clicked menu entry before (MenuClick.rounds n)) (hn : n ≤ left)
      (hmissed : ∀ k ≤ settle.pauses, entry.seenIn (answers k) = none) :
      MenuExit cycles left
        (before ++ .act t ctx menu .click (.ok ())
          :: DriverCall.looks ctx settle since answers (settle.pauses + 1))
        (MenuClick.rounds n ++ [.menu])
        (.error (.elementNotFound entry.describe settle.timeout))
  | cleared {cycles left n t : Nat} {before looked : List DriverCall}
      (hbefore : Clicked menu entry before (MenuClick.rounds n ++ [.menu])) (hn : n ≤ left)
      (hlooked : OnlyAsks looked) :
      MenuExit cycles left (before ++ .act t ctx entry .click (.ok ()) :: looked)
        (MenuClick.rounds n ++ [.menu, .entry]) (.ok (.cleared (cycles + n)))
  | exhausted {cycles left t : Nat} {before : List DriverCall}
      (hbefore : Clicked menu entry before (MenuClick.rounds left ++ [.menu, .entry])) :
      MenuExit cycles left (before ++ [.act t ctx menu .click (.ok ())])
        (MenuClick.rounds left ++ [.menu, .entry, .menu]) (.ok (.exhausted (cycles + left)))

/-- A click that opens the menu is followed by looks at all times at which the entry may come, and
at none of them it is there. -/
def EntryMissed (calls : List DriverCall) : Prop :=
  ∃ before t since answers,
    calls = before ++ .act t ctx menu .click (.ok ())
        :: DriverCall.looks ctx settle since answers (settle.pauses + 1)
      ∧ 3 ∣ (clicks before).length ∧ ∀ k ≤ settle.pauses, entry.seenIn (answers k) = none

variable {ctx menu entry settle}

namespace Clicked

theorem nil : Clicked menu entry [] [] := ⟨rfl, fun _ h => absurd h List.not_mem_nil⟩

/-- Clicks after clicks are the clicks of both. -/
theorem append {first rest : List DriverCall} {v w : List MenuClick}
    (hfirst : Clicked menu entry first v) (hrest : Clicked menu entry rest w) :
    Clicked menu entry (first ++ rest) (v ++ w) where
  clicks_eq := by rw [clicks_append, hfirst.clicks_eq, hrest.clicks_eq, List.map_append]
  granted call hcall := by
    rcases List.mem_append.mp hcall with h | h
    · exact hfirst.granted call h
    · exact hrest.granted call h

theorem asks {calls : List DriverCall} (h : OnlyAsks calls) : Clicked menu entry calls [] :=
  ⟨h.clicks_eq, fun _ => h.refused_eq⟩

/-- One call that clicks is one click. -/
theorem click (t : Nat) (c : MenuClick) :
    Clicked menu entry [.act t ctx (c.target menu entry) .click (.ok ())] [c] where
  clicks_eq := rfl
  granted call hcall := by
    rw [List.mem_singleton.mp hcall]
    rfl

end Clicked

namespace MenuExit

variable {cycles left : Nat} {calls : List DriverCall} {w : List MenuClick}
  {answer : Except WaitError RetryOutcome}

/-- A run ends as what follows a whole round of it does. -/
theorem again {round : List DriverCall} (hround : Clicked menu entry round [.menu, .entry, .menu])
    (h : MenuExit ctx menu entry settle (cycles + 1) left calls w answer) :
    MenuExit ctx menu entry settle cycles (left + 1) (round ++ calls)
      ([.menu, .entry, .menu] ++ w) answer := by
  cases h with
  | stopped hbefore hw =>
    rw [← List.append_assoc]
    refine .stopped (hround.append hbefore) ?_
    rw [List.append_assoc]
    exact (List.prefix_append_right_inj [MenuClick.menu, .entry, .menu]).mpr hw
  | missed hbefore hn hmissed =>
    rw [← List.append_assoc]
    exact .missed (n := _ + 1) (hround.append hbefore) (Nat.succ_le_succ hn) hmissed
  | cleared hbefore hn hlooked =>
    rw [← List.append_assoc, Nat.add_assoc, Nat.add_comm 1]
    exact .cleared (n := _ + 1) (hround.append hbefore) (Nat.succ_le_succ hn) hlooked
  | exhausted hbefore =>
    rw [← List.append_assoc, Nat.add_assoc, Nat.add_comm 1]
    exact .exhausted (hround.append hbefore)

/-! ### What the end says -/

/-- The calls of a run that has ended are the clicks of its word. -/
theorem clicks_eq (h : MenuExit ctx menu entry settle cycles left calls w answer) :
    clicks calls = w.map (MenuClick.target menu entry) := by
  cases h with
  | stopped hbefore =>
    rw [clicks_append, hbefore.clicks_eq]
    exact List.append_nil _
  | missed hbefore =>
    rw [clicks_append, hbefore.clicks_eq, List.map_append]
    exact congrArg (_ ++ menu :: ·) (onlyAsks_looks ctx settle _ _ _).clicks_eq
  | cleared hbefore _ hlooked =>
    rw [clicks_append, hbefore.clicks_eq, List.map_append, List.map_append, List.append_assoc]
    exact congrArg (_ ++ menu :: entry :: ·) hlooked.clicks_eq
  | exhausted hbefore =>
    rw [clicks_append, hbefore.clicks_eq, List.map_append, List.map_append, List.append_assoc]
    rfl

/-- The word of a run is the beginning of its rounds. -/
theorem isPrefix (h : MenuExit ctx menu entry settle cycles left calls w answer) :
    w <+: MenuClick.rounds (left + 1) := by
  cases h with
  | stopped _ hw => exact (List.prefix_append _ _).trans hw
  | missed _ hn => exact MenuClick.rounds_append_prefix hn ⟨[.entry, .menu], rfl⟩
  | cleared _ hn => exact MenuClick.rounds_append_prefix hn ⟨[.menu], rfl⟩
  | exhausted => exact MenuClick.rounds_append_prefix (Nat.le_refl left) List.prefix_rfl

/-- A run that succeeds ends with the menu and the entry after whole rounds. -/
theorem of_cleared {c : Nat}
    (h : MenuExit ctx menu entry settle cycles left calls w (.ok (.cleared c))) :
    ∃ n ≤ left, c = cycles + n ∧ w = MenuClick.rounds n ++ [.menu, .entry] := by
  cases h with
  | cleared _ hn => exact ⟨_, hn, rfl, rfl⟩

/-- The rounds are all gone through exactly if all of them were clicked. -/
theorem exhausted_iff (h : MenuExit ctx menu entry settle cycles left calls w answer) {c : Nat} :
    answer = .ok (.exhausted c) ↔ w = MenuClick.rounds (left + 1) ∧ c = cycles + left := by
  have hwhole : MenuClick.rounds left ++ [.menu, .entry, .menu] = MenuClick.rounds (left + 1) :=
    MenuClick.rounds_append left 1
  -- All other ends leave a word that is too short to be the whole one.
  have hshort {v : List MenuClick} (hlt : v.length < 3 * (left + 1)) :
      v ≠ MenuClick.rounds (left + 1) := by
    intro hv
    rw [hv, MenuClick.length_rounds] at hlt
    omega
  cases h with
  | stopped _ hw =>
    have hle := hw.length_le
    rw [List.length_append, MenuClick.length_rounds, List.length_singleton] at hle
    exact ⟨fun h => (by cases h), fun h => absurd h.1 (hshort (by omega))⟩
  | missed _ hn =>
    refine ⟨fun h => (by cases h), fun h => absurd h.1 (hshort ?_)⟩
    rw [List.length_append, MenuClick.length_rounds, List.length_singleton]
    omega
  | cleared _ hn =>
    refine ⟨fun h => (by cases h), fun h => absurd h.1 (hshort ?_)⟩
    rw [List.length_append, MenuClick.length_rounds, List.length_cons, List.length_singleton]
    omega
  | exhausted =>
    rw [hwhole]
    constructor
    · intro h
      cases h
      exact ⟨rfl, rfl⟩
    · intro h
      rw [h.2]

/-- A run fails for the driver exactly if some click failed. -/
theorem driver_iff (h : MenuExit ctx menu entry settle cycles left calls w answer) :
    (∃ e, answer = .error (.driver e)) ↔ ∃ call ∈ calls, call.refused = true := by
  -- In the other ends the last gesture succeeded, as those before it did.
  have hgranted {before after : List DriverCall} {x : DriverCall} {v : List MenuClick}
      (hbefore : Clicked menu entry before v) (hx : x.refused = false) (hafter : OnlyAsks after) :
      ¬ ∃ call ∈ before ++ x :: after, call.refused = true := by
    intro hrefused
    obtain ⟨call, hcall, hrefused⟩ := hrefused
    rcases List.mem_append.mp hcall with hmem | hmem
    · rw [hbefore.granted call hmem] at hrefused
      cases hrefused
    · rcases List.mem_cons.mp hmem with heq | hmem
      · rw [heq, hx] at hrefused
        cases hrefused
      · rw [hafter.refused_eq hmem] at hrefused
        cases hrefused
  cases h with
  | stopped _ _ => exact ⟨fun _ => ⟨_, List.mem_append_right _ (List.mem_singleton_self _), rfl⟩,
      fun _ => ⟨_, rfl⟩⟩
  | missed hbefore =>
    refine ⟨fun h => (by cases h.choose_spec), fun h => ?_⟩
    exact absurd h (hgranted hbefore rfl (onlyAsks_looks _ _ _ _ _))
  | cleared hbefore _ hlooked =>
    refine ⟨fun h => (by cases h.choose_spec), fun h => ?_⟩
    exact absurd h (hgranted hbefore rfl hlooked)
  | exhausted hbefore =>
    refine ⟨fun h => (by cases h.choose_spec), fun h => ?_⟩
    exact absurd h (hgranted hbefore rfl fun _ h => absurd h List.not_mem_nil)

/-- Then the click that failed is the one that would have come next. -/
theorem of_driver {e : DriverError}
    (h : MenuExit ctx menu entry settle cycles left calls w (.error (.driver e))) :
    ∃ before t c, calls = before ++ [.act t ctx (MenuClick.target menu entry c) .click (.error e)]
      ∧ w ++ [c] <+: MenuClick.rounds (left + 1) := by
  cases h with
  | stopped _ hw => exact ⟨_, _, _, rfl, hw⟩

/-- A run fails for the entry exactly if that was missed after the menu was opened. -/
theorem elementNotFound_iff (h : MenuExit ctx menu entry settle cycles left calls w answer) :
    (∃ target waited, answer = .error (.elementNotFound target waited))
      ↔ EntryMissed ctx menu entry settle calls := by
  have hnil : OnlyAsks [] := fun _ h => absurd h List.not_mem_nil
  constructor
  · intro hanswer
    obtain ⟨target, waited, hanswer⟩ := hanswer
    cases h with
    | missed hbefore _ hmissed =>
      refine ⟨_, _, _, _, rfl, ?_, hmissed⟩
      rw [hbefore.clicks_eq, List.length_map, MenuClick.length_rounds]
      exact Nat.dvd_mul_right 3 _
    | stopped | cleared | exhausted => cases hanswer
  · intro hentry
    obtain ⟨before, t, since, answers, hcalls, hopens, -⟩ := hentry
    have hlooks := onlyAsks_looks ctx settle since answers (settle.pauses + 1)
    -- The last gesture in the journal opens the menu; in other runs it does not.
    cases h with
    | missed => exact ⟨_, _, rfl⟩
    | stopped =>
      obtain ⟨-, hclick, -⟩ := last_act_unique rfl rfl hnil hlooks hcalls
      injection hclick with _ _ _ _ hanswer
      cases hanswer
    | cleared hbefore _ hlooked =>
      obtain ⟨heq, -, -⟩ := last_act_unique rfl rfl hlooked hlooks hcalls
      rw [← heq, hbefore.clicks_eq, List.length_map, List.length_append,
        MenuClick.length_rounds, List.length_singleton] at hopens
      omega
    | exhausted =>
      obtain ⟨-, -, hafter⟩ := last_act_unique rfl rfl hnil hlooks hcalls
      rw [DriverCall.looks_succ] at hafter
      cases (List.append_eq_nil_iff.mp hafter.symm).2

/-- A run that misses the entry ends with the menu after whole rounds. -/
theorem of_elementNotFound {target : String} {waited : Nat}
    (h : MenuExit ctx menu entry settle cycles left calls w
      (.error (.elementNotFound target waited))) :
    target = entry.describe ∧ waited = settle.timeout
      ∧ ∃ n ≤ left, w = MenuClick.rounds n ++ [.menu] := by
  cases h with
  | missed _ hn => exact ⟨rfl, rfl, _, hn, rfl⟩

/-- Opening an entry never times out in any other way. -/
theorem ne_timedOut {what : String} {waited : Nat}
    (h : MenuExit ctx menu entry settle cycles left calls w answer) :
    answer ≠ .error (.timedOut what waited) := by
  cases h with
  | stopped | missed | cleared | exhausted => exact fun h => by cases h

end MenuExit

/-! ## What is found in the journal of a run -/

section Run

variable {σ α : Type} {driver : UiDriver σ} {busy : Locator} {o : WaitOptions}

/-- A click is one call, which succeeds or fails as the step does. -/
theorem journals_clickStep (l : Locator) :
    Journals (clickStep driver.journaled ctx l).run fun calls r =>
      (∃ t, r = .ok () ∧ calls = [.act t ctx l .click (.ok ())])
        ∨ ∃ t e, r = .error (.driver e) ∧ calls = [.act t ctx l .click (.error e)] := by
  refine Journals.journaled.map fun calls r hcalls => ?_
  obtain ⟨t, hcalls⟩ := hcalls
  cases r with
  | ok _ => exact Or.inl ⟨t, rfl, hcalls⟩
  | error e => exact Or.inr ⟨t, e, rfl, hcalls⟩

variable [Clock]

/-- Who looks for something asks for the elements at the times of the schedule, and finds nothing
only if it is seen at none of them. -/
theorem journals_tryUntil (exact : Clock.Exact)
    (instant : (driver.dump ctx).run.Instant)
    (sought : Except DriverError Forest → Option α) :
    Journals (tryUntil o (sought <$> (driver.journaled.dump ctx).run)) fun calls tried =>
      ∃ since answers k, calls = DriverCall.looks ctx o since answers (k + 1)
        ∧ (tried.found = none → k = o.pauses ∧ tried.elapsed = o.timeout
          ∧ ∀ j ≤ o.pauses, sought (answers j) = none) := by
  intro now s
  obtain ⟨k, hk⟩ := driver.exists_lastLook ctx o now s.1 sought
  have hinstant : (driver.journaled.dump ctx).run.Instant := fun now s => instant now s.1
  have hrun := (hk.journaled s.2).tryUntil_eq exact hinstant
  rw [UiDriver.runAt_journaled, UiDriver.shown_journaled] at hrun
  refine ⟨driver.looks ctx o now s.1 (k + 1), ?_, now, driver.shown ctx o now s.1, k, rfl, ?_⟩
  · rw [hrun]
  · rw [hrun]
    intro hnone
    have hup := hk.last hnone
    refine ⟨hup, by rw [hup, o.pollTime_pauses], fun j hj => ?_⟩
    rcases Nat.lt_or_eq_of_le hj with hlt | heq
    · exact hk.earlier j (hup ▸ hlt)
    · rw [heq, ← hup]
      exact hnone

/-- A wait for an element only looks. -/
theorem journals_waitForElement (exact : Clock.Exact)
    (instant : (driver.dump ctx).run.Instant) (l : Locator) :
    Journals (waitForElement driver.journaled ctx l o).run fun calls r =>
      (∃ e, r = .ok e ∧ OnlyAsks calls)
        ∨ ∃ since answers, r = .error (.elementNotFound l.describe o.timeout)
          ∧ calls = DriverCall.looks ctx o since answers (o.pauses + 1)
          ∧ ∀ k ≤ o.pauses, l.seenIn (answers k) = none := by
  rw [run_waitForElement]
  refine (journals_tryUntil exact instant l.seenIn).map fun calls tried h => ?_
  obtain ⟨since, answers, k, hcalls, hnone⟩ := h
  rw [Tried.toExcept]
  cases hfound : tried.found with
  | some e =>
    refine Or.inl ⟨e, rfl, ?_⟩
    rw [hcalls]
    exact onlyAsks_looks ctx o since answers (k + 1)
  | none =>
    obtain ⟨hk, htime, hmissed⟩ := hnone hfound
    refine Or.inr ⟨since, answers, by rw [htime], ?_, hmissed⟩
    rw [hcalls, hk]

/-- So does a wait for its absence. -/
theorem journals_pollWait (exact : Clock.Exact)
    (instant : (driver.dump ctx).run.Instant) (l : Locator) :
    Journals (pollWait driver.journaled (.elementAbsent ctx l) o)
      fun calls _ => OnlyAsks calls := by
  rw [pollWait_eq_map, attempt_elementAbsent]
  refine (journals_tryUntil exact instant l.goneIn).map fun calls tried h => ?_
  obtain ⟨since, answers, k, hcalls, -⟩ := h
  rw [hcalls]
  exact onlyAsks_looks ctx o since answers (k + 1)

/-- Opening the entry comes to a click on it, or ends the run. -/
def Opens (ctx : AppContext) (menu entry : Locator) (settle : WaitOptions)
    (calls : List DriverCall) : Except WaitError Unit → Prop
  | .ok _ => ∃ before t, calls = before ++ [.act t ctx entry .click (.ok ())]
      ∧ Clicked menu entry before [.menu]
  | .error e => ∀ cycles left, ∃ w, MenuExit ctx menu entry settle cycles left calls w (.error e)

/-- To open an entry is to click the menu, to wait for the entry, and to click that. -/
theorem journals_openEntry (exact : Clock.Exact)
    (instant : (driver.dump ctx).run.Instant) :
    Journals (openEntry driver.journaled ctx menu entry o).run (Opens ctx menu entry o) := by
  -- Each of the three steps may fail, and then its calls are the last ones.
  refine (journals_clickStep menu).bindAttempt (fun first _ hfirst => ?_) fun first e hfirst => ?_
  · obtain ⟨t, -, hfirst⟩ | ⟨_, _, h, -⟩ := hfirst
    case inr => cases h
    have hmenu : Clicked menu entry first [.menu] := hfirst ▸ Clicked.click t .menu
    refine (journals_waitForElement exact instant entry).bindAttempt (fun looked _ hlooked => ?_)
      fun looked e hlooked => ?_
    · obtain ⟨_, -, hlooked⟩ | ⟨_, _, h, -⟩ := hlooked
      case inr => cases h
      have hbefore : Clicked menu entry (first ++ looked) [.menu] := hmenu.append (.asks hlooked)
      refine (journals_clickStep entry).mono fun last r hlast => ?_
      obtain ⟨t', hr, hlast⟩ | ⟨t', e, hr, hlast⟩ := hlast
      · rw [hr, hlast, ← List.append_assoc]
        exact ⟨first ++ looked, t', rfl, hbefore⟩
      · rw [hr, hlast, ← List.append_assoc]
        intro cycles left
        refine ⟨_, .stopped (c := .entry) hbefore ?_⟩
        exact ⟨.menu :: MenuClick.rounds left, rfl⟩
    · obtain ⟨_, h, -⟩ | ⟨since, answers, he, hlooked, hmissed⟩ := hlooked
      · cases h
      · cases he
        intro cycles left
        rw [hfirst, hlooked]
        have hnone : Clicked menu entry [] [] := .nil
        exact ⟨_, .missed (n := 0) hnone (Nat.zero_le left) hmissed⟩
  · obtain ⟨_, h, -⟩ | ⟨t, e', he, hfirst⟩ := hfirst
    · cases h
    · cases he
      intro cycles left
      rw [hfirst]
      have hnone : Clicked menu entry [] [] := .nil
      refine ⟨_, .stopped (c := .menu) hnone ?_⟩
      exact ⟨.entry :: .menu :: MenuClick.rounds left, rfl⟩

/-- One round of a run, where `next` is what follows when the menu was closed. -/
theorem journals_round (exact : Clock.Exact)
    (instant : (driver.dump ctx).run.Instant) {cycles left : Nat}
    {next : Attempt (σ × List DriverCall) WaitError RetryOutcome}
    (hnext : ∀ before t, Clicked menu entry before [.menu, .entry] →
      Journals next.run fun rest r => ∃ w, MenuExit ctx menu entry o cycles left
        (before ++ [.act t ctx menu .click (.ok ())] ++ rest) w r) :
    Journals (ExceptT.run do
      openEntry driver.journaled ctx menu entry o
      let settled ← ExceptT.lift (pollWait driver.journaled (.elementAbsent ctx busy) o)
      if settled.isSatisfied then return .cleared cycles
      clickStep driver.journaled ctx menu
      next) fun calls r => ∃ w, MenuExit ctx menu entry o cycles left calls w r := by
  -- The calls come in this order: those that open the entry, the looks, the click that closes.
  refine (journals_openEntry exact instant).bindAttempt (fun opened _ hopened => ?_)
    fun opened e hopened => hopened cycles left
  obtain ⟨before, t, hopened, hbefore⟩ := hopened
  refine (journals_pollWait exact instant busy).lift.bindAttempt (fun looked settled hlooked => ?_)
    fun looked e hlooked => ?_
  · obtain ⟨_, -, hlooked⟩ := hlooked
    have hentry : Clicked menu entry (opened ++ looked) [.menu, .entry] := by
      rw [hopened]
      exact (hbefore.append (.click t .entry)).append (.asks hlooked)
    cases hsettled : settled.isSatisfied with
    | true =>
      refine .pure ?_
      rw [List.append_nil, hopened, List.append_assoc]
      exact ⟨_, .cleared (n := 0) hbefore (Nat.zero_le left) hlooked⟩
    | false =>
      refine (journals_clickStep menu).bindAttempt (fun last _ hlast => ?_) fun last e hlast => ?_
      · obtain ⟨t', -, hlast⟩ | ⟨_, _, h, -⟩ := hlast
        case inr => cases h
        refine (hnext (opened ++ looked) t' hentry).mono fun rest r hexit => ?_
        rw [hlast, ← List.append_assoc, ← List.append_assoc]
        exact hexit
      · obtain ⟨_, h, -⟩ | ⟨t', e', he, hlast⟩ := hlast
        · cases h
        · cases he
          rw [hlast, ← List.append_assoc]
          refine ⟨_, .stopped (c := .menu) hentry ?_⟩
          exact ⟨MenuClick.rounds left, rfl⟩
  · obtain ⟨_, h, -⟩ := hlooked
    cases h

/-- **The journal of a run says how it ends**, by induction on the rounds that are left. -/
theorem journals_retryFrom (exact : Clock.Exact)
    (instant : (driver.dump ctx).run.Instant) (o : RetryOptions)
    (cycles left : Nat) :
    Journals (retryFrom driver.journaled (.elementAbsent ctx busy)
      (openEntry driver.journaled ctx menu entry o.settle) (clickStep driver.journaled ctx menu) o
      cycles left).run
        fun calls r => ∃ w, MenuExit ctx menu entry o.settle cycles left calls w r := by
  -- The induction is on the cycles that are left; each round but the last uses up one.
  induction left generalizing cycles with
  | zero =>
    refine journals_round exact instant fun before t hbefore => .pure ?_
    rw [List.append_nil]
    exact ⟨_, .exhausted hbefore⟩
  | succ left ih =>
    refine journals_round exact instant fun before t hbefore => ?_
    refine (Journals.sleep o.backoff).lift.bindAttempt (fun slept _ hslept => ?_)
      fun slept e hslept => ?_
    · obtain ⟨_, -, hslept⟩ := hslept
      refine (ih (cycles + 1)).mono fun rest r hexit => ?_
      obtain ⟨w, hexit⟩ := hexit
      rw [hslept, List.nil_append]
      exact ⟨_, hexit.again (hbefore.append (.click t .menu))⟩
    · obtain ⟨_, h, -⟩ := hslept
      cases h

end Run

end Menu

/-! ## What is recorded of a run -/

section Recorded

variable {σ : Type} {driver : UiDriver σ} {desktop : σ → Desktop} {ctx : AppContext}

/-- What a desktop records of calls that only ask, or click in one context. -/
def clickAccount (desktop : σ → Desktop) (ctx : AppContext) : Account σ where
  holds s calls t := (desktop t).calls = (desktop s).calls
    ++ (clicks calls).map fun l => ⟨.click, ctx.name, l.describe⟩
  nil s := (List.append_nil _).symm
  append hfirst hrest := by
    rw [hrest, hfirst, clicks_append, List.map_append, List.append_assoc]

variable (forwards : driver.Forwards desktop)
include forwards

theorem accounts_dump :
    Accounts (clickAccount desktop ctx) (driver.journaled.dump ctx).run (driver.dump ctx).run :=
  .journaled fun now s => (forwards.calls_dump ctx now s).trans (List.append_nil _).symm

/-- A click is accounted for on the desktop. -/
theorem accounts_clickStep (l : Locator) :
    Accounts (clickAccount desktop ctx) (clickStep driver.journaled ctx l).run
      (clickStep driver ctx l).run := by
  refine Accounts.adapt WaitError.driver (.journaled fun now s => ?_)
  show (desktop _).calls = _
  rw [forwards.calls_click ctx l now s]
  cases ((driver.click ctx l).run now s).value with
  | ok _ => rfl
  | error e => rfl

/-- To keep a journal of a run changes nothing, and the clicks in it are what is recorded. -/
theorem accounts_openMenuEntry [Clock] (menu entry busy : Locator) (o : RetryOptions) :
    Accounts (clickAccount desktop ctx) (openMenuEntry driver.journaled ctx menu entry busy o).run
      (openMenuEntry driver ctx menu entry busy o).run := by
  have hdump := @accounts_dump _ _ _ ctx forwards
  have hcleared : Accounts (clickAccount desktop ctx)
      (Condition.check driver.journaled (.elementAbsent ctx busy))
      (Condition.check driver (.elementAbsent ctx busy)) :=
    (Accounts.exists? hdump busy).succeeds _
  have hopen : Accounts (clickAccount desktop ctx)
      (openEntry driver.journaled ctx menu entry o.settle).run
      (openEntry driver ctx menu entry o.settle).run :=
    (accounts_clickStep forwards menu).bindAttempt fun _ =>
      (Accounts.waitForElement hdump).bindAttempt fun _ => accounts_clickStep forwards entry
  exact Accounts.retryFrom hcleared hopen (accounts_clickStep forwards menu) 0 o.maxCycles

end Recorded

end GuiTest
