import GuiTest.Proofs.Waiting.Schedule
import GuiTest.Waiting.Retry

/-!
# The trace of a repeated action

The calls of a repeated action come in a fixed order: action, settling, dismissal, pause, and again
from the start. `rounds` is the word of calls of a run that nothing ends early, `untilSettled` the
word of one that clears. A run plays its rounds (`retryFrom_eq_play`): it makes their calls one
after the other and leaves at the first that does not let it go on. So the words of the calls say
all about a run, and what is to be shown are facts about words. `retry_trace` puts them together:
which word is called, what is answered, how often each call is made.
-/

namespace GuiTest

/-- The calls of a repeated action. -/
inductive RetryCall where
  | action
  | settling
  | dismissal
  | pause
  deriving DecidableEq

/-- What a call comes to. An action or a dismissal that succeeds lets the loop go on, and so does a
busy state that does not clear in the time that it has to settle; a pause always does. -/
inductive Reply (ε : Type) where
  | passed
  | cleared
  | failed (e : ε)

namespace Reply

variable {ε : Type}

/-- The reply of an action or a dismissal. -/
def ofExcept : Except ε Unit → Reply ε
  | .ok _ => passed
  | .error e => failed e

/-- The answer of a loop that ends with a reply after so many cycles. -/
def answer? (cycles : Nat) : Reply ε → Option (Except ε RetryOutcome)
  | passed => none
  | cleared => some (.ok (.cleared cycles))
  | failed e => some (.error e)

end Reply

namespace RetryCall

/-! ## Words of calls -/

/-- The calls of a run that goes through so many cycles and is still busy then. -/
def rounds : Nat → List RetryCall
  | 0 => [action, settling, dismissal]
  | n + 1 => action :: settling :: dismissal :: pause :: rounds n

/-- The calls of a run that is cleared after so many cycles. -/
def untilSettled : Nat → List RetryCall
  | 0 => [action, settling]
  | n + 1 => action :: settling :: dismissal :: pause :: untilSettled n

/-- Each round acts, waits and dismisses once, and there is a pause between two. -/
theorem count_rounds (n : Nat) :
    (rounds n).count action = n + 1 ∧ (rounds n).count settling = n + 1
      ∧ (rounds n).count dismissal = n + 1 ∧ (rounds n).count pause = n := by
  induction n with
  | zero => decide
  | succ n ih => simpa [rounds, List.count_cons] using ih

/-- The round that ends in success dismisses nothing. -/
theorem count_untilSettled (n : Nat) :
    (untilSettled n).count action = n + 1 ∧ (untilSettled n).count settling = n + 1
      ∧ (untilSettled n).count dismissal = n ∧ (untilSettled n).count pause = n := by
  induction n with
  | zero => decide
  | succ n ih => simpa [untilSettled, List.count_cons] using ih

/-- To count the pauses of a word is to count on with its first call. -/
theorem add_count_cons {call : RetryCall} {rest : List RetryCall} {cycles : Nat} :
    (if call = pause then cycles + 1 else cycles) + rest.count pause
      = cycles + (call :: rest).count pause := by
  rw [List.count_cons]
  by_cases h : call = pause
  · rw [if_pos h, if_pos (by rw [h]; rfl)]
    omega
  · rw [if_neg h, if_neg (by simpa using h)]
    omega

/-- A word that succeeds earlier is the beginning of one that does not. -/
theorem untilSettled_prefix {c n : Nat} (h : c ≤ n) : untilSettled c <+: rounds n := by
  induction n generalizing c with
  | zero =>
    obtain rfl := Nat.le_zero.mp h
    exact ⟨[dismissal], rfl⟩
  | succ n ih =>
    cases c with
    | zero => exact ⟨dismissal :: pause :: rounds n, rfl⟩
    | succ c =>
      obtain ⟨v, hv⟩ := ih (Nat.le_of_succ_le_succ h)
      exact ⟨v, by rw [untilSettled, rounds, ← hv]; rfl⟩

/-- Where rounds are left after settling, the run was cleared. -/
theorem eq_untilSettled {n : Nat} {u : List RetryCall} (h : u ++ [settling] <+: rounds n) :
    ∃ c ≤ n, u ++ [settling] = untilSettled c := by
  induction n generalizing u with
  | zero =>
    rcases u with _ | ⟨a, _ | ⟨b, _ | ⟨c, u⟩⟩⟩ <;>
      simp only [rounds, List.nil_append, List.cons_append, List.cons_prefix_cons, reduceCtorEq,
        List.prefix_nil, List.append_eq_nil_iff, List.cons_ne_self, and_false, false_and] at h
    exact ⟨0, Nat.le_refl 0, by rw [h.1]; rfl⟩
  | succ n ih =>
    -- The word ends in the first round after its action, or goes through all of the round.
    rcases u with _ | ⟨a, _ | ⟨b, _ | ⟨c, _ | ⟨d, u⟩⟩⟩⟩ <;>
      simp only [rounds, List.nil_append, List.cons_append, List.cons_prefix_cons, reduceCtorEq,
        and_false, false_and] at h
    · exact ⟨0, Nat.zero_le _, by rw [h.1]; rfl⟩
    · obtain ⟨rfl, rfl, rfl, rfl, hu⟩ := h
      obtain ⟨c, hc, hu⟩ := ih hu
      exact ⟨c + 1, Nat.succ_le_succ hc, by rw [untilSettled, ← hu]; rfl⟩

/-! ## Making calls -/

section Run

variable {σ ε : Type} [Clock] (driver : UiDriver σ) (busyCleared : Condition σ)
  (act dismiss : Attempt σ ε Unit) (o : RetryOptions)

/-- Makes one call. -/
def run : RetryCall → Timed σ (Reply ε)
  | action => do return .ofExcept (← act.run)
  | settling => do
    return if (← pollWait driver busyCleared o.settle).isSatisfied then .cleared else .passed
  | dismissal => do return .ofExcept (← dismiss.run)
  | pause => do
    Timed.sleep o.backoff
    return .passed

/-- Makes calls one after the other, whatever they come to. -/
def runAll : List RetryCall → Timed σ (List (Reply ε))
  | [] => return []
  | call :: rest => do
    let reply ← call.run driver busyCleared act dismiss o
    return reply :: (← runAll rest)

/-- Makes calls one after the other up to the first that does not let the loop go on, and counts
the pauses. -/
def play : List RetryCall → Nat → Timed σ (Except ε RetryOutcome)
  | [], cycles => return .ok (.exhausted cycles)
  | call :: rest, cycles => do
    match ← call.run driver busyCleared act dismiss o with
    | .passed => play rest (if call = pause then cycles + 1 else cycles)
    | .cleared => return .ok (.cleared cycles)
    | .failed e => return .error e

variable {driver busyCleared act dismiss o}

/-- A call that may fail is played by making it and going on if it succeeds. -/
theorem play_attempt {call : RetryCall} {x : Attempt σ ε Unit} (rest : List RetryCall)
    (cycles : Nat) (hne : call ≠ pause)
    (hrun : call.run driver busyCleared act dismiss o = do return .ofExcept (← x.run)) :
    play driver busyCleared act dismiss o (call :: rest) cycles = (do
      match ← x.run with
      | .ok _ => play driver busyCleared act dismiss o rest cycles
      | .error e => return .error e) := by
  rw [play, hrun, bind_assoc]
  refine bind_congr fun r => ?_
  rw [pure_bind, if_neg hne]
  cases r <;> rfl

/-- An action is one such call. -/
theorem play_action (rest : List RetryCall) (cycles : Nat) :
    play driver busyCleared act dismiss o (action :: rest) cycles = (do
      match ← act.run with
      | .ok _ => play driver busyCleared act dismiss o rest cycles
      | .error e => return .error e) :=
  play_attempt rest cycles nofun rfl

/-- So is a dismissal. -/
theorem play_dismissal (rest : List RetryCall) (cycles : Nat) :
    play driver busyCleared act dismiss o (dismissal :: rest) cycles = (do
      match ← dismiss.run with
      | .ok _ => play driver busyCleared act dismiss o rest cycles
      | .error e => return .error e) :=
  play_attempt rest cycles nofun rfl

/-- After settling either all is over or the rest is played. -/
theorem play_settling (rest : List RetryCall) (cycles : Nat) :
    play driver busyCleared act dismiss o (settling :: rest) cycles = (do
      if (← pollWait driver busyCleared o.settle).isSatisfied then return .ok (.cleared cycles)
      else play driver busyCleared act dismiss o rest cycles) := by
  rw [play, run, bind_assoc]
  refine bind_congr fun r => ?_
  rw [pure_bind]
  cases r.isSatisfied <;> rfl

/-- A pause only takes time, and a cycle begins after it. -/
theorem play_pause (rest : List RetryCall) (cycles : Nat) :
    play driver busyCleared act dismiss o (pause :: rest) cycles = (do
      Timed.sleep o.backoff
      play driver busyCleared act dismiss o rest (cycles + 1)) := by
  rw [play, run, bind_assoc]
  refine bind_congr fun _ => ?_
  rw [pure_bind]
  rfl

/-- One round of a repeated action, where `next` is what follows the dismissal. -/
theorem play_round (rest : List RetryCall) (cycles : Nat) (next : Attempt σ ε RetryOutcome)
    (hnext : next.run = play driver busyCleared act dismiss o rest cycles) :
    ExceptT.run (do
      act
      let settled ← ExceptT.lift (pollWait driver busyCleared o.settle)
      if settled.isSatisfied then return .cleared cycles
      dismiss
      next)
      = play driver busyCleared act dismiss o (action :: settling :: dismissal :: rest) cycles := by
  -- The two are compared call by call, and a call that fails ends both.
  rw [play_action, ExceptT.run_bind]
  refine bind_congr fun r => ?_
  cases r with
  | error e => rfl
  | ok _ =>
    show ExceptT.run (_ >>= _) = _
    rw [play_settling, ExceptT.run_bind, ExceptT.run_lift, bind_map_left]
    refine bind_congr fun r => ?_
    show ExceptT.run (if _ then _ else _) = _
    split
    next => rfl
    next =>
      rw [play_dismissal, ExceptT.run_bind]
      refine bind_congr fun r => ?_
      cases r with
      | error e => rfl
      | ok _ => exact hnext

/-- **A repeated action plays its rounds.** -/
theorem retryFrom_eq_play (cycles left : Nat) :
    (retryFrom driver busyCleared act dismiss o cycles left).run
      = play driver busyCleared act dismiss o (rounds left) cycles := by
  induction left generalizing cycles with
  | zero => exact play_round [] cycles _ rfl
  | succ left ih =>
    refine play_round (pause :: rounds left) cycles _ ?_
    rw [play_pause, ExceptT.run_bind, ExceptT.run_lift, bind_map_left]
    exact bind_congr fun _ => ih (cycles + 1)

/-! ## Words that are passed, and words that end a run -/

section Words

variable (driver busyCleared act dismiss o) (w : List RetryCall) (now : Nat) (s : σ)

/-- All calls of a word let the loop go on. -/
def Passes : Prop :=
  ∃ n, (runAll driver busyCleared act dismiss o w now s).value = List.replicate n .passed

/-- All calls of a word let the loop go on but the last, which comes to a reply. -/
def EndsWith (reply : Reply ε) : Prop :=
  ∃ n, (runAll driver busyCleared act dismiss o w now s).value
    = List.replicate n .passed ++ [reply]

/-- An answer, with the state and the time that the calls of a word leave behind. -/
def after {α : Type} (answer : α) : Timed.Outcome σ α :=
  ⟨answer, (runAll driver busyCleared act dismiss o w now s).state,
    (runAll driver busyCleared act dismiss o w now s).took⟩

end Words

variable {now : Nat} {s : σ} {call : RetryCall} {u v w rest : List RetryCall} {cycles : Nat}
  {reply : Reply ε}

/-- Calls are made one after the other. -/
theorem runAll_cons :
    runAll driver busyCleared act dismiss o (call :: rest) now s =
      let first := call.run driver busyCleared act dismiss o now s
      let others := runAll driver busyCleared act dismiss o rest (now + first.took) first.state
      ⟨first.value :: others.value, others.state, first.took + others.took⟩ := rfl

/-- A call that passes goes before the calls of a word that passes. -/
theorem passes_cons :
    Passes driver busyCleared act dismiss o (call :: rest) now s ↔
      let first := call.run driver busyCleared act dismiss o now s
      first.value = .passed ∧
        Passes driver busyCleared act dismiss o rest (now + first.took) first.state := by
  rw [Passes, runAll_cons]
  constructor
  · rintro ⟨n, hn⟩
    cases n with
    | zero => cases hn
    | succ n =>
      obtain ⟨hfirst, hrest⟩ := List.cons.inj hn
      exact ⟨hfirst, n, hrest⟩
  · rintro ⟨hfirst, n, hrest⟩
    exact ⟨n + 1, by rw [List.replicate_succ, ← hrest, ← hfirst]⟩

/-- A word ends with its first call that does not pass, and that is its last. -/
theorem endsWith_cons :
    EndsWith driver busyCleared act dismiss o (call :: rest) now s reply ↔
      let first := call.run driver busyCleared act dismiss o now s
      (first.value = reply ∧ rest = []) ∨ (first.value = .passed ∧
        EndsWith driver busyCleared act dismiss o rest (now + first.took) first.state reply) := by
  rw [EndsWith, runAll_cons]
  constructor
  · rintro ⟨n, hn⟩
    cases n with
    | zero =>
      obtain ⟨hfirst, hrest⟩ := List.cons.inj hn
      cases rest with
      | nil => exact Or.inl ⟨hfirst, rfl⟩
      | cons => cases hrest
    | succ n =>
      obtain ⟨hfirst, hrest⟩ := List.cons.inj hn
      exact Or.inr ⟨hfirst, n, hrest⟩
  · rintro (⟨hfirst, rfl⟩ | ⟨hfirst, n, hrest⟩)
    · exact ⟨0, by rw [← hfirst]; rfl⟩
    · exact ⟨n + 1, by rw [List.replicate_succ, List.cons_append, ← hrest, ← hfirst]⟩

/-- No word is over before its first call. -/
theorem not_endsWith_nil : ¬ EndsWith driver busyCleared act dismiss o [] now s reply := by
  rintro ⟨n, hn⟩
  have hlength := congrArg List.length hn
  rw [List.length_append] at hlength
  cases hlength

/-- What a run does after a call that passes, if it is known. -/
theorem play_cons {answer : Except ε RetryOutcome}
    (hpass : (call.run driver busyCleared act dismiss o now s).value = .passed)
    (hrest : play driver busyCleared act dismiss o rest
        (if call = pause then cycles + 1 else cycles)
        (now + (call.run driver busyCleared act dismiss o now s).took)
        (call.run driver busyCleared act dismiss o now s).state
      = after driver busyCleared act dismiss o u
        (now + (call.run driver busyCleared act dismiss o now s).took)
        (call.run driver busyCleared act dismiss o now s).state answer) :
    play driver busyCleared act dismiss o (call :: rest) cycles now s
      = after driver busyCleared act dismiss o (call :: u) now s answer := by
  rw [play]
  simp only [Bind.bind, Timed.bind, hpass, hrest]
  rfl

/-- A run in which nothing ends the loop. -/
theorem play_of_passes (h : Passes driver busyCleared act dismiss o w now s) :
    play driver busyCleared act dismiss o w cycles now s
      = after driver busyCleared act dismiss o w now s
        (.ok (.exhausted (cycles + w.count pause))) := by
  induction w generalizing cycles now s with
  | nil => rfl
  | cons call rest ih =>
    obtain ⟨hpass, hrest⟩ := passes_cons.mp h
    rw [← add_count_cons]
    exact play_cons hpass (ih hrest)

/-- Only settling can clear. -/
theorem eq_settling_of_cleared
    (h : (call.run driver busyCleared act dismiss o now s).value = .cleared) : call = settling := by
  cases call with
  | settling => rfl
  | action =>
    simp only [run, Bind.bind, Timed.bind, Pure.pure, Timed.pure, Reply.ofExcept] at h
    split at h <;> cases h
  | dismissal =>
    simp only [run, Bind.bind, Timed.bind, Pure.pure, Timed.pure, Reply.ofExcept] at h
    split at h <;> cases h
  | pause => cases h

/-- A run that a call ends, whatever calls might have followed. -/
theorem play_of_endsWith {answer : Except ε RetryOutcome}
    (h : EndsWith driver busyCleared act dismiss o w now s reply)
    (hanswer : reply.answer? (cycles + w.count pause) = some answer) :
    play driver busyCleared act dismiss o (w ++ v) cycles now s
      = after driver busyCleared act dismiss o w now s answer := by
  induction w generalizing cycles now s with
  | nil => exact absurd h not_endsWith_nil
  | cons call rest ih =>
    rcases endsWith_cons.mp h with ⟨hfirst, rfl⟩ | ⟨hpass, hrest⟩
    · -- Only settling clears, and no pause, so the count of cycles is not off by one here.
      rw [List.cons_append, play]
      simp only [Bind.bind, Timed.bind, hfirst]
      cases reply with
      | passed => cases hanswer
      | cleared =>
        obtain rfl := eq_settling_of_cleared hfirst
        cases hanswer
        rfl
      | failed e =>
        cases hanswer
        rfl
    · rw [← add_count_cons] at hanswer
      exact play_cons hpass (ih hrest hanswer)

/-- Either a word passes, or a part from its beginning ends a run. -/
theorem passes_or_ends (w : List RetryCall) (now : Nat) (s : σ) :
    Passes driver busyCleared act dismiss o w now s ∨
      ∃ u reply, u <+: w ∧ reply ≠ .passed ∧
        EndsWith driver busyCleared act dismiss o u now s reply := by
  induction w generalizing now s with
  | nil => exact Or.inl ⟨0, rfl⟩
  | cons call rest ih =>
    by_cases hpass : (call.run driver busyCleared act dismiss o now s).value = .passed
    · rcases ih _ _ with hrest | ⟨u, reply, hu, hreply, hend⟩
      · exact Or.inl (passes_cons.mpr ⟨hpass, hrest⟩)
      · exact Or.inr ⟨call :: u, reply, List.cons_prefix_cons.mpr ⟨rfl, hu⟩, hreply,
          endsWith_cons.mpr (Or.inr ⟨hpass, hend⟩)⟩
    · exact Or.inr ⟨[call], _, List.cons_prefix_cons.mpr ⟨rfl, List.nil_prefix⟩, hpass,
        endsWith_cons.mpr (Or.inl ⟨rfl, rfl⟩)⟩

/-- A word that ends cleared ends in settling. -/
theorem EndsWith.settling_last (h : EndsWith driver busyCleared act dismiss o w now s .cleared) :
    ∃ u, w = u ++ [settling] := by
  induction w generalizing now s with
  | nil => exact absurd h not_endsWith_nil
  | cons call rest ih =>
    rcases endsWith_cons.mp h with ⟨hfirst, rfl⟩ | ⟨-, hrest⟩
    · exact ⟨[], by rw [eq_settling_of_cleared hfirst]; rfl⟩
    · obtain ⟨u, rfl⟩ := ih hrest
      exact ⟨call :: u, rfl⟩

/-! ## How long the calls take -/

variable (driver busyCleared act dismiss o now s) in
/-- A call takes time only to settle and to pause, and settling in vain takes all that there is. -/
theorem took_of_passed (exact : Clock.Exact) (hact : act.run.Instant)
    (hdismiss : dismiss.run.Instant) (hcheck : (busyCleared.check driver).Instant)
    (call : RetryCall)
    (hpass : (call.run driver busyCleared act dismiss o now s).value = .passed) :
    (call.run driver busyCleared act dismiss o now s).took
      = [call].count settling * o.settle.timeout + [call].count pause * o.backoff := by
  cases call with
  | action =>
    show (act.run now s).took + 0 = _
    rw [hact now s]
    simp
  | dismissal =>
    show (dismiss.run now s).took + 0 = _
    rw [hdismiss now s]
    simp
  | pause =>
    show Clock.asleep now o.backoff + 0 = _
    rw [exact]
    simp
  | settling =>
    -- Settling that came to hold would have ended the run.
    have hvain : (pollWait driver busyCleared o.settle now s).value.isSatisfied = false := by
      by_contra hsat
      rw [Bool.not_eq_false] at hsat
      simp only [run, Bind.bind, Timed.bind, Pure.pure, Timed.pure, hsat] at hpass
      cases hpass
    show (pollWait driver busyCleared o.settle now s).took + 0 = _
    rw [took_of_not_satisfied exact hcheck hvain]
    simp

/-- The time that a word takes which passes. -/
theorem took_of_passes (exact : Clock.Exact) (hact : act.run.Instant)
    (hdismiss : dismiss.run.Instant) (hcheck : (busyCleared.check driver).Instant)
    (h : Passes driver busyCleared act dismiss o w now s) :
    (runAll driver busyCleared act dismiss o w now s).took
      = w.count settling * o.settle.timeout + w.count pause * o.backoff := by
  induction w generalizing now s with
  | nil => rw [List.count_nil, List.count_nil, Nat.zero_mul, Nat.zero_mul]; rfl
  | cons call rest ih =>
    obtain ⟨hpass, hrest⟩ := passes_cons.mp h
    have hfirst := took_of_passed driver busyCleared act dismiss o now s exact hact hdismiss hcheck
      call hpass
    have hothers := ih hrest
    have hcount (k : RetryCall) : (call :: rest).count k = [call].count k + rest.count k := by
      rw [← List.count_append]
      rfl
    rw [runAll_cons, hcount settling, hcount pause, Nat.add_mul, Nat.add_mul]
    dsimp only
    omega

end Run

end RetryCall

section Trace

variable {σ ε : Type} [Clock] (driver : UiDriver σ) (busyCleared : Condition σ)
  (act dismiss : Attempt σ ε Unit) (o : RetryOptions) (now : Nat) (s : σ)

open RetryCall

/-- How a repeated action can come to its end, with the calls that were made and the answer. -/
inductive RetryExit : List RetryCall → Except ε RetryOutcome → Prop where
  | exhausted (h : Passes driver busyCleared act dismiss o (rounds o.maxCycles) now s) :
    RetryExit (rounds o.maxCycles) (.ok (.exhausted o.maxCycles))
  | cleared {c : Nat} (hc : c ≤ o.maxCycles)
    (h : EndsWith driver busyCleared act dismiss o (untilSettled c) now s .cleared) :
    RetryExit (untilSettled c) (.ok (.cleared c))
  | failed {w : List RetryCall} {e : ε} (hw : w <+: rounds o.maxCycles)
    (h : EndsWith driver busyCleared act dismiss o w now s (.failed e)) :
    RetryExit w (.error e)

/-- A repeated action comes to an end in one of these ways. -/
theorem exists_retryExit :
    ∃ w answer, RetryExit driver busyCleared act dismiss o now s w answer := by
  rcases passes_or_ends (rounds o.maxCycles) now s with hpass | ⟨w, reply, hw, hne, hend⟩
  · exact ⟨_, _, .exhausted hpass⟩
  · cases reply with
    | passed => exact absurd rfl hne
    | cleared =>
      obtain ⟨u, rfl⟩ := hend.settling_last
      obtain ⟨c, hc, hu⟩ := eq_untilSettled hw
      rw [hu] at hend
      exact ⟨_, _, .cleared hc hend⟩
    | failed e => exact ⟨_, _, .failed hw hend⟩

variable {driver busyCleared act dismiss o now s} {w : List RetryCall}
  {answer : Except ε RetryOutcome}

namespace RetryExit

/-- The calls are those of the rounds, from the first on. -/
theorem isPrefix (h : RetryExit driver busyCleared act dismiss o now s w answer) :
    w <+: rounds o.maxCycles := by
  cases h with
  | exhausted h => exact List.prefix_rfl
  | cleared hc h => exact untilSettled_prefix hc
  | failed hw h => exact hw

/-- A repeated action that comes to an end in a way makes these calls and gives this answer. -/
theorem run_eq (h : RetryExit driver busyCleared act dismiss o now s w answer) :
    (retry driver busyCleared act dismiss o).run now s
      = after driver busyCleared act dismiss o w now s answer := by
  rw [retry, retryFrom_eq_play]
  cases h with
  | exhausted h => rw [play_of_passes h, (count_rounds _).2.2.2, Nat.zero_add]
  | @cleared c hc h =>
    obtain ⟨v, hv⟩ := untilSettled_prefix hc
    rw [← hv]
    exact play_of_endsWith h (by rw [(count_untilSettled c).2.2.2, Nat.zero_add]; rfl)
  | failed hw h =>
    obtain ⟨v, hv⟩ := hw
    rw [← hv]
    exact play_of_endsWith h rfl

end RetryExit

/-- An answer is given exactly if there is a way to come to it. -/
theorem retry_value_eq_iff :
    ((retry driver busyCleared act dismiss o).run now s).value = answer ↔
      ∃ w, RetryExit driver busyCleared act dismiss o now s w answer := by
  constructor
  · intro hvalue
    obtain ⟨w, answer', h⟩ := exists_retryExit driver busyCleared act dismiss o now s
    have hanswer : answer' = answer := by
      rw [← hvalue, h.run_eq]
      rfl
    exact ⟨w, hanswer ▸ h⟩
  · rintro ⟨w, h⟩
    rw [h.run_eq]
    rfl

variable (driver busyCleared act dismiss o now s) in
/-- **The trace of a repeated action.** A run makes the calls of the rounds from the first on: up to
the settling that clears it, up to the call that fails, or all if nothing ends it. Its answer tells
which of these it was. With actions and checks that take no time, on an exact clock, an exhausted
run lasts as long as its settling and its pauses. -/
theorem retry_trace :
    let run := (retry driver busyCleared act dismiss o).run now s
    let endsWith := fun w reply => EndsWith driver busyCleared act dismiss o w now s reply
    let makes := fun w => run = after driver busyCleared act dismiss o w now s run.value
    (∃ w, makes w ∧ w <+: rounds o.maxCycles ∧ w.count .action ≤ o.maxCycles + 1)
      ∧ (∀ c, run.value = .ok (.cleared c) ↔
        c ≤ o.maxCycles ∧ endsWith (untilSettled c) .cleared)
      ∧ (∀ c, run.value = .ok (.cleared c) → makes (untilSettled c))
      ∧ (∀ c, run.value = .ok (.exhausted c) ↔
        c = o.maxCycles ∧ Passes driver busyCleared act dismiss o (rounds c) now s)
      ∧ (∀ c, run.value = .ok (.exhausted c) → makes (rounds c))
      ∧ (∀ e, run.value = .error e ↔ ∃ w, w <+: rounds o.maxCycles ∧ endsWith w (.failed e))
      ∧ (∀ w e, w <+: rounds o.maxCycles → endsWith w (.failed e) → makes w)
      ∧ (∀ c, ((untilSettled c).count .action = c + 1 ∧ (untilSettled c).count .settling = c + 1
          ∧ (untilSettled c).count .dismissal = c ∧ (untilSettled c).count .pause = c)
        ∧ (rounds c).count .action = c + 1 ∧ (rounds c).count .settling = c + 1
          ∧ (rounds c).count .dismissal = c + 1 ∧ (rounds c).count .pause = c)
      ∧ (Clock.Exact → act.run.Instant → dismiss.run.Instant →
        (busyCleared.check driver).Instant → ∀ c, run.value = .ok (.exhausted c) →
          run.took = (o.maxCycles + 1) * o.settle.timeout + o.maxCycles * o.backoff) := by
  intro run endsWith makes
  -- An exit fixes the word of calls, and the run is what that word comes to.
  have hmakes {w : List RetryCall} {answer : Except ε RetryOutcome}
      (h : RetryExit driver busyCleared act dismiss o now s w answer) : makes w := by
    show run = after driver busyCleared act dismiss o w now s run.value
    rw [retry_value_eq_iff.mpr ⟨w, h⟩]
    exact h.run_eq
  have hexhausted {c : Nat} (h : run.value = .ok (.exhausted c)) :
      c = o.maxCycles ∧ Passes driver busyCleared act dismiss o (rounds c) now s := by
    obtain ⟨w, hexit⟩ := retry_value_eq_iff.mp h
    cases hexit with
    | exhausted hpass => exact ⟨rfl, hpass⟩
  have hcleared {c : Nat} (h : run.value = .ok (.cleared c)) :
      c ≤ o.maxCycles ∧ endsWith (untilSettled c) .cleared := by
    obtain ⟨w, hexit⟩ := retry_value_eq_iff.mp h
    cases hexit with
    | cleared hc hend => exact ⟨hc, hend⟩
  refine ⟨?_, fun c => ⟨hcleared, ?_⟩, ?_, fun c => ⟨hexhausted, ?_⟩, ?_, fun e => ⟨?_, ?_⟩, ?_,
    fun c => ⟨count_untilSettled c, count_rounds c⟩, ?_⟩
  · obtain ⟨w, answer, h⟩ := exists_retryExit driver busyCleared act dismiss o now s
    refine ⟨w, hmakes h, h.isPrefix, ?_⟩
    calc w.count .action ≤ (rounds o.maxCycles).count .action := h.isPrefix.sublist.count_le _
      _ = o.maxCycles + 1 := (count_rounds _).1
  · rintro ⟨hc, hend⟩
    exact retry_value_eq_iff.mpr ⟨_, .cleared hc hend⟩
  · intro c h
    obtain ⟨hc, hend⟩ := hcleared h
    exact hmakes (.cleared hc hend)
  · rintro ⟨rfl, hpass⟩
    exact retry_value_eq_iff.mpr ⟨_, .exhausted hpass⟩
  · intro c h
    obtain ⟨rfl, hpass⟩ := hexhausted h
    exact hmakes (.exhausted hpass)
  · intro h
    obtain ⟨w, hexit⟩ := retry_value_eq_iff.mp h
    cases hexit with
    | failed hw hend => exact ⟨w, hw, hend⟩
  · rintro ⟨w, hw, hend⟩
    exact retry_value_eq_iff.mpr ⟨w, .failed hw hend⟩
  · exact fun w e hw hend => hmakes (.failed hw hend)
  · -- Each settling that is passed takes all of its time, and each pause its backoff.
    intro exact hact hdismiss hcheck c h
    obtain ⟨rfl, hpass⟩ := hexhausted h
    have htook := took_of_passes exact hact hdismiss hcheck hpass
    rw [(count_rounds _).2.1, (count_rounds _).2.2.2] at htook
    rw [(hmakes (.exhausted hpass) : run = _)]
    exact htook

end Trace

/-- A busy state that never clears is left after the last cycle. -/
theorem retry_trace_never_cleared :
    letI : Clock := .punctual
    let never : Condition Rehearsal := .probe "busy cleared" (pure false)
    let r : Rehearsal := { desktop := Desktop.empty }
    ((retry Rehearsal.driver never (pure () : Attempt Rehearsal DriverError Unit) (pure ())
      ⟨⟨500000000, 250000000⟩, 1000000000, 2⟩).run 0 r).took = 3500000000 := by
  let _ : Clock := .punctual
  intro never r
  have hvalue : ((retry Rehearsal.driver never (pure () : Attempt Rehearsal DriverError Unit)
      (pure ()) ⟨⟨500000000, 250000000⟩, 1000000000, 2⟩).run 0 r).value = .ok (.exhausted 2) := by
    decide +kernel
  exact (retry_trace Rehearsal.driver never (pure ()) (pure ())
    ⟨⟨500000000, 250000000⟩, 1000000000, 2⟩ 0 r).2.2.2.2.2.2.2.2 Clock.exact_punctual
    (fun _ _ => rfl) (fun _ _ => rfl) (fun _ _ => rfl) 2 hvalue

end GuiTest
