import Mathlib.Data.List.Chain
import GuiTest.Proofs.Waiting.Schedule

/-!
# Waiting with evaluations that take time

An evaluation may take as long as it likes, so the times of a wait are no longer fixed in advance
and it is the time spent, not a count, that ends the loop. To see what happens, the evaluations
write themselves down (`Timed.noted`). One pass of the loop either ends the wait or pauses and goes
on (`Proceeds`, one constructor for each), and every property of a whole wait is an induction over
its passes. `Course` collects the properties, and `tryUntil_course` says that every wait on an exact
clock has them. The interval in them is the one that was asked for, raised to ten milliseconds.
-/

namespace GuiTest

/-- One evaluation: the moments at which it began and ended, and what it found. -/
structure Evaluation (α : Type) where
  began : Nat
  ended : Nat
  found : Option α

namespace Timed

variable {σ α : Type}

/-- The evaluation that is made at a moment in a state. -/
def evaluation (x : Timed σ (Option α)) (now : Nat) (s : σ) : Evaluation α :=
  ⟨now, now + (x now s).took, (x now s).value⟩

/-- A computation that in addition writes down each of its evaluations. -/
def noted (x : Timed σ (Option α)) : Timed (σ × List (Evaluation α)) (Option α) := fun now s =>
  ⟨(x now s.1).value, ((x now s.1).state, s.2 ++ [x.evaluation now s.1]), (x now s.1).took⟩

end Timed

/-- The moment at which the evaluation after this one begins. The pause between them is one
interval, or what is left of the time if that is less; what is left is reckoned in integers, where
no subtraction is cut off at zero. -/
structure Evaluation.LeadsTo {α : Type} (o : WaitOptions) (start : Nat) (e : Evaluation α)
    (next : Nat) : Prop where
  not_over : e.ended < start + o.timeout
  later : e.ended < next
  pause_eq : (next : Int) - e.ended
    = min (max (o.interval : Int) 10000000) (o.timeout - ((e.ended : Int) - start))
  whole_or_last : next = e.ended + max o.interval 10000000
    ∨ next < e.ended + max o.interval 10000000 ∧ next = start + o.timeout

/-- What there is to say about a wait that began at `start`, made the evaluations of `log` and
ended as `tried` says. -/
structure Course {α : Type} (o : WaitOptions) (start : Nat) (log : List (Evaluation α))
    (tried : Tried α) : Prop where
  /-- The time bounds the number of evaluations. -/
  length_le : log.length ≤ o.timeout ⌈/⌉ max o.interval 10000000 + 1
  begins_at_once : ∀ e ∈ log.head?, e.began = start
  /-- No evaluation begins after the end of the time. -/
  began_le : ∀ e ∈ log, e.began ≤ start + o.timeout
  began_le_ended : ∀ e ∈ log, e.began ≤ e.ended
  /-- Another evaluation comes only after one that found nothing and ended in time. -/
  goes_on : ∀ e ∈ log.dropLast, e.found = none ∧ e.ended < start + o.timeout
  paused : log.IsChain fun e f => e.LeadsTo o start f.began
  attempts_eq : tried.attempts = log.length
  /-- The last evaluation decides, and it is its end at which the wait ends. -/
  ends : ∃ last ∈ log.getLast?, tried.found = last.found ∧ start + tried.elapsed = last.ended
    ∧ (last.found = none → start + o.timeout ≤ last.ended)

section Passes

variable {σ α : Type} {o : WaitOptions} {start now : Nat} {earlier : List (Evaluation α)}
  {last : Evaluation α}

/-- The passes of the loop from the moment `now` on: all evaluations but the last find nothing and
end in time, and the last one finds something or ends when the time is up. -/
inductive Proceeds (o : WaitOptions) (start : Nat) :
    Nat → List (Evaluation α) → Evaluation α → Prop where
  | ends {e : Evaluation α} (forward : e.began ≤ e.ended)
    (is_over : e.found = none → start + o.timeout ≤ e.ended) : Proceeds o start e.began [] e
  | goesOn {e last : Evaluation α} {earlier : List (Evaluation α)} (forward : e.began ≤ e.ended)
    (failed : e.found = none) (left : e.ended < start + o.timeout)
    (rest : Proceeds o start (e.ended + min o.pause (start + o.timeout - e.ended)) earlier last) :
    Proceeds o start e.began (e :: earlier) last

/-- The pause that the loop makes is the one that leads to the next evaluation. -/
theorem Evaluation.leadsTo {e : Evaluation α} (left : e.ended < start + o.timeout) :
    e.LeadsTo o start (e.ended + min o.pause (start + o.timeout - e.ended)) := by
  have hpause := o.pause_eq
  exact ⟨left, by omega, by omega, by omega⟩

namespace Proceeds

/-- The first evaluation begins at once. -/
theorem head?_began (h : Proceeds o start now earlier last) :
    ∀ e ∈ (earlier ++ [last]).head?, e.began = now := by
  intro e he
  cases h with
  | ends => cases he; rfl
  | goesOn => cases he; rfl

/-- No evaluation begins late, since no pause goes past the end of the time. -/
theorem began_le (h : Proceeds o start now earlier last) (hnow : now ≤ start + o.timeout) :
    ∀ e ∈ earlier ++ [last], e.began ≤ start + o.timeout := by
  induction h with
  | ends => exact List.forall_mem_singleton.mpr hnow
  | goesOn _ _ _ _ ih => exact List.forall_mem_cons.mpr ⟨hnow, ih (by omega)⟩

/-- No evaluation ends before it began. -/
theorem began_le_ended (h : Proceeds o start now earlier last) :
    ∀ e ∈ earlier ++ [last], e.began ≤ e.ended := by
  induction h with
  | ends forward => exact List.forall_mem_singleton.mpr forward
  | goesOn forward _ _ _ ih => exact List.forall_mem_cons.mpr ⟨forward, ih⟩

/-- All but the last find nothing and end in time. -/
theorem goes_on (h : Proceeds o start now earlier last) :
    ∀ e ∈ earlier, e.found = none ∧ e.ended < start + o.timeout := by
  induction h with
  | ends => exact List.forall_mem_nil _
  | goesOn _ failed left _ ih => exact List.forall_mem_cons.mpr ⟨⟨failed, left⟩, ih⟩

/-- A last one that finds nothing ends when the time is up or later. -/
theorem is_over (h : Proceeds o start now earlier last) :
    last.found = none → start + o.timeout ≤ last.ended := by
  induction h with
  | ends _ hover => exact hover
  | goesOn _ _ _ _ ih => exact ih

/-- Between two evaluations there is the pause that the loop makes. -/
theorem isChain (h : Proceeds o start now earlier last) :
    (earlier ++ [last]).IsChain fun e f => e.LeadsTo o start f.began := by
  induction h with
  | ends => exact List.isChain_singleton _
  | goesOn _ _ left rest ih =>
    rw [List.cons_append]
    refine ih.cons fun f hf => ?_
    rw [rest.head?_began f hf]
    exact Evaluation.leadsTo left

/-- **The time bounds the evaluations.** Each pass but the last takes at least one interval of what
is left of the time, or all of it. -/
theorem length_le (h : Proceeds o start now earlier last) {k : Nat}
    (hk : start + o.timeout - now ≤ k * o.pause) : earlier.length ≤ k := by
  induction h generalizing k with
  | ends => exact Nat.zero_le k
  | goesOn forward _ left _ ih =>
    cases k with
    | zero => omega
    | succ k =>
      rw [Nat.succ_mul] at hk
      have := ih (k := k) (by omega)
      rw [List.length_cons]
      omega

/-- Time only goes on. -/
theorem le_ended (h : Proceeds o start now earlier last) : now ≤ last.ended := by
  induction h with
  | ends forward => exact forward
  | goesOn forward _ _ _ ih => omega

/-- The passes of a whole wait. -/
theorem course (h : Proceeds o start start earlier last) :
    Course o start (earlier ++ [last])
      ⟨last.found, (earlier ++ [last]).length, last.ended - start⟩ where
  length_le := by
    have hlast : start + o.timeout - start ≤ o.pauses * o.pause := by
      rw [Nat.add_sub_cancel_left]
      exact o.pauses_le_iff.mp (Nat.le_refl _)
    have := h.length_le hlast
    rw [List.length_append, List.length_singleton]
    exact Nat.succ_le_succ this
  begins_at_once := h.head?_began
  began_le := h.began_le (Nat.le_add_right ..)
  began_le_ended := h.began_le_ended
  goes_on := by
    rw [List.dropLast_concat]
    exact h.goes_on
  paused := h.isChain
  attempts_eq := rfl
  ends := by
    have := h.le_ended
    refine ⟨last, List.getLast?_concat, rfl, ?_, h.is_over⟩
    show start + (last.ended - start) = last.ended
    omega

end Proceeds

variable [Clock]

/-- A pass that finds something, or ends when the time is up, is the last one. -/
theorem tryFrom_of_over {x : Timed σ (Option α)} {attempts spent : Nat} {s : σ}
    (hover : (x (start + spent) s).value = none →
      o.timeout ≤ spent + (x (start + spent) s).took) :
    tryFrom o x start attempts spent s
      = ⟨⟨(x (start + spent) s).value, attempts + 1, spent + (x (start + spent) s).took⟩,
        (x (start + spent) s).state, spent + (x (start + spent) s).took⟩ := by
  cases hvalue : (x (start + spent) s).value with
  | some a => exact tryFrom_of_some hvalue
  | none => exact tryFrom_of_up hvalue (hover hvalue)

/-- What the loop does from here on, in this state, the evaluations so far being those of `log`: it
makes the evaluations `earlier` and `last`. To write them down changes nothing else. -/
def LoopMakes (o : WaitOptions) (x : Timed σ (Option α)) (start attempts spent : Nat) (s : σ)
    (log earlier : List (Evaluation α)) (last : Evaluation α) : Prop :=
  let tried : Tried α := ⟨last.found, attempts + (earlier ++ [last]).length, last.ended - start⟩
  ∃ state, tryFrom o x start attempts spent s = ⟨tried, state, last.ended - start⟩
    ∧ tryFrom o x.noted start attempts spent (s, log)
      = ⟨tried, (state, log ++ (earlier ++ [last])), last.ended - start⟩

/-- A pass that ends the wait is the last. -/
theorem loopMakes_of_over {x : Timed σ (Option α)} {attempts spent : Nat} {s : σ}
    (hover : (x (start + spent) s).value = none →
      o.timeout ≤ spent + (x (start + spent) s).took) (log : List (Evaluation α)) :
    ∃ earlier last, Proceeds o start (start + spent) earlier last
      ∧ LoopMakes o x start attempts spent s log earlier last := by
  have hended : (x.evaluation (start + spent) s).ended - start
      = spent + (x (start + spent) s).took := by
    show start + spent + (x (start + spent) s).took - start = _
    omega
  refine ⟨[], x.evaluation (start + spent) s, ?_, (x (start + spent) s).state, ?_, ?_⟩
  · refine Proceeds.ends (e := x.evaluation (start + spent) s) (Nat.le_add_right ..) fun hnone => ?_
    have := hover hnone
    show start + o.timeout ≤ start + spent + (x (start + spent) s).took
    omega
  · rw [tryFrom_of_over hover, hended]
    rfl
  · rw [tryFrom_of_over (x := x.noted) (s := (s, log)) hover, hended]
    rfl

/-- **A wait is made of passes.** -/
theorem exists_loopMakes (exact : Clock.Exact) (o : WaitOptions) (x : Timed σ (Option α))
    (start attempts spent : Nat) (s : σ) (log : List (Evaluation α)) :
    ∃ earlier last, Proceeds o start (start + spent) earlier last
      ∧ LoopMakes o x start attempts spent s log earlier last := by
  induction attempts, spent, s using tryFrom.induct o x start generalizing log with
  | case1 attempts spent s _ a hfound =>
    exact loopMakes_of_over (fun hnone => nomatch hnone.symm.trans hfound) log
  | case2 attempts spent s _ _ hnone hup => exact loopMakes_of_over (fun _ => hup) log
  | case3 attempts spent s _ _ hnone hleft ih =>
    obtain ⟨earlier, last, hrest, state, hrun, hnoted⟩ :=
      ih (log ++ [x.evaluation (start + spent) s])
    have hnone' : (x.noted (start + spent) (s, log)).value = none := hnone
    have hlength : attempts + 1 + (earlier ++ [last]).length
        = attempts + (x.evaluation (start + spent) s :: earlier ++ [last]).length := by
      rw [List.cons_append, List.length_cons, Nat.add_assoc, Nat.add_comm 1]
    refine ⟨x.evaluation (start + spent) s :: earlier, last, ?_, state, ?_, ?_⟩
    · -- What the loop adds to the time spent leads from the end of this evaluation to the next.
      have hended : (x.evaluation (start + spent) s).ended
          = start + (spent + (x (start + spent) s).took) := Nat.add_assoc ..
      refine Proceeds.goesOn (e := x.evaluation (start + spent) s) (Nat.le_add_right ..) hnone ?_ ?_
      · rw [hended]
        exact Nat.add_lt_add_left (Nat.not_le.mp hleft) start
      · rw [hended, Nat.add_sub_add_left, Nat.add_assoc]
        rw [exact] at hrest
        exact hrest
    · rw [tryFrom_of_left hnone hleft, ← hlength]
      exact hrun
    · rw [tryFrom_of_left hnone' hleft, ← hlength, List.cons_append,
        List.append_cons log (x.evaluation (start + spent) s)]
      exact hnoted

end Passes

/-- **The course of a wait.** Whatever the evaluations find and however long they take, a wait on an
exact clock ends after at most `⌈timeout / interval⌉ + 1` of them, each of which begins in time.
Between two of them there is a pause of one interval, which is not below ten milliseconds, or a
shorter one that ends just when the time is up; after one that ended then or later there is no
other. The last evaluation decides: a wait gives up only if that one found nothing and ended when
the time was up, and what is found ends the wait even later than that. -/
theorem tryUntil_course {σ α : Type} [Clock] (exact : Clock.Exact) (o : WaitOptions)
    (x : Timed σ (Option α)) (start : Nat) (s : σ) :
    let run := tryUntil o x start s
    let noted := tryUntil o x.noted start (s, [])
    (noted.value = run.value ∧ noted.state.1 = run.state ∧ noted.took = run.took)
      ∧ Course o start noted.state.2 run.value
      ∧ run.took = run.value.elapsed
      ∧ ∀ (driver : UiDriver σ) (c : Condition σ), (pollWait driver c o start s).value
        = .ofTried (tryUntil o (c.attempt driver) start s).value := by
  intro run noted
  obtain ⟨earlier, last, hpasses, state, hrun, hnoted⟩ := exists_loopMakes exact o x start 0 0 s []
  rw [Nat.zero_add] at hrun hnoted
  have hrun : run = _ := hrun
  have hnoted : noted = _ := hnoted
  rw [hrun, hnoted]
  exact ⟨⟨rfl, rfl, rfl⟩, hpasses.course, rfl, fun driver c => by rw [pollWait_eq]⟩

/-- Evaluations that take 4, 12 and 0 milliseconds, asked for every 3 milliseconds with 30 of time:
the pause after the first is one of 10, and the one after the second is cut at the end. -/
theorem tryUntil_course_slow :
    letI : Clock := .punctual
    let x : Timed Nat (Option Unit) := fun _ n => ⟨none, n + 1, [4000000, 12000000].getD n 0⟩
    let log : List (Evaluation Unit) :=
      [⟨0, 4000000, none⟩, ⟨14000000, 26000000, none⟩, ⟨30000000, 30000000, none⟩]
    Clock.Exact ∧ (tryUntil ⟨30000000, 3000000⟩ x.noted 0 (0, [])).state = (3, log)
      ∧ Course ⟨30000000, 3000000⟩ 0 log ⟨none, 3, 30000000⟩ := by
  let _ : Clock := .punctual
  let x : Timed Nat (Option Unit) := fun _ n => ⟨none, n + 1, [4000000, 12000000].getD n 0⟩
  have asleep_eq : ∀ now duration, Clock.asleep now duration = duration := Clock.exact_punctual
  have hrun : tryUntil ⟨30000000, 3000000⟩ x 0 0 = ⟨⟨none, 3, 30000000⟩, 3, 30000000⟩ := by
    rw [tryUntil, tryFrom_of_left rfl (by decide), tryFrom_of_left rfl (by decide),
      tryFrom_of_up rfl (by decide)]
    simp [x, WaitOptions.rest, WaitOptions.pause_eq, asleep_eq]
  have hnoted : (tryUntil ⟨30000000, 3000000⟩ x.noted 0 (0, [])).state
      = (3, [⟨0, 4000000, none⟩, ⟨14000000, 26000000, none⟩, ⟨30000000, 30000000, none⟩]) := by
    rw [tryUntil, tryFrom_of_left rfl (by decide), tryFrom_of_left rfl (by decide),
      tryFrom_of_up rfl (by decide)]
    simp [x, Timed.noted, Timed.evaluation, WaitOptions.rest, WaitOptions.pause_eq, asleep_eq]
  have hcourse := (tryUntil_course Clock.exact_punctual ⟨30000000, 3000000⟩ x 0 0).2.1
  rw [hnoted, hrun] at hcourse
  exact ⟨Clock.exact_punctual, hnoted, hcourse⟩

end GuiTest
