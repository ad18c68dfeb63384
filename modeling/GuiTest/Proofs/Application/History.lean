import GuiTest.Proofs.Application.Desktop

/-!
# Histories of a desktop

A history is a list of requests, whatever each of them comes to. Of all requests only gestures that
succeed are recorded, each once (`exists_calls_run`); so over a history without forgetting the
recorded gestures only grow, and there are as many new ones as gestures succeeded
(`exists_calls_after`). `perform_atomic` says this together with what a single gesture does: it
succeeds exactly where its element is found, and otherwise leaves everything as it was.
-/

namespace GuiTest

/-- What can be asked of a desktop. -/
inductive Request where
  | gesture (ctx : AppContext) (l : Locator) (action : Action)
  | updateTree (ctx : AppContext) (f : Forest → Forest)
  | addContext (c : LiveContext)
  | removeContext (id : UInt64)
  | onClick (r : Reaction)
  | clearCalls
  | contexts
  | dump (ctx : AppContext)
  | find (ctx : AppContext) (l : Locator)
  | exists? (ctx : AppContext) (l : Locator)

namespace Request

/-- An answer of the driver as far as it says whether there is one, with the desktop left behind. -/
def outcome {α : Type} (o : Timed.Outcome Desktop (Except DriverError α)) :
    Except DriverError Unit × Desktop :=
  (o.value.map fun _ => (), o.state)

/-- Whether a request succeeds, and what it leaves behind. Nothing that is asked of a desktop takes
time, so all requests come at one moment. -/
def run (now : Nat) (d : Desktop) : Request → Except DriverError Unit × Desktop
  | gesture ctx l action => (Desktop.perform ctx l action).runOn d
  | updateTree ctx f => (Desktop.updateTree ctx f).runOn d
  | addContext c => (.ok (), d.addContext c)
  | removeContext id => (.ok (), d.removeContext id)
  | onClick r => (.ok (), d.onClick r)
  | clearCalls => (.ok (), d.clearCalls)
  | contexts => outcome (Desktop.driver.contexts.run now d)
  | dump ctx => outcome ((Desktop.driver.dump ctx).run now d)
  | find ctx l => outcome ((Desktop.driver.find ctx l).run now d)
  | exists? ctx l => outcome ((Desktop.driver.exists? ctx l).run now d)

/-- How many gestures a request adds that succeed. -/
def gesturesDone (now : Nat) (d : Desktop) : Request → Nat
  | gesture ctx l action => if ((gesture ctx l action).run now d).1.isOk then 1 else 0
  | _ => 0

end Request

namespace Desktop

variable {α : Type} {now : Nat} {d : Desktop}

theorem runOn_updateTree (ctx : AppContext) (f : Forest → Forest) (d : Desktop) :
    Operation.runOn (updateTree ctx f) d =
      match d.shown ctx with
      | .ok _ => (.ok (), d.modifyTree ctx f)
      | .error e => (.error e, d) := by
  rw [updateTree, runOn_bind, runOn_tree]
  cases d.shown ctx <;> rfl

theorem run_exists? (ctx : AppContext) (l : Locator) (now : Nat) (d : Desktop) :
    (driver.exists? ctx l).run now d
      = ⟨(d.shown ctx).map fun forest => (l.findFirst? forest).isSome, d, 0⟩ := by
  rw [UiDriver.exists?]
  show (Timed.bind (driver.find ctx l).run _) now d = _
  simp only [Timed.bind, run_find]
  cases d.shown ctx <;> rfl

/-- What requests leave behind, one after the other. -/
def after (now : Nat) (d : Desktop) (requests : List Request) : Desktop :=
  requests.foldl (fun d r => (r.run now d).2) d

@[simp] theorem after_nil : after now d [] = d := rfl

@[simp] theorem after_cons (r : Request) (rest : List Request) :
    after now d (r :: rest) = after now (r.run now d).2 rest := rfl

/-- How many of the requests are gestures that succeed. -/
def gesturesDone (now : Nat) (d : Desktop) : List Request → Nat
  | [] => 0
  | r :: rest => r.gesturesDone now d + gesturesDone now (r.run now d).2 rest

/-- **What a request records.** -/
theorem exists_calls_run (now : Nat) (d : Desktop) {r : Request} (h : r ≠ .clearCalls) :
    ∃ new, (r.run now d).2.calls = d.calls ++ new ∧ new.length = r.gesturesDone now d := by
  cases r with
  | gesture ctx l action =>
    rw [Request.gesturesDone, Request.run, runOn_perform]
    cases d.aim ctx l with
    | ok p => exact ⟨[⟨action, ctx.name, l.describe⟩], calls_hit .., rfl⟩
    | error e => exact ⟨[], (List.append_nil _).symm, rfl⟩
  | updateTree ctx f =>
    rw [Request.run, runOn_updateTree]
    cases d.shown ctx <;> exact ⟨[], (List.append_nil _).symm, rfl⟩
  | dump ctx =>
    rw [Request.run, run_dump]
    exact ⟨[], (List.append_nil _).symm, rfl⟩
  | find ctx l =>
    rw [Request.run, run_find]
    exact ⟨[], (List.append_nil _).symm, rfl⟩
  | exists? ctx l =>
    rw [Request.run, run_exists?]
    exact ⟨[], (List.append_nil _).symm, rfl⟩
  | addContext | removeContext | onClick | contexts => exact ⟨[], (List.append_nil _).symm, rfl⟩
  | clearCalls => exact absurd rfl h

/-- **What a history records.** -/
theorem exists_calls_after (now : Nat) (d : Desktop) (requests : List Request)
    (h : .clearCalls ∉ requests) :
    ∃ new, (after now d requests).calls = d.calls ++ new
      ∧ new.length = gesturesDone now d requests := by
  induction requests generalizing d with
  | nil => exact ⟨[], (List.append_nil _).symm, rfl⟩
  | cons r rest ih =>
    obtain ⟨hr, hrest⟩ := List.ne_and_not_mem_of_not_mem_cons h
    obtain ⟨first, hfirst, hcount⟩ := exists_calls_run now d hr.symm
    obtain ⟨new, hnew, hcounts⟩ := ih (r.run now d).2 hrest
    refine ⟨first ++ new, ?_, ?_⟩
    · rw [after_cons, hnew, hfirst, List.append_assoc]
    · rw [List.length_append, hcount, hcounts, gesturesDone]

/-- **Gestures are atomic.** A gesture succeeds exactly if its element is found by looking at the
same desktop; it fails because the context is gone exactly if nothing is shown of the context, and
else because the element is not found. The walk to an element that the search found comes to that
element. A gesture that fails leaves the desktop as it was; one that succeeds is recorded once, with
the name of the context and the description of the locator. Once the typing of a text is recorded,
the element for the text is there. So over a history in which nothing is forgotten the recorded
gestures grow by those that succeed. -/
theorem perform_atomic (d : Desktop) (now : Nat) (ctx : AppContext) (l : Locator)
    (action : Action) :
    let result := (Operation.runOn (perform ctx l action) d).1
    let left := (Operation.runOn (perform ctx l action) d).2
    let looked := ((driver.find ctx l).run now d).value
    let dumped := ((driver.dump ctx).run now d).value
    (result = .ok () ↔ ∃ e, looked = .ok (some e))
      ∧ (result = .error (.contextGone ctx.name) ↔ dumped = .error (.contextGone ctx.name))
      ∧ (∀ e, dumped = .error e → e = .contextGone ctx.name)
      ∧ (∀ e, result = .error e → dumped ≠ .error (.contextGone ctx.name) →
        e = .elementNotFound l.describe)
      ∧ (∀ forest target, d.tree? ctx = some forest → (l.find forest).head? = some target →
        forest.pathTo? target = some target)
      ∧ (∀ e, result = .error e → left = d)
      ∧ (result = .ok () → left.calls = d.calls ++ [⟨action, ctx.name, l.describe⟩])
      ∧ (∀ text p recorded,
        Operation.runOn (gesture ctx l (.typeText text)) d = (.ok p, recorded) →
        ∃ forest e, Operation.runOn (tree ctx) recorded = (.ok forest, recorded)
          ∧ forest.at? p = some e ∧ looked = .ok (some e))
      ∧ ∀ requests, .clearCalls ∉ requests →
        d.calls <+: (after now d requests).calls
          ∧ (after now d requests).calls.length
            = d.calls.length + gesturesDone now d requests := by
  intro result left looked dumped
  have hdumped : dumped = d.shown ctx := congrArg Timed.Outcome.value (run_dump ctx now d)
  have hlooked : looked = (d.shown ctx).map l.findFirst? :=
    congrArg Timed.Outcome.value (run_find ctx l now d)
  -- Both questions are answered from what is shown of the context.
  rw [hdumped, hlooked]
  refine ⟨?_, ?_, fun e => shown_eq_error, ?_, fun _ _ _ => Locator.pathTo?_eq_some, ?_, ?_, ?_,
    fun requests hkept => ?_⟩
  · rw [← exists_aim_iff]
    exact perform_eq_ok_iff action
  · rw [← aim_eq_contextGone_iff (l := l)]
    exact perform_eq_error_iff action
  · intro e he hshown
    have haim := (perform_eq_error_iff action).mp he
    rcases aim_eq_error haim with rfl | hmissing
    · exact absurd (aim_eq_contextGone_iff.mp haim) hshown
    · exact hmissing
  · intro e he
    have haim := (perform_eq_error_iff action).mp he
    exact congrArg Prod.snd (perform_of_aim_error action haim)
  · intro hok
    obtain ⟨p, haim⟩ := (perform_eq_ok_iff action).mp hok
    have hleft : left = hit ctx l p (d.record ⟨action, ctx.name, l.describe⟩) action :=
      congrArg Prod.snd (perform_of_aim_ok action haim)
    rw [hleft, calls_hit, record]
  · intro text p recorded hrecorded
    rw [runOn_gesture] at hrecorded
    cases haim : d.aim ctx l with
    | ok q =>
      rw [haim] at hrecorded
      cases hrecorded
      exact exists_at?_of_aim haim _
    | error e =>
      rw [haim] at hrecorded
      cases hrecorded
  · obtain ⟨new, hnew, hcount⟩ := exists_calls_after now d requests hkept
    rw [hnew, ← hcount]
    exact ⟨List.prefix_append d.calls new, List.length_append⟩

end Desktop

end GuiTest
