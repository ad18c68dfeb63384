import GuiTest.Application.Driver
import GuiTest.Application.Edit

/-!
# Rehearsals

A rehearsal is a desktop with a script of things to come: changes that are due at some moment, and
calls that are to fail. Its driver applies what is due before every call, so a test sees elements
appear and disappear as time goes by. How often it asked for the elements is counted. A double-click
of this driver is two clicks, while `onDesktop` can make it one gesture of the desktop.

Rehearsals serve to try out what is made for drivers; nothing else depends on them.
-/

namespace GuiTest

/-- The operations of a driver that can be made to fail. -/
inductive CallKind where
  | contexts
  | dump
  | click
  | typeText
  | pressKeys
  deriving DecidableEq, Repr

/-- A change of a desktop that no gesture caused. -/
inductive Change where
  | addContext (c : LiveContext)
  | removeContext (id : UInt64)
  | updateTree (ctx : AppContext) (edits : List Edit)

/-- Makes a change. Counts in its edits begin anew each time. -/
def Change.apply : Change → Desktop.Operation Unit
  | addContext c => modify fun d => d.addContext c
  | removeContext id => modify fun d => d.removeContext id
  | updateTree ctx edits => Desktop.updateTree ctx (Edit.applyAll edits 0)

/-- A number of calls of one kind that are to fail. -/
structure Failure where
  call : CallKind
  left : Nat
  message : String
  deriving DecidableEq, Repr

/-- A desktop with a script, and counts of what was asked of it. Moments are in nanoseconds. -/
structure Rehearsal where
  desktop : Desktop
  scheduled : List (Nat × Change) := []
  failures : List Failure := []
  dumps : Nat := 0
  evaluations : Nat := 0
  actionRuns : Nat := 0
  dismissRuns : Nat := 0

namespace Rehearsal

/-- Makes a change whatever comes of it. -/
def changed (d : Desktop) (c : Change) : Desktop := (c.apply.run.run d).2

/-- Makes the changes that are due, the earliest first, and those of one moment in the order in
which they were scheduled. -/
def applyDue (now : Nat) (r : Rehearsal) : Rehearsal :=
  let due := (r.scheduled.filter fun (time, _) => time ≤ now).mergeSort fun a b => a.1 ≤ b.1
  { r with
    scheduled := r.scheduled.filter fun (time, _) => now < time
    desktop := due.foldl (fun d (_, c) => changed d c) r.desktop }

/-- The message with which a call is to fail now, and the failures that are then left. -/
def takeFailure (call : CallKind) : List Failure → Option (String × List Failure)
  | [] => none
  | f :: rest =>
    if f.call = call ∧ 0 < f.left then some (f.message, { f with left := f.left - 1 } :: rest)
    else (takeFailure call rest).map fun (message, rest) => (message, f :: rest)

/-- An operation on the desktop, which goes on with what it left behind. -/
def onDesktop {α : Type} (x : Desktop.Operation α) : Attempt Rehearsal DriverError α :=
  ExceptT.mk fun _ r =>
    let (result, desktop) := x.run.run r.desktop
    ⟨result, { r with desktop }, 0⟩

/-- A call of the driver: first what is due happens, then it may fail, and else it is passed on. -/
def call {α : Type} (kind : CallKind) (x : Desktop.Operation α) :
    Attempt Rehearsal DriverError α :=
  ExceptT.mk fun now r =>
    let r := r.applyDue now
    match takeFailure kind r.failures with
    | some (message, failures) => ⟨.error (.commandFailed message), { r with failures }, 0⟩
    | none => (onDesktop x).run now r

/-- Counts a request for the elements. -/
def countDump : Attempt Rehearsal DriverError Unit :=
  ExceptT.lift (Timed.modifyState fun r : Rehearsal => { r with dumps := r.dumps + 1 })

/-- The driver of a rehearsal. -/
def driver : UiDriver Rehearsal where
  contexts := call .contexts do return (← get).liveContexts
  dump ctx := do
    countDump
    call .dump (Desktop.tree ctx)
  click ctx l := call .click (Desktop.click ctx l)
  typeText ctx l text := call .typeText (Desktop.typeText ctx l text)
  pressKeys ctx l keys := call .pressKeys (Desktop.pressKeys ctx l keys)

/-- Schedules a change. -/
def schedule (r : Rehearsal) (time : Nat) (c : Change) : Rehearsal :=
  { r with scheduled := r.scheduled ++ [(time, c)] }

/-- Adds calls that are to fail. -/
def addFailure (r : Rehearsal) (f : Failure) : Rehearsal := { r with failures := r.failures ++ [f] }

/-- Gives the values of a list one after the other, and then the last one for ever. -/
def nextValue (values : List Bool) : Timed Rehearsal Bool := do
  let r ← Timed.getState
  Timed.modifyState fun r => { r with evaluations := r.evaluations + 1 }
  return (values[min r.evaluations (values.length - 1)]?).getD false

/-- Whether a moment has come. -/
def hasCome (moment : Nat) : Timed Rehearsal Bool := do
  return moment ≤ (← Timed.now)

/-- One step of an action. -/
inductive ScriptStep where
  | click (ctx : AppContext) (l : Locator)
  | clickTwice (ctx : AppContext) (l : Locator)
  | doubleClick (ctx : AppContext) (l : Locator)
  | typeText (ctx : AppContext) (l : Locator) (text : String)
  | pressKeys (ctx : AppContext) (l : Locator) (keys : String)
  | change (c : Change)
  | fail (message : String)

/-- Does one step. -/
def ScriptStep.run : ScriptStep → Attempt Rehearsal DriverError Unit
  | click ctx l => driver.click ctx l
  | clickTwice ctx l => driver.doubleClick ctx l
  | doubleClick ctx l => onDesktop (Desktop.doubleClick ctx l)
  | typeText ctx l text => driver.typeText ctx l text
  | pressKeys ctx l keys => driver.pressKeys ctx l keys
  | change c => onDesktop c.apply
  | fail message => throw (.commandFailed message)

/-- Does steps until one fails. -/
def runSteps : List ScriptStep → Attempt Rehearsal DriverError Unit
  | [] => return ()
  | s :: rest => do
    s.run
    runSteps rest

/-- The steps for a run of an action, given one list for each run. Later runs take the last list. -/
def stepsOfRun (lists : List (List ScriptStep)) (run : Nat) : List ScriptStep :=
  (lists[min run (lists.length - 1)]?).getD []

/-- The action of a repeated action. -/
def action (lists : List (List ScriptStep)) : Attempt Rehearsal DriverError Unit := do
  let r ← ExceptT.lift (Timed.getState : Timed Rehearsal Rehearsal)
  ExceptT.lift (Timed.modifyState fun r : Rehearsal => { r with actionRuns := r.actionRuns + 1 })
  runSteps (stepsOfRun lists r.actionRuns)

/-- The dismissal of a repeated action. -/
def dismissal (lists : List (List ScriptStep)) : Attempt Rehearsal DriverError Unit := do
  let r ← ExceptT.lift (Timed.getState : Timed Rehearsal Rehearsal)
  ExceptT.lift (Timed.modifyState fun r : Rehearsal => { r with dismissRuns := r.dismissRuns + 1 })
  runSteps (stepsOfRun lists r.dismissRuns)

/-- Sets the counts of evaluations and runs back. -/
def resetCounts (r : Rehearsal) : Rehearsal :=
  { r with evaluations := 0, actionRuns := 0, dismissRuns := 0 }

end Rehearsal

end GuiTest
