import GuiTest.Application.Gesture
import GuiTest.Application.Snapshot
import GuiTest.Files.Access
import GuiTest.Locator.Search

/-!
# A desktop that is played from recorded elements

A desktop holds live contexts, remembers the gestures that it received, and reacts to clicks. An
operation on it may fail; it then leaves behind what it has done until then, which is nothing.

Notes on the form of the definitions:
- Each operation has the desktop to itself until it is over, so it is one step here, and nothing
  comes between a search and the gesture that is aimed by it.
- A reaction is whatever a test wants to be done to the elements. Here it is a function of them and
  of how often it ran (`Reaction`).
- Nothing keeps a desktop from having two contexts of one number; the first of them is found.
-/

namespace GuiTest

/-- Why an operation on an application failed, or why a recorded one could not be loaded. -/
inductive DriverError where
  | elementNotFound (target : String)
  | contextGone (name : String)
  | commandFailed (message : String)
  | io (fault : ReadFault)
  | json (reason : String)
  deriving DecidableEq, Repr

/-- What went wrong. -/
def DriverError.message : DriverError → String
  | elementNotFound target => "Element not found: " ++ target
  | contextGone name => "Application context '" ++ name ++ "' is gone"
  | commandFailed message => "Command failed: " ++ message
  | io fault => "IO error: " ++ fault.message
  | json reason => "JSON parse error: " ++ reason

/-- What happens to the elements of a context when a locator is clicked in a context of this name.
`respond` is told how often the reaction ran before, so a reaction may count. One that shares
anything else with other reactions or with the test is none of these. -/
structure Reaction where
  context : String
  locator : Locator
  respond : Nat → Forest → Forest
  runs : Nat := 0

/-- Live contexts, the gestures received so far, oldest first, and the reactions in the order in
which they were registered. -/
structure Desktop where
  contexts : Snapshot
  calls : List Gesture := []
  reactions : List Reaction := []

namespace Desktop

/-- An operation that may fail. -/
abbrev Operation (α : Type) := ExceptT DriverError (StateM Desktop) α

/-- The desktop without contexts. -/
def empty : Desktop := { contexts := [] }

/-- The elements of a context, which is found by its number. -/
def tree? (d : Desktop) (ctx : AppContext) : Option Forest :=
  (d.contexts.find? fun c => c.context.id == ctx.id).map (·.tree)

/-- Changes the elements of the first context with a number. -/
def modifyFirst (id : UInt64) (f : Forest → Forest) : Snapshot → Snapshot
  | [] => []
  | c :: rest =>
    if c.context.id = id then { c with tree := f c.tree } :: rest else c :: modifyFirst id f rest

/-- Changes the elements of a context. -/
def modifyTree (d : Desktop) (ctx : AppContext) (f : Forest → Forest) : Desktop :=
  { d with contexts := modifyFirst ctx.id f d.contexts }

/-- The elements of a context. -/
def tree (ctx : AppContext) : Operation Forest := do
  match (← get).tree? ctx with
  | some forest => return forest
  | none => throw (.contextGone ctx.name)

/-- The way from the roots to the first element that a locator means. The search gives a reference
to that element, and a walk over the elements shown then looks for what the reference is to. -/
def locate (ctx : AppContext) (l : Locator) : Operation Position := do
  let forest ← tree ctx
  match l.locate? forest with
  | none => throw (.elementNotFound l.describe)
  | some target =>
    match forest.pathTo? target with
    | some path => return path
    | none => throw (.elementNotFound l.describe)

/-- Remembers a gesture aimed at an element, and answers where the element is. -/
def gesture (ctx : AppContext) (l : Locator) (action : Action) : Operation Position := do
  let p ← locate ctx l
  modify fun d => { d with calls := d.calls ++ [⟨action, ctx.name, l.describe⟩] }
  return p

/-- Whether a click on a locator sets off a reaction. -/
def Reaction.firesOn (r : Reaction) (ctx : AppContext) (l : Locator) : Bool :=
  r.context == ctx.name && r.locator == l

/-- Runs the reactions to a click, in their order. -/
def react (ctx : AppContext) (l : Locator) (d : Desktop) : Desktop :=
  let fired := d.reactions.filter fun r => Reaction.firesOn r ctx l
  let after := d.modifyTree ctx fun forest =>
    fired.foldl (fun forest r => r.respond r.runs forest) forest
  { after with
    reactions := d.reactions.map fun r =>
      if Reaction.firesOn r ctx l then { r with runs := r.runs + 1 } else r }

/-- Clicks an element. -/
def click (ctx : AppContext) (l : Locator) : Operation Unit := do
  let _ ← gesture ctx l .click
  modify (react ctx l)

/-- Double-clicks an element, which is one gesture. -/
def doubleClick (ctx : AppContext) (l : Locator) : Operation Unit := do
  let _ ← gesture ctx l .doubleClick
  modify (react ctx l)

/-- Adds a text to that of an element. -/
def appendText (text : String) (e : Element) : Element :=
  e.modify fun a => { a with text := some (a.text.getD "" ++ text) }

/-- Types a text into an element. -/
def typeText (ctx : AppContext) (l : Locator) (text : String) : Operation Unit := do
  let p ← gesture ctx l (.typeText text)
  match (← tree ctx).at? p with
  | some _ => modify fun d => d.modifyTree ctx fun forest => forest.modifyAt (appendText text) p
  | none => throw (.elementNotFound l.describe)

/-- Presses keys at an element, which changes nothing. -/
def pressKeys (ctx : AppContext) (l : Locator) (keys : String) : Operation Unit := do
  let _ ← gesture ctx l (.pressKeys keys)

/-- Changes what a context shows. -/
def updateTree (ctx : AppContext) (f : Forest → Forest) : Operation Unit := do
  let _ ← tree ctx
  modify fun d => d.modifyTree ctx f

/-- The live contexts. -/
def liveContexts (d : Desktop) : List AppContext := d.contexts.map (·.context)

/-- Adds a live context. -/
def addContext (d : Desktop) (c : LiveContext) : Desktop := { d with contexts := d.contexts ++ [c] }

/-- Ends the contexts with a number. -/
def removeContext (d : Desktop) (id : UInt64) : Desktop :=
  { d with contexts := d.contexts.filter fun c => c.context.id != id }

/-- Registers a reaction. -/
def onClick (d : Desktop) (r : Reaction) : Desktop := { d with reactions := d.reactions ++ [r] }

/-- Forgets the gestures. -/
def clearCalls (d : Desktop) : Desktop := { d with calls := [] }

end Desktop

end GuiTest
