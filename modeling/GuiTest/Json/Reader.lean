import GuiTest.Json.Token

/-!
# Reading JSON

A value is put together from tokens by a machine with a stack of containers that are still open.
Each token is one step, so reading is a fold over the tokens (`feed`), at any depth of nesting.

A reader that calls itself for what is nested has to stop at some depth. The machine does not; how
deep a value may be is the matter of those that make something of it (`Decode`).
-/

namespace GuiTest.Json

/-- A container that is still open, with what it holds so far, last first. In a `member` the name of
the value to come is known. -/
inductive Open where
  | items (before : List Value)
  | members (before : List (Option String × Value))
  | member (before : List (Option String × Value)) (name : Option String)

/-- What may come next. -/
inductive Awaiting where
  | value
  | firstItem
  | firstName
  | name
  | colon
  | separator
  | nothing (result : Value)

/-- The open containers, innermost first, and what may come next. -/
structure Progress where
  containers : List Open
  awaiting : Awaiting

namespace Progress

/-- Before the first token. -/
def start : Progress := ⟨[], .value⟩

/-- A value is complete. -/
def complete (v : Value) : List Open → Option Progress
  | [] => some ⟨[], .nothing v⟩
  | .items before :: outer => some ⟨.items (v :: before) :: outer, .separator⟩
  | .member before name :: outer => some ⟨.members ((name, v) :: before) :: outer, .separator⟩
  | .members _ :: _ => none

/-- A token where a value may begin. -/
def beginValue (containers : List Open) : Token → Option Progress
  | .openArray => some ⟨.items [] :: containers, .firstItem⟩
  | .openObject => some ⟨.members [] :: containers, .firstName⟩
  | .string s => complete (.string s) containers
  | .literal v => complete v containers
  | _ => none

/-- A token where a member may begin. -/
def beginMember : List Open → Token → Option Progress
  | .members before :: outer, .string name => some ⟨.member before name :: outer, .colon⟩
  | _, _ => none

/-- The innermost container is closed. -/
def close : List Open → Token → Option Progress
  | .items before :: outer, .closeArray => complete (.array before.reverse) outer
  | .members before :: outer, .closeObject => complete (.object before.reverse) outer
  | _, _ => none

/-- A token after an item or member. -/
def afterValue : List Open → Token → Option Progress
  | .items before :: outer, .comma => some ⟨.items before :: outer, .value⟩
  | .members before :: outer, .comma => some ⟨.members before :: outer, .name⟩
  | containers, t => close containers t

/-- One token. -/
def step (p : Progress) (t : Token) : Option Progress :=
  match p.awaiting with
  | .value => beginValue p.containers t
  | .firstItem =>
    match t with
    | .closeArray => close p.containers t
    | _ => beginValue p.containers t
  | .firstName =>
    match t with
    | .closeObject => close p.containers t
    | _ => beginMember p.containers t
  | .name => beginMember p.containers t
  | .colon =>
    match t with
    | .colon => some ⟨p.containers, .value⟩
    | _ => none
  | .separator => afterValue p.containers t
  | .nothing _ => none

/-- Token after token. -/
def feed (p : Progress) : List Token → Option Progress
  | [] => some p
  | t :: rest =>
    match p.step t with
    | some q => q.feed rest
    | none => none

/-- The value, once it is complete. -/
def result? : Progress → Option Value
  | ⟨_, .nothing v⟩ => some v
  | _ => none

theorem feed_append (p : Progress) (ts us : List Token) :
    p.feed (ts ++ us) = (p.feed ts).bind fun q => q.feed us := by
  induction ts generalizing p with
  | nil => rfl
  | cons t ts ih =>
    simp only [List.cons_append, feed]
    cases p.step t with
    | none => rfl
    | some q => exact ih q

end Progress

namespace Value

/-- Reads a text that holds one value and blanks. -/
def parse? (s : String) : Option Value := do
  let tokens ← tokens? s.toList
  (← Progress.start.feed tokens).result?

end Value

end GuiTest.Json
