import GuiTest.Json.Decode
import GuiTest.Json.Printer

/-!
# Gestures

What a user can do to an element, and the record of having done it: the name of the context and the
description of the locator that was aimed at.
-/

namespace GuiTest

/-- What is done to an element. -/
inductive Action where
  | click
  | doubleClick
  | typeText (text : String)
  | pressKeys (keys : String)
  deriving DecidableEq, Repr

/-- An action with the context and the target that it was aimed at. -/
structure Gesture where
  action : Action
  context : String
  target : String
  deriving DecidableEq, Repr

namespace Action

/-- The name of the action in records. -/
def name : Action → String
  | click => "click"
  | doubleClick => "double_click"
  | typeText _ => "type_text"
  | pressKeys _ => "press_keys"

/-- What is given with an action, by its member name. -/
def argument? : Action → Option (String × String)
  | typeText text => some ("text", text)
  | pressKeys keys => some ("keys", keys)
  | _ => none

end Action

namespace Gesture

open Json

/-- The JSON value of a gesture. -/
def toJson (g : Gesture) : Value :=
  .record
    ([("kind", .text g.action.name), ("context", .text g.context), ("target", .text g.target)]
      ++ (g.action.argument?.map fun (name, text) => (name, Value.text text)).toList)

/-- The member names of an action's record, its `kind` apart. -/
def memberNames? : String → Option (List String)
  | "click" => some ["context", "target"]
  | "double_click" => some ["context", "target"]
  | "type_text" => some ["context", "target", "text"]
  | "press_keys" => some ["context", "target", "keys"]
  | _ => none

/-- Reads the members of a gesture of some kind. -/
def ofFields (kind : String) (fields : Fields) (depth : Nat) : Option Gesture := do
  let context ← fields.required "context" Decode.text depth
  let target ← fields.required "target" Decode.text depth
  let action ←
    match kind with
    | "click" => some .click
    | "double_click" => some .doubleClick
    | "type_text" => (fields.required "text" Decode.text depth).map .typeText
    | "press_keys" => (fields.required "keys" Decode.text depth).map .pressKeys
    | _ => none
  return ⟨action, context, target⟩

/-- The text of the only member with a name, and the other members. -/
def takeMember? (name : String) (members : List (Option String × Value)) :
    Option (String × List (Option String × Value)) :=
  match members.filter fun (n, _) => n == some name with
  | [(_, .string (some text))] => some (text, members.filter fun (n, _) => n != some name)
  | _ => none

/-- Reads a gesture. Its kind comes first if it is given as an array, and may stand anywhere in an
object. -/
def decode : Decode Gesture := Decode.plain fun depth v =>
  match depth, v with
  | depth + 1, .object members => do
    let (kind, rest) ← takeMember? "kind" members
    ofFields kind (← Fields.ofRecord (← memberNames? kind) false (.object rest)) depth
  | depth + 1, .array (.string (some kind) :: rest) => do
    ofFields kind (← Fields.ofRecord (← memberNames? kind) false (.array rest)) depth
  | _, _ => none

end Gesture

end GuiTest
