import GuiTest.Element.Basic
import GuiTest.Json.Decode
import GuiTest.Json.Printer

/-!
# Elements as JSON

An element is written as a record; the cell is left out if it is not set, and the children if there
are none. All members may be missing when it is read.
-/

namespace GuiTest.Element

open Json

/-- The member names of an element, in order. -/
def memberNames : List String :=
  ["type", "text", "name", "id", "class_name", "enabled", "row", "column", "children"]

/-- The members for the attributes of an element. -/
def attributeMembers (a : Attributes) : List (String × Value) :=
  [("type", .optionalText a.kind), ("text", .optionalText a.text), ("name", .optionalText a.name),
   ("id", .optionalText a.id), ("class_name", .optionalText a.className),
   ("enabled", .bool a.enabled)]
  ++ (match a.row with | some n => [("row", .nat n.toNat)] | none => [])
  ++ (match a.column with | some n => [("column", .nat n.toNat)] | none => [])

mutual

/-- The JSON value of an element. -/
def toJson : Element → Value
  | node a [] => .record (attributeMembers a)
  | node a (c :: cs) =>
    .record (attributeMembers a ++ [("children", .array (toJson c :: toJsonAll cs))])

/-- The JSON values of the elements of a forest. -/
def toJsonAll : List Element → List Value
  | [] => []
  | e :: rest => toJson e :: toJsonAll rest

end

/-- Reads the attributes of an element. -/
def decodeAttributes (fields : Fields) (depth : Nat) : Option Attributes := do
  return {
    kind := ← fields.optional "type" (Decode.optional Decode.text) none depth
    text := ← fields.optional "text" (Decode.optional Decode.text) none depth
    name := ← fields.optional "name" (Decode.optional Decode.text) none depth
    id := ← fields.optional "id" (Decode.optional Decode.text) none depth
    className := ← fields.optional "class_name" (Decode.optional Decode.text) none depth
    enabled := ← fields.optional "enabled" Decode.bool true depth
    row := ← fields.optional "row" (Decode.optional Decode.uint32) none depth
    column := ← fields.optional "column" (Decode.optional Decode.uint32) none depth
  }

mutual

/-- Reads an element. It is one level of nesting, and the list of its children another. -/
def decode : Nat → Value → Option Element
  | 0, _ => none
  | depth + 1, v => do
    let fields ← Fields.ofRecord memberNames false v
    let attributes ← decodeAttributes fields depth
    match fields.lookup "children" with
    | none => return node attributes []
    | some list => return node attributes (← decodeAll depth list)

/-- Reads a list of elements. -/
def decodeAll : Nat → Value → Option (List Element)
  | depth + 1, .array items => items.mapM (decode depth)
  | _, _ => none

end

end GuiTest.Element

namespace GuiTest.Forest

open Json

/-- The JSON value of a forest. -/
def toJson (forest : Forest) : Value := .array (Element.toJsonAll forest)

end GuiTest.Forest
