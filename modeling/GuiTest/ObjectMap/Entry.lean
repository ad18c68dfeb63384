import GuiTest.Json.Decode
import GuiTest.Locator.Draft
import GuiTest.ObjectMap.NameTable

/-!
# Entries of an object map

An entry is a strict record: all its members are known and may be missing. Its text is a plain text
or an object that says how the text is to be compared.
-/

namespace GuiTest.ObjectMap

open Json

/-- How an entry gives a text. -/
inductive TextSetting where
  | exact (text : String)
  | wildcard (pattern : String)
  | regex (source : String)
  deriving DecidableEq, Repr

/-- A named locator as it is written, with the name of its container. -/
structure Entry where
  container : Option String
  kind : Option String
  text : Option TextSetting
  name : Option String
  id : Option String
  className : Option String
  occurrence : Option UInt32
  row : Option UInt32
  column : Option UInt32
  deriving DecidableEq, Repr

namespace TextSetting

/-- The setting of a locator that is meant. -/
def setting : TextSetting → Locator.Setting
  | exact text => .criterion (.text (.exact text))
  | wildcard pattern => .criterion (.text (.wildcard pattern))
  | regex source => .pattern source

/-- Reads a text, as a string or as a record with the single member `wildcard` or `regex`. -/
def decode : Decode TextSetting := Decode.plain fun depth v =>
  match v with
  | .string (some text) => some (.exact text)
  | v =>
    match member "wildcard" depth v with
    | some pattern => some (.wildcard pattern)
    | none => (member "regex" depth v).map .regex
where
  /-- The text in a record with one member. -/
  member (name : String) : Decode String :=
    Decode.record [name] true fun fields depth => fields.required name Decode.text depth

end TextSetting

namespace Entry

/-- The member names of an entry, in order. -/
def memberNames : List String :=
  ["container", "type", "text", "name", "id", "class", "occurrence", "row", "column"]

/-- Reads an entry. -/
def decode : Decode Entry := Decode.record memberNames true fun fields depth => do
  let text (name : String) := fields.optional name (Decode.optional Decode.text) none depth
  let number (name : String) := fields.optional name (Decode.optional Decode.uint32) none depth
  return {
    container := ← text "container"
    kind := ← text "type"
    text := ← fields.optional "text" (Decode.optional TextSetting.decode) none depth
    name := ← text "name"
    id := ← text "id"
    className := ← text "class"
    occurrence := ← number "occurrence"
    row := ← number "row"
    column := ← number "column"
  }

/-- The settings of an entry for a locator, its container apart. The cell is given by both of its
numbers or not at all. -/
def settings? (e : Entry) : Option (List Locator.Setting) :=
  let cell? : Option (List Locator.Setting) :=
    match e.row, e.column with
    | some row, some column => some [.criterion (.cell row column)]
    | none, none => some []
    | _, _ => none
  cell?.map fun cell =>
    (e.kind.map fun k => .criterion (.kind k)).toList
      ++ (e.text.map TextSetting.setting).toList
      ++ (e.name.map fun n => .criterion (.name n)).toList
      ++ (e.id.map fun i => .criterion (.id i)).toList
      ++ (e.className.map fun c => .criterion (.className c)).toList
      ++ cell
      ++ (e.occurrence.map .occurrence).toList

end Entry

/-- Reads the named entries of an object map. -/
def decodeMembers (depth : Nat) : List (Option String × Value) → Option (List (String × Entry))
  | [] => some []
  | (name, v) :: rest => do
    return (← name, ← Entry.decode depth v) :: (← decodeMembers depth rest)

/-- Reads the entries of an object map. -/
def decodeEntries : Decode (NameTable Entry)
  | depth + 1, .object members => (decodeMembers depth members).map NameTable.ofList
  | _, _ => none

end GuiTest.ObjectMap
