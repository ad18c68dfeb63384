import GuiTest.Json.Reader

/-!
# Reading records from JSON

A `Decode α` reads an `α` from a value, with a bound on how deeply the arrays and objects that it
looks into may nest. Records are objects with known member names, in any order and each at most
once, or arrays of their fields in order. What a record does not know it either refuses or skips; a
skipped value may nest to any depth.

Some records are told apart only by their members. Values that must be looked at as a whole for this
are `Plain`: within the bound, with a text for each string and a finite value for each number.
-/

namespace GuiTest.Json

/-- Reads an `α`. The number says how many more levels of arrays and objects may be entered. -/
abbrev Decode (α : Type) := Nat → Value → Option α

/-- The greatest nesting of arrays and objects that is read. -/
def maxNesting : Nat := 127

namespace Decode

/-- A string. -/
def text : Decode String
  | _, .string s => s
  | _, _ => none

/-- A truth value. -/
def bool : Decode Bool
  | _, .bool b => some b
  | _, _ => none

/-- A natural number below a limit, written without sign, fraction and exponent. -/
def natBelow (limit : Nat) : Decode Nat
  | _, .number n =>
    match n.toNat? with
    | some k => if k < limit then some k else none
    | none => none
  | _, _ => none

/-- A number of 32 bits. -/
def uint32 : Decode UInt32 := fun depth v => (natBelow UInt32.size depth v).map UInt32.ofNat

/-- A number of 64 bits. -/
def uint64 : Decode UInt64 := fun depth v => (natBelow UInt64.size depth v).map UInt64.ofNat

/-- A value or null. -/
def optional {α : Type} (d : Decode α) : Decode (Option α)
  | _, .null => some none
  | depth, v => (d depth v).map some

/-- An array. -/
def list {α : Type} (d : Decode α) : Decode (List α)
  | depth + 1, .array items => items.mapM (d depth)
  | _, _ => none

/-- Reads a whole text. -/
def run {α : Type} (d : Decode α) (s : String) : Option α := do d maxNesting (← Value.parse? s)

end Decode

/-- The members of a record that are present, by their names. -/
abbrev Fields := List (String × Value)

namespace Fields

/-- Takes the known members out of an object: each name must be a text, a known one must not be
repeated, and an unknown one is skipped or, if `strict`, refused. -/
def ofMembers (names : List String) (strict : Bool) :
    List (Option String × Value) → Option Fields
  | [] => some []
  | (none, _) :: _ => none
  | (some name, v) :: rest => do
    let fields ← ofMembers names strict rest
    if name ∈ names then
      if name ∈ fields.map (·.1) then none else some ((name, v) :: fields)
    else if strict then none
    else some fields

/-- Takes a record apart: an object, or an array of fields in the order of their names. -/
def ofRecord (names : List String) (strict : Bool) : Value → Option Fields
  | .object members => ofMembers names strict members
  | .array items => if items.length ≤ names.length then some (names.zip items) else none
  | _ => none

/-- A member that must be present. -/
def required {α : Type} (fields : Fields) (name : String) (d : Decode α) (depth : Nat) : Option α :=
  match fields.lookup name with
  | some v => d depth v
  | none => none

/-- A member with a value to take if it is absent. -/
def optional {α : Type} (fields : Fields) (name : String) (d : Decode α) (absent : α)
    (depth : Nat) : Option α :=
  match fields.lookup name with
  | some v => d depth v
  | none => some absent

end Fields

/-- Reads a record with the given member names, one level deeper. -/
def Decode.record {α : Type} (names : List String) (strict : Bool)
    (d : Fields → Nat → Option α) : Decode α
  | depth + 1, v => do d (← Fields.ofRecord names strict v) depth
  | 0, _ => none

namespace Value

mutual

/-- Whether a value can be looked at as a whole, with so many levels to enter. -/
def isPlain : Nat → Value → Bool
  | _, .null => true
  | _, .bool _ => true
  | _, .number n => n.isFinite
  | _, .string s => s.isSome
  | 0, .array _ => false
  | depth + 1, .array items => arePlain depth items
  | 0, .object _ => false
  | depth + 1, .object members => membersArePlain depth members

/-- Whether all items are plain. -/
def arePlain (depth : Nat) : List Value → Bool
  | [] => true
  | v :: rest => isPlain depth v && arePlain depth rest

/-- Whether all members are plain and have names. -/
def membersArePlain (depth : Nat) : List (Option String × Value) → Bool
  | [] => true
  | (name, v) :: rest => name.isSome && isPlain depth v && membersArePlain depth rest

end

end Value

/-- Reads plain values only. -/
def Decode.plain {α : Type} (d : Decode α) : Decode α := fun depth v =>
  if v.isPlain depth then d depth v else none

end GuiTest.Json
