import GuiTest.Text.Hexadecimal

/-!
# Sets of code points

The tables of the Unicode character database are written as texts such as `41-5A 61-7A AA`: code
points and inclusive ranges in hexadecimal, separated by blanks. `Ranges.covers` asks whether a
character is in a set.
-/

namespace GuiTest.Unicode

/-- A set of code points, as inclusive ranges. -/
abbrev Ranges := List (Nat × Nat)

namespace Ranges

/-- Whether some range of the set holds the character. -/
def covers (set : Ranges) (c : Char) : Bool :=
  set.any fun (low, high) => low ≤ c.toNat && c.toNat ≤ high

/-- What is left of one range when the code points from `low` to `high` are taken out. -/
def cut (low high : Nat) : Nat × Nat → Ranges
  | (a, b) =>
    if high < a ∨ b < low then [(a, b)]
    else (if a < low then [(a, low - 1)] else []) ++ (if high < b then [(high + 1, b)] else [])

/-- The code points of the first set that are not in the second. -/
def without (set taken : Ranges) : Ranges :=
  taken.foldl (fun rest (low, high) => rest.flatMap (cut low high)) set

/-- Reads the ranges of a table. `low` is the start of a range whose end is being read, `value` the
number read so far. -/
def scan (low value : Option Nat) : List Char → Ranges
  | [] => finish low value
  | '-' :: rest => scan value none rest
  | c :: rest =>
    match Text.hexDigit? c with
    | some d => scan low (some (value.getD 0 * 16 + d)) rest
    | none => finish low value ++ scan none none rest
where
  /-- The range that ends here, if one was begun. -/
  finish (low value : Option Nat) : Ranges :=
    match value with
    | some high => [(low.getD high, high)]
    | none => []

/-- The set that a table's text describes. -/
def ofText (table : String) : Ranges := scan none none table.toList

theorem covers_iff {set : Ranges} {c : Char} :
    covers set c = true ↔ ∃ r ∈ set, r.1 ≤ c.toNat ∧ c.toNat ≤ r.2 := by
  simp [covers]

end Ranges

end GuiTest.Unicode
