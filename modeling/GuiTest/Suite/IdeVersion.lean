import GuiTest.Text.Blank

/-!
# Versions of the development environment

A version is its major number. In a longer text it is the last word that begins with a digit, up to
its first point.
-/

namespace GuiTest.IdeVersion

/-- A number of 32 bits, written in digits. -/
def number? (digits : List Char) : Option UInt32 :=
  if digits ≠ [] ∧ digits.all Char.isDigit then
    let n := digits.foldl (fun n c => n * 10 + (c.toNat - '0'.toNat)) 0
    if n < UInt32.size then some (UInt32.ofNat n) else none
  else none

/-- The last word that begins with a digit. -/
def lastNumbered? (text : List Char) : Option (List Char) :=
  (Text.words text).reverse.find? fun word => word.head?.any Char.isDigit

/-- The major version that a text tells. -/
def parse? (text : String) : Option UInt32 := do
  number? ((← lastNumbered? text.toList).takeWhile (· != '.'))

/-- The year by which a major version is known. -/
def releaseYear? (major : UInt32) : Option Nat :=
  if major = 15 then some 2017
  else if major = 16 then some 2019
  else if major = 17 then some 2022
  else none

end GuiTest.IdeVersion
