import GuiTest.Text.Hexadecimal

/-!
# Universally unique identifiers

A number of 128 bits, written as 32 hexadecimal digits in groups of eight, four, four, four and
twelve. When read, the digits may have either case, the hyphens may be missing, and the grouped form
may stand in braces or after `urn:uuid:`.
-/

namespace GuiTest

/-- A universally unique identifier. -/
structure Uuid where
  value : BitVec 128
  deriving DecidableEq, Repr

namespace Uuid

/-- The sizes of the groups of digits. -/
def groups : List Nat := [8, 4, 4, 4, 12]

/-- The digits in groups, with hyphens between. -/
def hyphenate : List Nat → List Char → List Char
  | [], digits => digits
  | [_], digits => digits
  | n :: rest, digits => digits.take n ++ '-' :: hyphenate rest (digits.drop n)

/-- The digits without the hyphens, if these are where they belong. -/
def unhyphenate? : List Nat → List Char → Option (List Char)
  | [], digits => some digits
  | [_], digits => some digits
  | n :: rest, digits =>
    match digits.drop n with
    | '-' :: more => (unhyphenate? rest more).map (digits.take n ++ ·)
    | _ => none

/-- The 32 digits of an identifier. -/
def digits (u : Uuid) : List Char :=
  (List.range 32).map fun i => Nat.digitChar (u.value.toNat / Nat.pow 16 (31 - i) % 16)

/-- The identifier as it is written. -/
def toText (u : Uuid) : String := String.ofList (hyphenate groups u.digits)

/-- The identifier of 32 digits. -/
def ofDigits? (digits : List Char) : Option Uuid :=
  if digits.length = 32 then
    (Text.hexNumber? digits).map fun n => ⟨.ofNat 128 n⟩
  else none

/-- Reads the grouped form. -/
def ofGroups? (cs : List Char) : Option Uuid := (unhyphenate? groups cs).bind ofDigits?

/-- Reads an identifier. -/
def parse? (s : String) : Option Uuid :=
  let cs := s.toList
  if cs.length = 32 then ofDigits? cs
  else if cs.length = 36 then ofGroups? cs
  else
    match cs with
    | '{' :: rest => if rest.getLast? = some '}' then ofGroups? rest.dropLast else none
    | 'u' :: 'r' :: 'n' :: ':' :: 'u' :: 'u' :: 'i' :: 'd' :: ':' :: rest => ofGroups? rest
    | _ => none

end Uuid

end GuiTest
