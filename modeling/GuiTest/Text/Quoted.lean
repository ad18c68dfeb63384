import GuiTest.Unicode.Property

/-!
# Quoted text

The form in which reports show a text: in double quotes, with escapes for the quote, the backslash,
and whatever does not show on its own.
-/

namespace GuiTest.Text

open Unicode

/-- Characters of these categories do not show, the plain blank apart. -/
def hiddenCategories : List Category :=
  [.control, .format, .surrogate, .privateUse, .unassigned, .lineSeparator, .paragraphSeparator,
   .spaceSeparator]

/-- Whether a character shows on its own. -/
def isVisible (c : Char) : Bool :=
  if c.toNat < 0x7F then c.toNat ≥ 0x20
  else !Category.holds hiddenCategories c && !Property.graphemeExtend.holds c

/-- The digits of a number in base sixteen, in lower case. -/
def hexDigits (n : Nat) : List Char := Nat.toDigits 16 n

/-- One character of a quoted text. -/
def quoteChar (c : Char) : List Char :=
  if c = '\x00' then ['\\', '0']
  else if c = '\t' then ['\\', 't']
  else if c = '\r' then ['\\', 'r']
  else if c = '\n' then ['\\', 'n']
  else if c = '\\' ∨ c = '"' then ['\\', c]
  else if isVisible c then [c]
  else ['\\', 'u', '{'] ++ hexDigits c.toNat ++ ['}']

/-- A text in quotes. -/
def quoted (s : String) : String := String.ofList ('"' :: s.toList.flatMap quoteChar ++ ['"'])

end GuiTest.Text
