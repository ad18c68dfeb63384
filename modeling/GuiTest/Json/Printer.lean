import GuiTest.Json.Value

/-!
# Writing JSON

Two forms: `compact` without any blanks, and `pretty` with one item a line and two blanks of
indentation. In strings only the quote, the backslash and control characters are escaped. A string
without text is written as half of a surrogate pair, so that it is read back as it was.
-/

namespace GuiTest.Json

/-- The hexadecimal digits of a number below 256. -/
def hexByte (n : Nat) : List Char := [Nat.digitChar (n / 16 % 16), Nat.digitChar (n % 16)]

/-- One character within a string literal. -/
def escapeChar (c : Char) : List Char :=
  if c = '"' then ['\\', '"']
  else if c = '\\' then ['\\', '\\']
  else if c = '\x08' then ['\\', 'b']
  else if c = '\x0C' then ['\\', 'f']
  else if c = '\n' then ['\\', 'n']
  else if c = '\r' then ['\\', 'r']
  else if c = '\t' then ['\\', 't']
  else if c.toNat < 0x20 then ['\\', 'u', '0', '0'] ++ hexByte c.toNat
  else [c]

/-- A string literal. -/
def stringLiteral : Option String → List Char
  | some s => '"' :: s.toList.flatMap escapeChar ++ ['"']
  | none => ['"', '\\', 'u', 'd', '8', '0', '0', '"']

namespace Number

/-- The literal of a number. -/
def literal (n : Number) : List Char :=
  (if n.negative then ['-'] else []) ++ n.whole
    ++ (if n.fraction.isEmpty then [] else '.' :: n.fraction)
    ++ (match n.exponent with
        | none => []
        | some (true, digits) => 'e' :: '-' :: digits
        | some (false, digits) => 'e' :: digits)

end Number

namespace Value

mutual

/-- A value without blanks. -/
def compactChars : Value → List Char
  | .null => ['n', 'u', 'l', 'l']
  | .bool true => ['t', 'r', 'u', 'e']
  | .bool false => ['f', 'a', 'l', 's', 'e']
  | .number n => n.literal
  | .string s => stringLiteral s
  | .array items => '[' :: compactItems items ++ [']']
  | .object members => '{' :: compactMembers members ++ ['}']

/-- The items of an array. -/
def compactItems : List Value → List Char
  | [] => []
  | [v] => compactChars v
  | v :: rest => compactChars v ++ ',' :: compactItems rest

/-- The members of an object. -/
def compactMembers : List (Option String × Value) → List Char
  | [] => []
  | [(name, v)] => stringLiteral name ++ ':' :: compactChars v
  | (name, v) :: rest =>
    stringLiteral name ++ ':' :: compactChars v ++ ',' :: compactMembers rest

end

/-- A new line and the indentation of a level. -/
def newLine (level : Nat) : List Char := '\n' :: List.replicate (2 * level) ' '

mutual

/-- A value whose own items stand one level deeper than `level`. -/
def prettyChars (level : Nat) : Value → List Char
  | .null => ['n', 'u', 'l', 'l']
  | .bool true => ['t', 'r', 'u', 'e']
  | .bool false => ['f', 'a', 'l', 's', 'e']
  | .number n => n.literal
  | .string s => stringLiteral s
  | .array [] => ['[', ']']
  | .array (v :: rest) =>
    '[' :: newLine (level + 1) ++ prettyChars (level + 1) v ++ prettyItems (level + 1) rest
      ++ newLine level ++ [']']
  | .object [] => ['{', '}']
  | .object ((name, v) :: rest) =>
    '{' :: newLine (level + 1) ++ stringLiteral name ++ [':', ' '] ++ prettyChars (level + 1) v
      ++ prettyMembers (level + 1) rest ++ newLine level ++ ['}']

/-- The items after the first. -/
def prettyItems (level : Nat) : List Value → List Char
  | [] => []
  | v :: rest => ',' :: newLine level ++ prettyChars level v ++ prettyItems level rest

/-- The members after the first. -/
def prettyMembers (level : Nat) : List (Option String × Value) → List Char
  | [] => []
  | (name, v) :: rest =>
    ',' :: newLine level ++ stringLiteral name ++ [':', ' '] ++ prettyChars level v
      ++ prettyMembers level rest

end

/-- The text of a value without blanks. -/
def compact (v : Value) : String := String.ofList v.compactChars

/-- The text of a value with one item a line. -/
def pretty (v : Value) : String := String.ofList (v.prettyChars 0)

end Value

end GuiTest.Json
