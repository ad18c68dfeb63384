/-!
# Wildcard patterns

In a wildcard pattern `*` stands for any run of characters, also the empty one, `?` for exactly one,
and every other character for itself. `Matches` says so as a relation; `isMatch` decides it by a
table with one row of answers per pattern character, so that many stars cost no more than their
number.

The table is not filled in place: each row is made from the one above it, cell by cell from the
left.
-/

namespace GuiTest.Text.Glob

/-- The text can be cut into one piece per pattern character. -/
inductive Matches : List Char → List Char → Prop where
  | nil : Matches [] []
  | star {piece p t : List Char} : Matches p t → Matches ('*' :: p) (piece ++ t)
  | any {c : Char} {p t : List Char} : Matches p t → Matches ('?' :: p) (c :: t)
  | char {c : Char} {p t : List Char} : c ≠ '*' → c ≠ '?' → Matches p t → Matches (c :: p) (c :: t)

/-- The row of the empty pattern, which the empty beginning of the text alone matches. -/
def firstRow (text : List Char) : List Bool := true :: text.map fun _ => false

/-- The cells of a row after the cell `left`, one for each character of the text. Those above them
begin with the cell above `left`. -/
def cells (c : Char) : Bool → List Bool → List Char → List Bool
  | _, _, [] => []
  | left, above, d :: text =>
    let cell :=
      if c = '*' then above.tail.headD false || left
      else if c = '?' ∨ c = d then above.headD false
      else false
    cell :: cells c cell above.tail text

/-- The row below another one, for a pattern with one character more. -/
def nextRow (text : List Char) (above : List Bool) (c : Char) : List Bool :=
  let first := c == '*' && above.headD false
  first :: cells c first above text

/-- A row and those below it, one for each further character of the pattern. -/
def rowsFrom (text : List Char) : List Bool → List Char → List (List Bool)
  | row, [] => [row]
  | row, c :: pattern => row :: rowsFrom text (nextRow text row c) pattern

/-- For every beginning of the pattern and every beginning of the text, shortest first, whether the
one matches the other. -/
def table (pattern text : List Char) : List (List Bool) := rowsFrom text (firstRow text) pattern

/-- Whether the pattern has a star or a question mark. -/
def hasWildcard (pattern : List Char) : Bool := pattern.any fun c => c == '*' || c == '?'

/-- Whether a text matches a wildcard pattern. A pattern without wildcards is compared as it is. -/
def isMatch (pattern text : String) : Bool :=
  if hasWildcard pattern.toList then
    ((table pattern.toList text.toList).getLastD []).getLastD false
  else pattern == text

end GuiTest.Text.Glob
