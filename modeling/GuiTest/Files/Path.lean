import GuiTest.Text.Utf8

/-!
# Paths

A path is the text of a file's place, with `/` between its parts. What the environment gives need
not be a text; such a path is kept as it is shown, and known not to be readable.
-/

namespace GuiTest

/-- A path as it is shown, and whether that is what it is. -/
structure Path where
  text : String
  readable : Bool := true
  deriving DecidableEq, Repr

namespace Path

/-- The path that a text is. -/
def ofText (text : String) : Path := ⟨text, true⟩

/-- The path that bytes are. -/
def ofBytes (bytes : List UInt8) : Path :=
  ⟨Text.Utf8.lossy bytes, (Text.Utf8.decode? bytes).isSome⟩

/-- Whether a text begins at the root. -/
def isAbsolute (text : String) : Bool := text.toList.head? == some '/'

/-- Puts a separator between two texts, unless the first is empty or ends with one. -/
def separated (first second : List Char) : List Char :=
  if first = [] ∨ first.getLast? = some '/' then first ++ second else first ++ '/' :: second

/-- What lies at a place seen from a path. A place that begins at the root is itself. -/
def join (p : Path) (part : String) : Path :=
  if isAbsolute part then ofText part
  else { p with text := String.ofList (separated p.text.toList part.toList) }

/-- The parts of a path one after the other. -/
def joinAll (p : Path) (parts : List String) : Path := parts.foldl join p

end Path

end GuiTest
