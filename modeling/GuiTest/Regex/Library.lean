/-!
# The library of regular expressions

Regular expressions are compiled and looked for by a library. A `Library` is what the rest asks of
it: it has expressions, compiles sources into them or says why it does not, and says whether an
expression occurs in a text.
-/

namespace GuiTest.Regex

/-- Why a source is not accepted. -/
inductive Fault where
  | malformed
  | tooLarge
  deriving DecidableEq, Repr

/-- A library of regular expressions: what it makes of a source, and whether an expression occurs
anywhere in a text. -/
structure Library where
  Expression : Type
  compile : String → Except Fault Expression
  isMatch : Expression → String → Bool

end GuiTest.Regex
