import GuiTest.Regex.Whole
import GuiTest.Text.Glob

/-!
# Comparing texts

A text is compared with a fixed text, with a wildcard pattern, or with a regular expression for the
whole of it.
-/

namespace GuiTest

/-- What a text is compared with. A regular expression is always one for whole texts: one that was
compiled without the frame and put here by hand is no value, so the source of each is found again by
taking the frame away. -/
inductive TextMatch (L : Regex.Library := Regex.engine) where
  | exact (text : String)
  | wildcard (pattern : String)
  | regex (expression : Regex.Whole L)
  deriving DecidableEq

namespace TextMatch

variable {L : Regex.Library}

/-- The text or pattern as it was given. -/
def source : TextMatch L → String
  | exact text => text
  | wildcard pattern => pattern
  | regex expression => expression.source

/-- Whether a text passes. -/
def accepts : TextMatch L → String → Bool
  | exact expected, text => expected == text
  | wildcard pattern, text => Text.Glob.isMatch pattern text
  | regex expression, text => expression.isMatch text

/-- A description in which the three ways of comparing differ. -/
def describe : TextMatch L → String
  | exact text => "text='" ++ text ++ "'"
  | wildcard pattern => "text~'" ++ pattern ++ "'"
  | regex expression => "text=/" ++ expression.source ++ "/"

end TextMatch

end GuiTest
