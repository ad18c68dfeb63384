import GuiTest.Regex.Syntax

/-!
# Regular expressions for whole texts

An expression for whole texts is made by text alone: its source is put between `^(?:` and `)$`, the
library compiles the result, and what it makes of it is looked for anywhere in the text. A `Whole`
is a source that the library accepts in this frame, so to have one is to know that its matches are
defined; two of them are equal if their sources are. The library is a parameter. Where none is
given it is the `engine`, which stands in for it.
-/

namespace GuiTest.Regex

/-- The source of a group that captures nothing. -/
def group (source : String) : String := "(?:" ++ source ++ ")"

/-- The source that is compiled: a group that is anchored at both ends of the text. -/
def framed (source : String) : String := "^" ++ group source ++ "$"

/-- A regular expression for whole texts. -/
structure Whole (L : Library := engine) where
  source : String
  expression : L.Expression
  compile_eq : L.compile (framed source) = .ok expression

namespace Whole

/-- Compiles an expression. -/
def ofSource (source : String) (L : Library := engine) : Except Fault (Whole L) :=
  match h : L.compile (framed source) with
  | .ok expression => .ok ⟨source, expression, h⟩
  | .error fault => .error fault

variable {L : Library}

/-- Whether the expression matches a text. -/
def isMatch (r : Whole L) (text : String) : Bool := L.isMatch r.expression text

/-- The source tells an expression from all others. -/
theorem ext_source {a b : Whole L} (h : a.source = b.source) : a = b := by
  obtain ⟨s, e, he⟩ := a
  obtain ⟨t, f, hf⟩ := b
  cases h
  obtain rfl : e = f := Except.ok.inj (he.symm.trans hf)
  rfl

instance : DecidableEq (Whole L) := fun a b =>
  if h : a.source = b.source then .isTrue (ext_source h)
  else .isFalse fun e => h (congrArg source e)

/-- What is compiled from a source has that source. -/
theorem ofSource_eq_ok_iff {source : String} {r : Whole L} :
    ofSource source L = .ok r ↔ r.source = source := by
  constructor
  · intro h
    unfold ofSource at h
    split at h
    · exact Except.ok.inj h ▸ rfl
    · cases h
  · rintro rfl
    unfold ofSource
    split
    · exact congrArg Except.ok (ext_source rfl)
    · rename_i fault hf
      exact nomatch hf.symm.trans r.compile_eq

end Whole

end GuiTest.Regex
