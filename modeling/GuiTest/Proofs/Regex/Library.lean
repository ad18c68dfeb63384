import Mathlib.Data.List.Basic
import GuiTest.Regex.Whole

/-!
# What a library of regular expressions promises

Theorems about expressions for whole texts are about any `Library` that does as its documents say.
The documents speak of two notions, which a library has of its own (`Notions`): whether a source is
a pattern, and which parts of a text a pattern matches. `Library.Documented` lists what they say of
them: how groups are opened and closed, that a group matches as what is in it, that `^` and `$`
match at the ends of a text, and that what stands side by side matches side by side. From this it
follows what becomes of a source in its frame.

Hypotheses: no law is about the frame as such, and none says that a group of a pattern is a pattern
in general, which comments spoil. How large a pattern may be is left to the library: `Fits` is only
ever asked of the source that is compiled.
-/

namespace GuiTest.Regex

/-- The last line has a number sign, so a comment may reach to its end. -/
def SignInLastLine (cs : List Char) : Prop :=
  ∃ before after, cs = before ++ '#' :: after ∧ '\n' ∉ after

/-- The end of a suffix is the end of the whole. -/
theorem SignInLastLine.of_suffix {r cs : List Char} (h : SignInLastLine r) (hr : r <:+ cs) :
    SignInLastLine cs := by
  obtain ⟨before, after, rfl, hline⟩ := h
  obtain ⟨front, rfl⟩ := hr
  exact ⟨front ++ before, after, by simp, hline⟩

/-- The notions of a library: whether a source is a pattern by the rules of its syntax, whether it
is within the limits that the library sets, and whether a pattern matches the part of a text between
two positions, which are the gaps between its characters, from `0` to the length of the text. -/
structure Notions where
  Grammatical : String → Prop
  Fits : String → Prop
  Spans : String → List Char → Nat → Nat → Prop

/-- The library does as its documents say. -/
structure Library.Documented (L : Library) (N : Notions) : Prop where
  /-- The patterns within the limits are compiled, and nothing else is. -/
  compile_iff {s : String} : (∃ e, L.compile s = .ok e) ↔ N.Grammatical s ∧ N.Fits s
  /-- An expression is looked for anywhere in a text. -/
  isMatch_iff {s : String} {e : L.Expression} (h : L.compile s = .ok e) (text : String) :
    L.isMatch e text = true ↔ ∃ i j, N.Spans s text.toList i j
  /-- A caret matches at the beginning of a text. -/
  caret {text : List Char} {i j : Nat} : N.Spans "^" text i j ↔ i = 0 ∧ j = 0
  /-- A dollar sign matches at the end of a text. -/
  dollar {text : List Char} {i j : Nat} :
    N.Spans "$" text i j ↔ i = text.length ∧ j = text.length
  /-- A group matches as the pattern in it. -/
  group_spans {s : String} (h : N.Grammatical s) (hgroup : N.Grammatical (group s))
    {text : List Char} {i j : Nat} : N.Spans (group s) text i j ↔ N.Spans s text i j
  /-- A caret and a group after it match side by side. -/
  caret_group {s : String} (h : N.Grammatical s) (hgroup : N.Grammatical (group s)) :
    N.Grammatical ("^" ++ group s) ∧ ∀ {text : List Char} {i k : Nat},
      N.Spans ("^" ++ group s) text i k ↔ ∃ j, N.Spans "^" text i j ∧ N.Spans (group s) text j k
  /-- So do these and a dollar sign after them. -/
  group_dollar {s : String} (h : N.Grammatical s) (hgroup : N.Grammatical (group s)) :
    N.Grammatical ("^" ++ group s ++ "$") ∧ ∀ {text : List Char} {i k : Nat},
      N.Spans ("^" ++ group s ++ "$") text i k ↔
        ∃ j, N.Spans ("^" ++ group s) text i j ∧ N.Spans "$" text j k
  /-- A group may be put around a pattern, unless that may end in a comment: comments begin with a
  number sign and end with their line. -/
  grammatical_group {s : String} (h : N.Grammatical s) (hline : ¬SignInLastLine s.toList) :
    N.Grammatical (group s)
  /-- A group that is opened must be closed, and what is in it is a pattern. -/
  closed {s : String} (h : N.Grammatical ("^(?:" ++ s)) :
    ∃ inside after, s = inside ++ ")" ++ after ∧ N.Grammatical inside ∧
      N.Grammatical (group inside)
  /-- A group that was not opened must not be closed. -/
  unopened {s : String} (h : N.Grammatical s) (hgroup : N.Grammatical (group s)) (after : String) :
    ¬N.Grammatical (s ++ ")" ++ after)

/-- The source has a parenthesis that closes a group it did not open: what stands before it is a
pattern, and one that a group may be put around. -/
def LeavesFrame (N : Notions) (source : String) : Prop :=
  ∃ before after, source = before ++ ")" ++ after ∧ N.Grammatical before ∧
    N.Grammatical (group before)

/-! ## Sources in their frame -/

/-- The frame opens a group and closes it behind the source. -/
theorem framed_eq (source : String) : framed source = "^(?:" ++ (source ++ ")" ++ "$") := by
  have hopen : "^" ++ "(?:" = "^(?:" := rfl
  rw [framed, group, ← hopen]
  simp only [String.append_assoc]

/-- The parenthesis that closes the group of the frame is that of the frame, or one of the
source. -/
theorem eq_or_exists_of_append {source inside after : String}
    (h : source ++ ")" ++ "$" = inside ++ ")" ++ after) :
    inside = source ∨ ∃ rest, source = inside ++ ")" ++ rest := by
  have hlist : source.toList ++ [')', '$'] = inside.toList ++ ')' :: after.toList := by
    have := congrArg String.toList h
    simp only [String.toList_append, List.append_assoc] at this
    exact this
  rcases List.append_eq_append_iff.mp hlist with ⟨a, hinside, ha⟩ | ⟨a, hsource, ha⟩
  · cases a with
    | nil => exact .inl (String.toList_inj.mp (hinside.trans (List.append_nil _)))
    | cons c a =>
      -- Only the dollar sign is left for the parenthesis after the inside.
      have hmem : ')' ∈ ['$'] := by
        rw [(List.cons.inj ha).2]
        exact List.mem_append_right a (List.mem_cons_self ..)
      exact absurd hmem (by decide)
  · cases a with
    | nil => exact .inl (String.toList_inj.mp (hsource.trans (List.append_nil _)).symm)
    | cons c a =>
      obtain ⟨rfl, -⟩ := List.cons.inj ha
      refine .inr ⟨String.ofList a, String.toList_inj.mp ?_⟩
      simp only [hsource, String.toList_append, String.toList_ofList, List.append_assoc]
      rfl

section Documented

variable {L : Library} {N : Notions} (documented : L.Documented N) {source : String}

include documented

/-- What leaves the frame is no pattern by itself. -/
theorem LeavesFrame.not_grammatical (h : LeavesFrame N source) : ¬N.Grammatical source := by
  obtain ⟨before, after, rfl, hbefore, hgroup⟩ := h
  exact documented.unopened hbefore hgroup after

/-- In the frame only a pattern that a group may be put around is accepted, or what leaves it. -/
theorem grammatical_or_leaves (h : N.Grammatical (framed source)) :
    (N.Grammatical source ∧ N.Grammatical (group source)) ∨ LeavesFrame N source := by
  rw [framed_eq] at h
  obtain ⟨inside, after, hsplit, hinside, hgroup⟩ := documented.closed h
  rcases eq_or_exists_of_append hsplit with rfl | ⟨rest, hrest⟩
  · exact .inl ⟨hinside, hgroup⟩
  · exact .inr ⟨inside, rest, hrest, hinside, hgroup⟩

/-- The frame adds nothing to what a group does. -/
theorem grammatical_framed_iff (h : N.Grammatical source) :
    N.Grammatical (framed source) ↔ N.Grammatical (group source) := by
  refine ⟨fun hframed => ?_, fun hgroup => (documented.group_dollar h hgroup).1⟩
  rcases grammatical_or_leaves documented hframed with ⟨-, hgroup⟩ | hleaves
  · exact hgroup
  · exact absurd h (hleaves.not_grammatical documented)

/-- In the frame a pattern spans the whole text or nothing. -/
theorem spans_framed_iff (h : N.Grammatical source) (hgroup : N.Grammatical (group source))
    {text : List Char} {i j : Nat} :
    N.Spans (framed source) text i j ↔
      i = 0 ∧ j = text.length ∧ N.Spans source text 0 text.length := by
  rw [framed, (documented.group_dollar h hgroup).2]
  simp only [(documented.caret_group h hgroup).2, documented.caret, documented.dollar,
    documented.group_spans h hgroup]
  constructor
  · rintro ⟨_, ⟨_, ⟨rfl, rfl⟩, hspans⟩, rfl, rfl⟩
    exact ⟨rfl, rfl, hspans⟩
  · rintro ⟨rfl, rfl, hspans⟩
    exact ⟨_, ⟨_, ⟨rfl, rfl⟩, hspans⟩, rfl, rfl⟩

/-! ## Expressions for whole texts -/

namespace Whole

/-- The library decides whether there is an expression, and does so on the source in its frame. -/
theorem exists_iff :
    (∃ r : Whole L, r.source = source) ↔
      N.Grammatical (framed source) ∧ N.Fits (framed source) := by
  rw [← documented.compile_iff]
  constructor
  · rintro ⟨r, rfl⟩
    exact ⟨r.expression, r.compile_eq⟩
  · rintro ⟨e, he⟩
    exact ⟨⟨source, e, he⟩, rfl⟩

/-- **An expression matches a text if and only if its pattern spans the whole of it.** -/
theorem isMatch_iff (r : Whole L) (h : N.Grammatical r.source) (text : String) :
    r.isMatch text = true ↔ N.Spans r.source text.toList 0 text.toList.length := by
  obtain ⟨hframed, -⟩ := documented.compile_iff.mp ⟨r.expression, r.compile_eq⟩
  have hgroup := (grammatical_framed_iff documented h).mp hframed
  rw [isMatch, documented.isMatch_iff r.compile_eq]
  simp only [spans_framed_iff documented h hgroup]
  exact ⟨fun ⟨_, _, _, _, h⟩ => h, fun h => ⟨0, _, rfl, rfl, h⟩⟩

end Whole

end Documented

end GuiTest.Regex
