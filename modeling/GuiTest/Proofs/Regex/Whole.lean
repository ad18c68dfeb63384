import GuiTest.Locator.Draft
import GuiTest.Proofs.Regex.Engine

/-!
# Regular expressions match whole texts

A pattern is accepted in the frame if a group may be put around it, and then matches a text if and
only if it spans the whole of it (`TextMatch.ofPattern_whole`). This is proved of every library that
does as documented, and so of the engine. There are three exceptions, all because the frame is put
around the pattern as text. A pattern that closes a group it did not open leaves the frame, and may
be accepted although it is none by itself. A pattern that ends in a comment takes the end of the
frame into it, and one that is as large as the limits allow leaves the frame no room: they are
refused.
-/

namespace GuiTest.TextMatch

open Regex

variable {L : Library} {N : Notions}

/-- A pattern is accepted if there is an expression with its source. -/
theorem ofPattern_eq_ok_iff {source : String} {m : TextMatch L} :
    ofPattern source L = .ok m ↔ ∃ r : Whole L, r.source = source ∧ m = .regex r := by
  unfold ofPattern
  cases h : Whole.ofSource source L with
  | ok r =>
    have hr := Whole.ofSource_eq_ok_iff.mp h
    constructor
    · rintro ⟨⟩
      exact ⟨r, hr, rfl⟩
    · rintro ⟨r', hr', rfl⟩
      rw [Whole.ext_source (hr.trans hr'.symm)]
  | error reason =>
    refine ⟨nofun, ?_⟩
    rintro ⟨r, hr, -⟩
    cases h.symm.trans (Whole.ofSource_eq_ok_iff.mpr hr)

/-- The frame is what the library accepts or refuses. -/
theorem exists_ofPattern_iff (documented : L.Documented N) (source : String) :
    (∃ m, ofPattern source L = .ok m) ↔ N.Grammatical (framed source) ∧ N.Fits (framed source) := by
  rw [← Whole.exists_iff documented]
  simp only [ofPattern_eq_ok_iff]
  exact ⟨fun ⟨_, r, hr, _⟩ => ⟨r, hr⟩, fun ⟨r, hr⟩ => ⟨_, r, hr, rfl⟩⟩

/-- **The text must match the whole expression.** Of a source that is a pattern by itself, the frame
is accepted if a group may be put around it and the library has room for the result. Where no
comment reaches to the end, room is all that is needed. What is accepted then passes the texts of
which the pattern spans the whole. Of all that is accepted, only what leaves the frame is no pattern
by itself. -/
theorem ofPattern_whole (documented : L.Documented N) (source : String) :
    (N.Grammatical source →
      ((∃ m, ofPattern source L = .ok m) ↔
        N.Grammatical (group source) ∧ N.Fits (framed source)) ∧
      (¬SignInLastLine source.toList →
        ((∃ m, ofPattern source L = .ok m) ↔ N.Fits (framed source))) ∧
      ∀ m, ofPattern source L = .ok m →
        ∀ text, m.accepts text = true ↔ N.Spans source text.toList 0 text.toList.length) ∧
    ((∃ m, ofPattern source L = .ok m) → (N.Grammatical source ↔ ¬LeavesFrame N source)) := by
  have hok := exists_ofPattern_iff documented source
  refine ⟨fun h => ?_,
    fun hm => ⟨fun h hleaves => hleaves.not_grammatical documented h, fun h => ?_⟩⟩
  · rw [grammatical_framed_iff documented h] at hok
    refine ⟨hok, fun hline => ?_, fun m hm text => ?_⟩
    · exact hok.trans (and_iff_right (documented.grammatical_group h hline))
    · obtain ⟨r, rfl, rfl⟩ := ofPattern_eq_ok_iff.mp hm
      exact r.isMatch_iff documented h text
  · rcases grammatical_or_leaves documented (hok.mp hm).1 with ⟨hsource, -⟩ | hleaves
    · exact hsource
    · exact absurd hleaves h

/-- With the engine, alternatives match whole texts; a pattern that ends in a comment is refused, so
no group can be put around it; and what is accepted though it is no pattern leaves the frame. -/
theorem ofPattern_whole_engine :
    (engineNotions.Grammatical "a|ab" ∧ ∃ m, ofPattern "a|ab" = .ok m ∧
      (∀ text, m.accepts text = true ↔
        engineNotions.Spans "a|ab" text.toList 0 text.toList.length) ∧
      m.accepts "ab" = true ∧ m.accepts "abc" = false) ∧
    (engineNotions.Grammatical "(?x)a # the letter" ∧
      ¬engineNotions.Grammatical (group "(?x)a # the letter")) ∧
    ¬engineNotions.Grammatical "a)|(?:b" ∧ LeavesFrame engineNotions "a)|(?:b" := by
  refine ⟨⟨rfl, _, rfl, ?_, by decide, by decide⟩, ⟨rfl, fun hgroup => ?_⟩, nofun, ?_⟩
  · exact ((ofPattern_whole engine_documented "a|ab").1 rfl).2.2 _ rfl
  · have hfits : engineNotions.Fits (framed "(?x)a # the letter") := fun part hpart => nomatch hpart
    have haccepted := ((ofPattern_whole engine_documented "(?x)a # the letter").1 rfl).1
    obtain ⟨m, hm⟩ := haccepted.mpr ⟨hgroup, hfits⟩
    cases hm
  · by_contra hstays
    cases ((ofPattern_whole engine_documented "a)|(?:b").2 ⟨_, rfl⟩).mpr hstays

/-- One pattern leaves the frame: it is accepted though it is none by itself, and then a text
matches that only begins as it says. Another ends in a comment: it is refused though it is one. -/
theorem ofPattern_out_of_frame :
    (engine.compile "a)|(?:b" = .error .malformed ∧
      ∃ m, ofPattern "a)|(?:b" = .ok m ∧ m.accepts "ax" = true) ∧
    (∃ e, engine.compile "(?x)a # the letter" = .ok e) ∧
      ofPattern "(?x)a # the letter" = .error (.badPattern "(?x)a # the letter" .malformed) :=
  ⟨⟨rfl, _, rfl, by decide⟩, ⟨_, rfl⟩, rfl⟩

end GuiTest.TextMatch
