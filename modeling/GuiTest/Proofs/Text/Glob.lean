import Mathlib.Data.List.Forall2
import Mathlib.Data.List.Infix
import GuiTest.Text.Glob

/-!
# What wildcard patterns match

A row of the table has one cell for each beginning of the text, from the empty one up to the whole.
`Answers` says that it holds what `Matches` says of each of them. The first row does, and so does
every row below one that does (`Answers.nextRow`), because what a character at the end of a pattern
takes is cut off the end of the text. So all cells are right (`answers_table`). `isMatch_iff_pieces`
says in terms of the pieces of a text which texts match, and that the comparison which stands in for
the table where there is no wildcard changes no answer.
-/

namespace GuiTest.Text.Glob

variable {p t : List Char} {c d : Char} {row : List Bool}

/-! ## Pieces of a text -/

/-- What one character of a pattern takes of a text: anything, one character, or itself. -/
def Takes (c : Char) (piece : List Char) : Prop :=
  c = '*' ∨ (c = '?' ∧ piece.length = 1) ∨ (c ≠ '*' ∧ c ≠ '?' ∧ piece = [c])

/-- A character takes its piece off the beginning of the text. -/
theorem Takes.matches {piece : List Char} (h : Takes c piece) (ht : Matches p t) :
    Matches (c :: p) (piece ++ t) := by
  rcases h with rfl | ⟨rfl, hlength⟩ | ⟨hstar, hany, rfl⟩
  · exact .star ht
  · obtain ⟨x, rfl⟩ := List.length_eq_one_iff.mp hlength
    exact .any ht
  · exact .char hstar hany ht

/-- A text matches a pattern if it falls into pieces that the characters of the pattern take. -/
theorem matches_iff_pieces :
    Matches p t
      ↔ ∃ pieces : List (List Char), pieces.flatten = t ∧ List.Forall₂ Takes p pieces := by
  constructor
  · intro h
    induction h with
    | nil => exact ⟨[], rfl, .nil⟩
    | @star piece p t _ ih =>
      obtain ⟨pieces, rfl, htakes⟩ := ih
      exact ⟨piece :: pieces, rfl, .cons (.inl rfl) htakes⟩
    | @any c p t _ ih =>
      obtain ⟨pieces, rfl, htakes⟩ := ih
      exact ⟨[c] :: pieces, rfl, .cons (.inr (.inl ⟨rfl, rfl⟩)) htakes⟩
    | @char c p t hstar hany _ ih =>
      obtain ⟨pieces, rfl, htakes⟩ := ih
      exact ⟨[c] :: pieces, rfl, .cons (.inr (.inr ⟨hstar, hany, rfl⟩)) htakes⟩
  · rintro ⟨pieces, rfl, htakes⟩
    induction htakes with
    | nil => exact .nil
    | cons h _ ih => exact h.matches ih

/-! ## Parts of a pattern -/

theorem matches_nil_left_iff : Matches [] t ↔ t = [] := by
  constructor
  · rintro ⟨⟩
    rfl
  · rintro rfl
    exact .nil

/-- The first character of a pattern takes the beginning of the text. -/
theorem matches_cons_iff :
    Matches (c :: p) t ↔ ∃ piece rest, t = piece ++ rest ∧ Takes c piece ∧ Matches p rest := by
  constructor
  · intro h
    obtain ⟨pieces, rfl, htakes⟩ := matches_iff_pieces.mp h
    obtain ⟨piece, pieces, hpiece, hrest, rfl⟩ := List.forall₂_cons_left_iff.mp htakes
    exact ⟨piece, pieces.flatten, rfl, hpiece, matches_iff_pieces.mpr ⟨pieces, rfl, hrest⟩⟩
  · rintro ⟨piece, rest, rfl, htakes, h⟩
    exact htakes.matches h

/-- Two patterns in a row match the two halves of a text, for some cut of it. -/
theorem matches_append_iff {q : List Char} :
    Matches (p ++ q) t ↔ ∃ front back, t = front ++ back ∧ Matches p front ∧ Matches q back := by
  induction p generalizing t with
  | nil => simp [matches_nil_left_iff]
  | cons c p ih =>
    rw [List.cons_append, matches_cons_iff]
    constructor
    · rintro ⟨piece, rest, rfl, htakes, h⟩
      obtain ⟨front, back, rfl, hfront, hback⟩ := ih.mp h
      exact ⟨piece ++ front, back, (List.append_assoc ..).symm, htakes.matches hfront, hback⟩
    · rintro ⟨front, back, rfl, hfront, hback⟩
      obtain ⟨piece, rest, rfl, htakes, h⟩ := matches_cons_iff.mp hfront
      exact ⟨piece, rest ++ back, List.append_assoc .., htakes, ih.mpr ⟨rest, back, rfl, h, hback⟩⟩

/-- The last character of a pattern takes the end of the text. -/
theorem matches_concat_iff :
    Matches (p ++ [c]) t ↔ ∃ rest piece, t = rest ++ piece ∧ Matches p rest ∧ Takes c piece := by
  rw [matches_append_iff]
  have hlast (piece : List Char) : Matches [c] piece ↔ Takes c piece := by
    simp [matches_cons_iff, matches_nil_left_iff]
  simp only [hlast]

/-! ## One more character of the pattern -/

theorem takes_star (piece : List Char) : Takes '*' piece := .inl rfl

/-- A star at the end takes nothing, or the last character and then what a star takes of the
rest. -/
theorem matches_star_concat_iff :
    Matches (p ++ ['*']) (t ++ [d]) ↔ Matches p (t ++ [d]) ∨ Matches (p ++ ['*']) t := by
  constructor
  · intro h
    obtain ⟨rest, piece, htext, hrest, -⟩ := matches_concat_iff.mp h
    rcases List.eq_nil_or_concat piece with rfl | ⟨piece, x, rfl⟩
    · rw [htext, List.append_nil]
      exact .inl hrest
    · rw [List.concat_eq_append, ← List.append_assoc] at htext
      obtain ⟨rfl, -⟩ := List.append_inj' htext rfl
      exact .inr (matches_concat_iff.mpr ⟨rest, piece, rfl, hrest, takes_star piece⟩)
  · rintro (h | h)
    · exact matches_concat_iff.mpr ⟨t ++ [d], [], (List.append_nil _).symm, h, takes_star []⟩
    · obtain ⟨rest, piece, rfl, h, -⟩ := matches_concat_iff.mp h
      exact matches_concat_iff.mpr ⟨rest, piece ++ [d], List.append_assoc .., h, takes_star _⟩

/-- A star at the end takes nothing of the empty text. -/
theorem matches_star_nil_iff : Matches (p ++ ['*']) [] ↔ Matches p [] := by
  constructor
  · intro h
    obtain ⟨rest, piece, htext, h, -⟩ := matches_concat_iff.mp h
    obtain ⟨rfl, -⟩ := List.append_eq_nil_iff.mp htext.symm
    exact h
  · exact fun h => matches_concat_iff.mpr ⟨[], [], rfl, h, takes_star []⟩

/-- What is no star takes a single character: any for a question mark, or else itself. -/
theorem takes_iff (hstar : c ≠ '*') {piece : List Char} :
    Takes c piece ↔ ∃ d, (c = '?' ∨ c = d) ∧ piece = [d] := by
  simp only [Takes, hstar, false_or]
  constructor
  · rintro (⟨rfl, hlength⟩ | ⟨-, -, rfl⟩)
    · obtain ⟨d, rfl⟩ := List.length_eq_one_iff.mp hlength
      exact ⟨d, .inl rfl, rfl⟩
    · exact ⟨c, .inr rfl, rfl⟩
  · rintro ⟨d, haccepts, rfl⟩
    by_cases hany : c = '?'
    · exact .inl ⟨hany, rfl⟩
    · obtain rfl := haccepts.resolve_left hany
      exact .inr ⟨hstar, hany, rfl⟩

/-- A character at the end that is no star takes the last character of the text. -/
theorem matches_char_concat_iff (hstar : c ≠ '*') :
    Matches (p ++ [c]) (t ++ [d]) ↔ (c = '?' ∨ c = d) ∧ Matches p t := by
  rw [matches_concat_iff]
  constructor
  · rintro ⟨rest, piece, htext, h, htakes⟩
    obtain ⟨x, haccepts, rfl⟩ := (takes_iff hstar).mp htakes
    obtain ⟨rfl, hlast⟩ := List.append_inj' htext rfl
    obtain rfl := List.singleton_inj.mp hlast
    exact ⟨haccepts, h⟩
  · rintro ⟨haccepts, h⟩
    exact ⟨t, [d], rfl, h, (takes_iff hstar).mpr ⟨d, haccepts, rfl⟩⟩

theorem not_matches_char_nil (hstar : c ≠ '*') : ¬ Matches (p ++ [c]) [] := by
  intro h
  obtain ⟨rest, piece, htext, -, htakes⟩ := matches_concat_iff.mp h
  obtain ⟨x, -, rfl⟩ := (takes_iff hstar).mp htakes
  cases (List.append_eq_nil_iff.mp htext.symm).2

/-! ## Rows of answers -/

/-- A row holds, for every beginning of the text, shortest first, whether the pattern matches it
with what was `passed` before it. -/
def Answers (p passed t : List Char) (row : List Bool) : Prop :=
  List.Forall₂ (fun beginning b => b = true ↔ Matches p (passed ++ beginning)) t.inits row

variable {passed : List Char}

theorem answers_nil_iff :
    Answers p passed [] row ↔ ∃ b, (b = true ↔ Matches p passed) ∧ row = [b] := by
  simp [Answers, List.forall₂_cons_left_iff]

/-- The first cell answers for the beginning that was passed, the others for longer ones. -/
theorem answers_cons_iff :
    Answers p passed (d :: t) row ↔
      ∃ b rest, (b = true ↔ Matches p passed) ∧ Answers p (passed ++ [d]) t rest
        ∧ row = b :: rest := by
  simp only [Answers, List.inits_cons, List.forall₂_cons_left_iff, List.forall₂_map_left_iff,
    List.append_nil, List.append_assoc, List.singleton_append]

/-- The answer for the empty beginning comes first. -/
theorem Answers.headD (h : Answers p passed t row) :
    row.headD false = true ↔ Matches p passed := by
  cases t with
  | nil =>
    obtain ⟨b, hb, rfl⟩ := answers_nil_iff.mp h
    exact hb
  | cons d t =>
    obtain ⟨b, rest, hb, -, rfl⟩ := answers_cons_iff.mp h
    exact hb

/-- The answer for the whole text comes last. -/
theorem Answers.getLastD (h : Answers p passed t row) (default : Bool) :
    row.getLastD default = true ↔ Matches p (passed ++ t) := by
  induction t generalizing passed row default with
  | nil =>
    obtain ⟨b, hb, rfl⟩ := answers_nil_iff.mp h
    rw [List.append_nil]
    exact hb
  | cons d t ih =>
    obtain ⟨b, rest, -, hrest, rfl⟩ := answers_cons_iff.mp h
    rw [List.getLastD_cons, ih hrest, List.append_assoc, List.singleton_append]

/-- The first row answers for the empty pattern. -/
theorem answers_firstRow (t : List Char) : Answers [] [] t (firstRow t) := by
  -- What was passed decides the first cell, and it is not empty for the further ones.
  have hrow (passed : List Char) (b : Bool) (hb : b = true ↔ passed = []) :
      Answers [] passed t (b :: t.map fun _ => false) := by
    induction t generalizing passed b with
    | nil => exact answers_nil_iff.mpr ⟨b, hb.trans matches_nil_left_iff.symm, rfl⟩
    | cons d t ih =>
      exact answers_cons_iff.mpr ⟨b, _, hb.trans matches_nil_left_iff.symm,
        ih (passed ++ [d]) false (by simp), rfl⟩
  exact hrow [] true (by simp)

/-- **The cells of a row**, from one that is right on, below a row that is right. -/
theorem Answers.cells {above : List Bool} {left : Bool} (h : Answers p passed t above)
    (hleft : left = true ↔ Matches (p ++ [c]) passed) :
    Answers (p ++ [c]) passed t (left :: cells c left above t) := by
  induction t generalizing passed above left with
  | nil => exact answers_nil_iff.mpr ⟨left, hleft, rfl⟩
  | cons d t ih =>
    obtain ⟨b, rest, hb, hrest, rfl⟩ := answers_cons_iff.mp h
    refine answers_cons_iff.mpr ⟨left, _, hleft, ih hrest ?_, rfl⟩
    by_cases hstar : c = '*'
    · subst hstar
      rw [if_pos rfl, Bool.or_eq_true, List.tail_cons, hrest.headD, hleft, matches_star_concat_iff]
    · rw [if_neg hstar, matches_char_concat_iff hstar, ← hb]
      split <;> simp_all

/-- **One row below another.** -/
theorem Answers.nextRow (h : Answers p [] t row) (c : Char) :
    Answers (p ++ [c]) [] t (nextRow t row c) := by
  refine h.cells ?_
  by_cases hstar : c = '*'
  · subst hstar
    rw [matches_star_nil_iff, ← h.headD]
    simp
  · simp [hstar, not_matches_char_nil]

/-! ## The table -/

/-- Each row answers for the beginning of the pattern that it stands for. -/
theorem answers_rowsFrom {q : List Char} (h : Answers p [] t row) :
    List.Forall₂ (fun beginning row => Answers (p ++ beginning) [] t row) q.inits
      (rowsFrom t row q) := by
  induction q generalizing p row with
  | nil => exact .cons ((List.append_nil p).symm ▸ h) .nil
  | cons c q ih =>
    rw [List.inits_cons, rowsFrom, List.forall₂_cons, List.forall₂_map_left_iff, List.append_nil]
    refine ⟨h, ?_⟩
    simpa using ih (h.nextRow c)

/-- The last row answers for the whole pattern. -/
theorem answers_lastRow {q : List Char} (h : Answers p [] t row) (default : List Bool) :
    Answers (p ++ q) [] t ((rowsFrom t row q).getLastD default) := by
  induction q generalizing p row default with
  | nil =>
    rw [List.append_nil]
    exact h
  | cons c q ih =>
    have hbelow := ih (h.nextRow c) row
    rw [List.append_assoc, List.singleton_append] at hbelow
    rw [rowsFrom, List.getLastD_cons]
    exact hbelow

/-- **All cells are right**: each says of a beginning of the pattern and one of the text whether the
one matches the other. -/
theorem answers_table (p t : List Char) :
    List.Forall₂ (fun beginning row => Answers beginning [] t row) p.inits (table p t) :=
  answers_rowsFrom (answers_firstRow t)

/-- The last cell of the table answers for the whole pattern and the whole text. -/
theorem getLastD_table (p t : List Char) :
    ((table p t).getLastD []).getLastD false = true ↔ Matches p t :=
  (answers_lastRow (answers_firstRow t) []).getLastD false

/-! ## Patterns without wildcards -/

/-- A pattern without wildcards matches itself only. -/
theorem matches_iff_eq (h : hasWildcard p = false) : Matches p t ↔ p = t := by
  rw [hasWildcard, List.any_eq_false] at h
  induction p generalizing t with
  | nil => exact matches_nil_left_iff.trans eq_comm
  | cons c p ih =>
    obtain ⟨hc, hp⟩ := List.forall_mem_cons.mp h
    rw [Bool.or_eq_true, beq_iff_eq, beq_iff_eq, not_or] at hc
    rw [matches_cons_iff]
    simp [takes_iff hc.1, hc.2, ih hp, eq_comm]

/-- **The table and the shortcut answer alike**: both say what is matched. -/
theorem isMatch_iff (pattern text : String) :
    isMatch pattern text = true ↔ Matches pattern.toList text.toList := by
  rw [isMatch]
  split
  next => exact getLastD_table ..
  next h =>
    rw [matches_iff_eq (eq_false_of_ne_true h), beq_iff_eq, String.toList_inj]

/-- **What wildcard patterns match.** A text matches a pattern exactly if it falls into consecutive
pieces, one for each character of the pattern: anything for `*`, one character for `?`, and itself
for any other. The table gives that answer in its last cell, also where the pattern has no wildcard
and is compared instead, and every other cell gives it for a beginning of the pattern and one of the
text. -/
theorem isMatch_iff_pieces (pattern text : String) :
    (isMatch pattern text = true ↔
        ∃ pieces : List (List Char), pieces.flatten = text.toList
          ∧ List.Forall₂ Takes pattern.toList pieces)
      ∧ ((table pattern.toList text.toList).getLastD []).getLastD false = isMatch pattern text
      ∧ List.Forall₂
        (fun p row => List.Forall₂
          (fun t answer => answer = true ↔
            ∃ pieces : List (List Char), pieces.flatten = t ∧ List.Forall₂ Takes p pieces)
          text.toList.inits row)
        pattern.toList.inits (table pattern.toList text.toList) := by
  refine ⟨(isMatch_iff pattern text).trans matches_iff_pieces, ?_, ?_⟩
  · rw [Bool.eq_iff_iff, getLastD_table, isMatch_iff]
  · exact (answers_table pattern.toList text.toList).imp fun p row hrow =>
      hrow.imp fun t answer h => h.trans matches_iff_pieces

/-- Two stars next to each other, one at the end, and a character that is not ASCII. -/
example : isMatch "*?é**" "naïveté" = true ∧ isMatch "?é" "é" = false := by decide

end GuiTest.Text.Glob
