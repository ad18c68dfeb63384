import GuiTest.Proofs.Regex.Whole

/-!
# Patterns for names

A pattern for names stands between `^` and `$` and is made of texts and of runs of characters from a
set. It is found in a name if and only if the name is spelled by its parts: the texts in order, with
characters of the sets where the runs are (`occursIn_anchored_iff`).
-/

namespace GuiTest.Regex

/-- A part of a name: a text, or a run of characters from a set, which may be empty. -/
inductive NamePart where
  | text (s : String)
  | run (set : CharSet)

namespace NamePart

/-- The characters are those of the parts, one after the other. -/
inductive Spells : List NamePart → List Char → Prop where
  | nil : Spells [] []
  | text {s : String} {parts : List NamePart} {rest : List Char} :
      Spells parts rest → Spells (.text s :: parts) (s.toList ++ rest)
  | run {set : CharSet} {taken : List Char} {parts : List NamePart} {rest : List Char} :
      (∀ c ∈ taken, set c = true) → Spells parts rest → Spells (.run set :: parts) (taken ++ rest)

theorem spells_text (s : String) : Spells [.text s] s.toList := by
  rw [← List.append_nil s.toList]
  exact .text .nil

/-- A run between two texts spells what has such characters between them. -/
theorem spells_with_run {first middle last : String} {set : CharSet}
    (h : ∀ c ∈ middle.toList, set c = true) :
    Spells [.text first, .run set, .text last] (first ++ middle ++ last).toList := by
  rw [String.toList_append, String.toList_append, List.append_assoc]
  exact .text (.run h (spells_text last))

end NamePart

namespace Pattern

variable {p q : Pattern} {before rest : List Char} {i j : Nat}

/-- The pattern of a text, with another one after it. -/
def literal (s : List Char) (q : Pattern) : Pattern :=
  s.foldr (fun c q => .seq (.one (CharSet.single c)) q) q

/-- The pattern of a run of characters from a set, with another one after it. -/
def run (set : CharSet) (q : Pattern) : Pattern := .seq (.repeated (.one set) 0 none) q

/-- The pattern of parts, up to the end of the text. -/
def upToEnd : List NamePart → Pattern
  | [] => .seq (.look .textEnd) .empty
  | .text s :: parts => literal s.toList (upToEnd parts)
  | .run set :: parts => run set (upToEnd parts)

/-- The pattern of parts, for the whole text. -/
def anchored (parts : List NamePart) : Pattern := .seq (.look .textStart) (upToEnd parts)

/-- The pattern spans a text from the end of what stands before the rest up to a position. -/
def SpansAfter (p : Pattern) (before rest : List Char) (j : Nat) : Prop :=
  p.Spans (before ++ rest) before.length j

/-- A character is taken, and the rest goes on behind it. -/
theorem spansAfter_one_seq_iff {set : CharSet} :
    (Pattern.seq (.one set) q).SpansAfter before rest j
      ↔ ∃ c after, rest = c :: after ∧ set c = true ∧ q.SpansAfter (before ++ [c]) after j := by
  constructor
  · intro h
    obtain - | - | - | ⟨hone, hq⟩ := h
    obtain - | ⟨hc, hset⟩ := hone
    rw [List.getElem?_append_right (Nat.le_refl _), Nat.sub_self, ← List.head?_eq_getElem?] at hc
    obtain ⟨after, rfl⟩ := List.head?_eq_some_iff.mp hc
    refine ⟨_, after, rfl, hset, ?_⟩
    rwa [SpansAfter, List.length_append, ← List.append_cons]
  · intro h
    obtain ⟨c, after, rfl, hset, hq⟩ := h
    rw [SpansAfter, List.length_append, ← List.append_cons] at hq
    refine .seq (.one ?_ hset) hq
    rw [List.getElem?_append_right (Nat.le_refl _), Nat.sub_self, List.getElem?_cons_zero]

/-- A run is over, or takes one character and goes on. -/
theorem spansAfter_run_iff_cases {set : CharSet} :
    (run set q).SpansAfter before rest j
      ↔ q.SpansAfter before rest j
        ∨ (Pattern.seq (.one set) (run set q)).SpansAfter before rest j := by
  constructor
  · intro h
    obtain - | - | - | ⟨hrun, hq⟩ := h
    cases hrun with
    | stop _ => exact .inl hq
    | more _ hone hrun => exact .inr (.seq hone (.seq hrun hq))
  · intro h
    rcases h with hq | h
    · exact .seq (.stop (by simp)) hq
    · obtain - | - | - | ⟨hone, h⟩ := h
      obtain - | - | - | ⟨hrun, hq⟩ := h
      exact .seq (.more (by simp) hone hrun) hq

/-- A run may take all characters from its set. -/
theorem SpansAfter.run {set : CharSet} {taken : List Char} (htaken : ∀ c ∈ taken, set c = true)
    (h : q.SpansAfter (before ++ taken) rest j) :
    (run set q).SpansAfter before (taken ++ rest) j := by
  induction taken generalizing before with
  | nil =>
    rw [List.append_nil] at h
    exact spansAfter_run_iff_cases.mpr (.inl h)
  | cons c taken ih =>
    rw [List.forall_mem_cons] at htaken
    rw [List.append_cons] at h
    rw [spansAfter_run_iff_cases, spansAfter_one_seq_iff]
    exact .inr ⟨c, taken ++ rest, rfl, htaken.1, ih htaken.2 h⟩

/-- A run takes characters from its set, as many as the rest of the pattern leaves it. -/
theorem spansAfter_run_iff {set : CharSet} :
    (run set q).SpansAfter before rest j
      ↔ ∃ taken after, rest = taken ++ after ∧ (∀ c ∈ taken, set c = true)
        ∧ q.SpansAfter (before ++ taken) after j := by
  constructor
  · intro h
    induction rest generalizing before with
    | nil =>
      rw [spansAfter_run_iff_cases, spansAfter_one_seq_iff] at h
      rcases h with h | ⟨c, after, hnil, -⟩
      · exact ⟨[], [], rfl, by simp, by rwa [List.append_nil]⟩
      · cases hnil
    | cons c rest ih =>
      rw [spansAfter_run_iff_cases, spansAfter_one_seq_iff] at h
      rcases h with h | ⟨c, after, ⟨⟩, hc, h⟩
      · exact ⟨[], _, rfl, by simp, by rwa [List.append_nil]⟩
      · obtain ⟨taken, after, rfl, htaken, hq⟩ := ih h
        rw [← List.append_cons] at hq
        exact ⟨c :: taken, after, rfl, List.forall_mem_cons.mpr ⟨hc, htaken⟩, hq⟩
  · intro h
    obtain ⟨taken, after, rfl, htaken, hq⟩ := h
    exact hq.run htaken

/-- A text takes itself. -/
theorem spansAfter_literal_iff {s : List Char} :
    (literal s q).SpansAfter before rest j
      ↔ ∃ after, rest = s ++ after ∧ q.SpansAfter (before ++ s) after j := by
  induction s generalizing before rest with
  | nil => simp [literal]
  | cons c s ih =>
    have hliteral : literal (c :: s) q = .seq (.one (CharSet.single c)) (literal s q) := rfl
    rw [hliteral, spansAfter_one_seq_iff]
    constructor
    · intro h
      obtain ⟨d, after, rfl, hd, h⟩ := h
      obtain rfl : d = c := eq_of_beq hd
      obtain ⟨after, rfl, hq⟩ := ih.mp h
      rw [← List.append_cons] at hq
      exact ⟨after, rfl, hq⟩
    · intro h
      obtain ⟨after, rfl, hq⟩ := h
      rw [List.append_cons] at hq
      exact ⟨c, s ++ after, rfl, beq_self_eq_true c, ih.mpr ⟨after, rfl, hq⟩⟩

/-- The parts take all that is left, as they spell it. -/
theorem spansAfter_upToEnd_iff {parts : List NamePart} :
    (upToEnd parts).SpansAfter before rest j
      ↔ j = (before ++ rest).length ∧ NamePart.Spells parts rest := by
  -- Each part is spanned where the one before it ends, so what came before is not fixed.
  induction parts generalizing before rest with
  | nil =>
    constructor
    · intro h
      obtain - | - | - | ⟨hend, hempty⟩ := h
      obtain ⟨hlength, rfl⟩ := spans_textEnd_iff.mp hend
      cases hempty
      rw [List.length_append, Nat.left_eq_add, List.length_eq_zero_iff] at hlength
      exact ⟨rfl, hlength ▸ .nil⟩
    · intro h
      obtain ⟨rfl, ⟨⟩⟩ := h
      have hlength : before.length = (before ++ []).length := by rw [List.append_nil]
      exact .seq (spans_textEnd_iff.mpr ⟨hlength, rfl⟩) (.empty (Nat.le_refl _))
  | cons part parts ih =>
    cases part with
    | text s =>
      rw [upToEnd, spansAfter_literal_iff]
      constructor
      · intro h
        obtain ⟨after, rfl, hq⟩ := h
        obtain ⟨rfl, hspells⟩ := ih.mp hq
        exact ⟨by rw [List.append_assoc], .text hspells⟩
      · intro h
        obtain ⟨rfl, ⟨⟩⟩ := h
        next after hspells =>
        exact ⟨after, rfl, ih.mpr ⟨by rw [List.append_assoc], hspells⟩⟩
    | run set =>
      rw [upToEnd, spansAfter_run_iff]
      constructor
      · intro h
        obtain ⟨taken, after, rfl, htaken, hq⟩ := h
        obtain ⟨rfl, hspells⟩ := ih.mp hq
        exact ⟨by rw [List.append_assoc], .run htaken hspells⟩
      · intro h
        obtain ⟨rfl, ⟨⟩⟩ := h
        next taken after htaken hspells =>
        exact ⟨taken, after, rfl, htaken, ih.mpr ⟨by rw [List.append_assoc], hspells⟩⟩

theorem literal_ordered (s : List Char) (hq : q.BoundsOrdered) : (literal s q).BoundsOrdered := by
  induction s with
  | nil => exact hq
  | cons c s ih => exact ⟨trivial, ih⟩

/-- Runs have no upper bound, so nothing is out of order. -/
theorem upToEnd_ordered (parts : List NamePart) : (upToEnd parts).BoundsOrdered := by
  induction parts with
  | nil => exact ⟨trivial, trivial⟩
  | cons part parts ih =>
    cases part with
    | text s => exact literal_ordered s.toList ih
    | run set => exact ⟨⟨trivial, nofun⟩, ih⟩

/-- **A pattern for names is found in the names that its parts spell**, and in no other text. -/
theorem occursIn_anchored_iff (parts : List NamePart) (text : List Char) :
    (anchored parts).occursIn text = true ↔ NamePart.Spells parts text := by
  have hordered : (anchored parts).BoundsOrdered := ⟨trivial, upToEnd_ordered parts⟩
  rw [occursIn_iff hordered]
  constructor
  · intro h
    obtain ⟨i, j, h⟩ := h
    obtain - | - | - | ⟨hstart, h⟩ := h
    obtain ⟨rfl, rfl⟩ := spans_textStart_iff.mp hstart
    have hafter : (upToEnd parts).SpansAfter [] text j := h
    exact (spansAfter_upToEnd_iff.mp hafter).2
  · intro h
    have hafter : (upToEnd parts).SpansAfter [] text text.length :=
      spansAfter_upToEnd_iff.mpr ⟨rfl, h⟩
    exact ⟨0, text.length, .seq (spans_textStart_iff.mpr ⟨rfl, rfl⟩) hafter⟩

end Pattern

end GuiTest.Regex
