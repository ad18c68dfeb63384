import Mathlib.Data.List.DropRight
import Mathlib.Data.List.TakeWhile
import GuiTest.Text.Blank

/-!
# Texts that are cut apart

What the cutting of a text gives is told by how the text is put together: at the first separator
(`splitAtFirst?_append`), at every separator (`splitBy_eq_iff`), or at every run of separators, so
that no piece is empty (`Parts`, `Parts.pieces_eq`).
-/

namespace GuiTest.Text

variable {p : Char → Bool} {c : Char} {cs piece rest tail : List Char}

/-! ## Ends -/

theorem dropEndWhile_eq_nil_iff : dropEndWhile p cs = [] ↔ ∀ c ∈ cs, p c = true :=
  List.rdropWhile_eq_nil_iff

/-- What is dropped at the end is told by the character before it. -/
theorem dropEndWhile_append (htail : ∀ c ∈ tail, p c = true)
    (hlast : ∀ c ∈ cs.getLast?, p c = false) : dropEndWhile p (cs ++ tail) = cs := by
  induction tail using List.reverseRecOn with
  | nil =>
    rw [List.append_nil]
    refine List.rdropWhile_eq_self_iff.mpr fun hne => ?_
    rw [hlast _ (List.getLast?_eq_getLast_of_ne_nil hne)]
    decide
  | append_singleton tail c ih =>
    rw [← List.append_assoc]
    refine (List.rdropWhile_concat_pos _ _ _ ?_).trans (ih fun d hd => ?_)
    · exact htail c (List.mem_append_right _ List.mem_cons_self)
    · exact htail d (List.mem_append_left _ hd)

theorem not_of_mem_getLast?_dropEndWhile (h : c ∈ (dropEndWhile p cs).getLast?) : p c = false := by
  obtain ⟨hne, rfl⟩ := List.mem_getLast?_eq_getLast h
  exact eq_false_of_ne_true (List.rdropWhile_last_not p cs hne)

/-- What is dropped at the end is all of the class. -/
theorem exists_eq_dropEndWhile_append (p : Char → Bool) (cs : List Char) :
    ∃ tail, cs = dropEndWhile p cs ++ tail ∧ ∀ c ∈ tail, p c = true :=
  ⟨cs.rtakeWhile p, List.rdropWhile_append_rtakeWhile.symm,
    fun _ => List.mem_rtakeWhile_imp⟩

/-- Only blanks are trimmed to nothing. -/
theorem trimChars_eq_nil_iff : trimChars cs = [] ↔ ∀ c ∈ cs, isBlank c = true := by
  rw [trimChars, dropEndWhile_eq_nil_iff]
  constructor
  · intro h
    have hnil : cs.dropWhile isBlank = [] := by
      by_contra hne
      -- What is left begins with a character that is not blank.
      have hhead := List.head_dropWhile_not isBlank hne
      rw [h _ (List.head_mem hne)] at hhead
      cases hhead
    exact List.dropWhile_eq_nil_iff.mp hnil
  · intro h c hc
    exact h c ((List.dropWhile_suffix isBlank).subset hc)

/-! ## The first separator -/

theorem splitAtFirst?_eq_none_iff : splitAtFirst? c cs = none ↔ c ∉ cs := by
  induction cs with
  | nil => simp [splitAtFirst?]
  | cons d cs ih =>
    rw [splitAtFirst?, List.mem_cons, not_or]
    split
    next h => simp [h]
    next h => rw [Option.map_eq_none_iff, ih, and_iff_right (Ne.symm h)]

/-- What stands before the first separator is cut off. -/
theorem splitAtFirst?_append (h : c ∉ piece) (rest : List Char) :
    splitAtFirst? c (piece ++ c :: rest) = some (piece, rest) := by
  induction piece with
  | nil => rw [List.nil_append, splitAtFirst?, if_pos rfl]
  | cons d piece ih =>
    obtain ⟨hd, hpiece⟩ := not_or.mp (mt List.mem_cons.mpr h)
    rw [List.cons_append, splitAtFirst?, if_neg (Ne.symm hd), ih hpiece]
    rfl

/-! ## Every separator -/

theorem splitBy_of_forall (h : ∀ c ∈ piece, p c = false) : splitBy p piece = [piece] := by
  induction piece with
  | nil => rfl
  | cons c piece ih =>
    obtain ⟨hc, hpiece⟩ := List.forall_mem_cons.mp h
    rw [splitBy, hc, ih hpiece]
    rfl

/-- What stands before the first separator is the first piece. -/
theorem splitBy_append (h : ∀ c ∈ piece, p c = false) (hc : p c = true) (rest : List Char) :
    splitBy p (piece ++ c :: rest) = piece :: splitBy p rest := by
  induction piece with
  | nil => rw [List.nil_append, splitBy, if_pos hc]
  | cons d piece ih =>
    obtain ⟨hd, hpiece⟩ := List.forall_mem_cons.mp h
    rw [List.cons_append, splitBy, hd, ih hpiece]
    rfl

/-- A separator cuts a text in two, and each half is cut by itself. -/
theorem splitBy_append_separator (hc : p c = true) (cs rest : List Char) :
    splitBy p (cs ++ c :: rest) = splitBy p cs ++ splitBy p rest := by
  induction cs with
  | nil => simp [splitBy, hc]
  | cons d cs ih =>
    rw [List.cons_append, splitBy, splitBy, ih]
    obtain ⟨piece, pieces, hpieces⟩ := List.exists_cons_of_ne_nil (splitBy_ne_nil p cs)
    rw [hpieces]
    split <;> rfl

theorem beq_eq_false_of_mem (h : c ∉ piece) : ∀ d ∈ piece, (d == c) = false := by
  intro d hd
  exact beq_false_of_ne fun heq => h (heq ▸ hd)

/-- **The pieces of a text are those without separators that make it** when they are joined. -/
theorem splitBy_eq_iff {pieces : List (List Char)} :
    splitBy (· == c) cs = pieces ↔
      pieces ≠ [] ∧ (∀ piece ∈ pieces, c ∉ piece) ∧ joinWith [c] pieces = cs := by
  constructor
  · intro h
    subst h
    refine ⟨splitBy_ne_nil _ _, fun piece hpiece hc => ?_, joinWith_splitBy c cs⟩
    exact absurd (beq_self_eq_true c) (by rw [not_of_mem_splitBy hpiece c hc]; decide)
  · intro h
    obtain ⟨hne, hpieces, rfl⟩ := h
    induction pieces with
    | nil => exact absurd rfl hne
    | cons piece pieces ih =>
      obtain ⟨hpiece, hrest⟩ := List.forall_mem_cons.mp hpieces
      by_cases hlast : pieces = []
      · subst hlast
        exact splitBy_of_forall (beq_eq_false_of_mem hpiece)
      · rw [joinWith_cons _ _ hlast, List.append_assoc, List.singleton_append,
          splitBy_append (beq_eq_false_of_mem hpiece) (beq_self_eq_true c), ih hlast hrest]

/-! ## Runs of separators -/

/-- The parts of a text: what is between the runs of separators in it. -/
inductive Parts (p : Char → Bool) : List Char → List (List Char) → Prop
  | nil {gap : List Char} (hgap : ∀ c ∈ gap, p c = true) : Parts p gap []
  | cons {gap part rest : List Char} {parts : List (List Char)} (hgap : ∀ c ∈ gap, p c = true)
      (hne : part ≠ []) (hpart : ∀ c ∈ part, p c = false) (hends : ∀ c ∈ rest.head?, p c = true)
      (hrest : Parts p rest parts) : Parts p (gap ++ (part ++ rest)) (part :: parts)

namespace Parts

variable {gap part : List Char} {parts : List (List Char)}

/-- Separators in a row make no pieces. -/
theorem pieces_gap (hgap : ∀ c ∈ gap, p c = true) (rest : List Char) :
    (splitBy p (gap ++ rest)).filter (· ≠ []) = (splitBy p rest).filter (· ≠ []) := by
  induction gap with
  | nil => rfl
  | cons c gap ih =>
    obtain ⟨hc, hgap⟩ := List.forall_mem_cons.mp hgap
    rw [List.cons_append, splitBy, if_pos hc, List.filter_cons, ← ih hgap]
    rfl

/-- What stands before a separator or the end is a piece. -/
theorem pieces_part (hne : part ≠ []) (hpart : ∀ c ∈ part, p c = false)
    (hends : ∀ c ∈ rest.head?, p c = true) :
    (splitBy p (part ++ rest)).filter (· ≠ []) = part :: (splitBy p rest).filter (· ≠ []) := by
  cases rest with
  | nil =>
    rw [List.append_nil, splitBy_of_forall hpart]
    exact List.filter_cons_of_pos (decide_eq_true hne)
  | cons c rest =>
    have hc : p c = true := hends c rfl
    rw [splitBy_append hpart hc, splitBy, if_pos hc]
    exact List.filter_cons_of_pos (decide_eq_true hne)

/-- **The pieces that are not empty are the parts.** -/
theorem pieces_eq (h : Parts p cs parts) : (splitBy p cs).filter (· ≠ []) = parts := by
  induction h with
  | @nil gap hgap =>
    rw [← List.append_nil gap, pieces_gap hgap]
    rfl
  | cons hgap hne hpart hends _ ih => rw [pieces_gap hgap, pieces_part hne hpart hends, ih]

theorem cons_separator (hc : p c = true) (h : Parts p cs parts) : Parts p (c :: cs) parts := by
  cases h with
  | nil hgap => exact nil (List.forall_mem_cons.mpr ⟨hc, hgap⟩)
  | @cons gap part rest parts hgap hne hpart hends hrest =>
    exact cons (List.forall_mem_cons.mpr ⟨hc, hgap⟩) hne hpart hends hrest

/-- Another character begins a part of its own, or it makes the first part longer. -/
theorem exists_cons_other (hc : p c = false) (h : Parts p cs parts) :
    ∃ parts', Parts p (c :: cs) parts' := by
  by_cases hends : ∀ d ∈ cs.head?, p d = true
  · refine ⟨[c] :: parts, ?_⟩
    show Parts p ([] ++ ([c] ++ cs)) ([c] :: parts)
    exact cons nofun (List.cons_ne_nil _ _) (List.forall_mem_singleton.mpr hc) hends h
  · cases h with
    | nil hgap => exact absurd (fun d hd => hgap d (List.mem_of_mem_head? hd)) hends
    | @cons gap part rest parts hgap hne hpart hends' hrest =>
      cases gap with
      | nil =>
        refine ⟨(c :: part) :: parts, ?_⟩
        show Parts p ([] ++ (c :: part ++ rest)) ((c :: part) :: parts)
        exact cons nofun (List.cons_ne_nil _ _) (List.forall_mem_cons.mpr ⟨hc, hpart⟩) hends' hrest
      | cons g gap =>
        refine absurd (fun d hd => ?_) hends
        obtain rfl := Option.some.inj hd
        exact hgap g List.mem_cons_self

/-- Every text has parts. -/
theorem exists_parts (p : Char → Bool) (cs : List Char) : ∃ parts, Parts p cs parts := by
  induction cs with
  | nil => exact ⟨[], nil nofun⟩
  | cons c cs ih =>
    obtain ⟨parts, hparts⟩ := ih
    cases hc : p c with
    | false => exact hparts.exists_cons_other hc
    | true => exact ⟨parts, hparts.cons_separator hc⟩

theorem ne_nil_of_mem (h : Parts p cs parts) (hpart : part ∈ parts) : part ≠ [] := by
  induction h with
  | nil => cases hpart
  | cons _ hne _ _ _ ih =>
    rcases List.mem_cons.mp hpart with rfl | hpart
    · exact hne
    · exact ih hpart

/-- A text without parts is made of separators. -/
theorem eq_nil_iff (h : Parts p cs parts) : parts = [] ↔ ∀ c ∈ cs, p c = true := by
  cases h with
  | nil hgap => exact iff_of_true rfl hgap
  | cons _ hne hpart _ _ =>
    refine iff_of_false (List.cons_ne_nil _ _) fun hall => ?_
    obtain ⟨c, hc⟩ := List.exists_mem_of_ne_nil _ hne
    have hseparator := hall c (List.mem_append_right _ (List.mem_append_left _ hc))
    rw [hpart c hc] at hseparator
    cases hseparator

end Parts

end GuiTest.Text
