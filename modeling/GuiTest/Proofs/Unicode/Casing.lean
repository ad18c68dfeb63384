import GuiTest.Unicode.Casing

/-!
# Lower case

No character is lost in lower case, so a text does not become shorter (`length_le_lower`). What is
sent to another character is sent to a letter, so marks and digits of ASCII are in the lower case of
a text only if they were in the text (`mem_of_mem_lower`). A text of ASCII is lower-cased character
by character (`lower_of_lt`).
-/

namespace GuiTest.Unicode.Casing

variable {before after : List Char} {c d : Char}

/-- A code point stays, or goes to one of a run of images. -/
theorem image_cases {table : List Run} {low : Nat}
    (h : ∀ run ∈ table, low ≤ run.2.2.2) (n : Nat) : image table n = n ∨ low ≤ image table n := by
  rw [image]
  split
  next first last step target hfound =>
    have hrun : low ≤ target := h _ (List.mem_of_find?_eq_some hfound)
    exact .inr (Nat.le_add_right_of_le hrun)
  next => exact .inl rfl

/-- A number that is no character stands for the one with number zero. -/
theorem toNat_ofNat_cases (n : Nat) : (Char.ofNat n).toNat = n ∨ (Char.ofNat n).toNat = 0 := by
  by_cases hvalid : n.isValidChar
  · exact .inl (congrArg Char.toNat (dif_pos hvalid))
  · exact .inr (congrArg Char.toNat (dif_neg hvalid))

/-- The images of the lower case begin with the letters of ASCII. -/
theorem letter_le_lowerTable : ∀ run ∈ lowerTable, 'a'.toNat ≤ run.2.2.2 := by
  decide +kernel

theorem lowerChar_ne_nil (before after : List Char) (c : Char) : lowerChar before after c ≠ [] := by
  rw [lowerChar]
  split
  · exact List.cons_ne_nil _ _
  · split <;> exact List.cons_ne_nil _ _

/-- A character below the letters is in the lower case of itself only. -/
theorem eq_of_mem_lowerChar (hlow : d.toNat < 'a'.toNat) (hpos : 0 < d.toNat)
    (h : d ∈ lowerChar before after c) : d = c := by
  have hletter (e : Char) (he : 'a'.toNat ≤ e.toNat) : d ≠ e := by
    rintro rfl
    exact absurd hlow (Nat.not_lt.mpr he)
  rw [lowerChar] at h
  split at h
  · rw [List.mem_singleton] at h
    split at h
    · exact absurd h (hletter _ (by decide))
    · exact absurd h (hletter _ (by decide))
  split at h
  · rw [List.mem_cons, List.mem_singleton] at h
    rcases h with h | h
    · exact absurd h (hletter _ (by decide))
    · exact absurd h (hletter _ (by decide))
  · rw [List.mem_singleton] at h
    rcases image_cases letter_le_lowerTable c.toNat with hsame | himage
    · rw [h, hsame, Char.ofNat_toNat]
    · rw [h] at hlow hpos
      rcases toNat_ofNat_cases (image lowerTable c.toNat) with hvalid | hzero
      · rw [hvalid] at hlow
        exact absurd hlow (Nat.not_lt.mpr himage)
      · exact absurd hzero (Nat.ne_of_gt hpos)

/-- A character below the letters that is in a text in lower case was there before. -/
theorem mem_of_mem_lowerFrom {cs : List Char} (hlow : d.toNat < 'a'.toNat) (hpos : 0 < d.toNat)
    (h : d ∈ lowerFrom before cs) : d ∈ cs := by
  induction cs generalizing before with
  | nil => exact h
  | cons c cs ih =>
    rcases List.mem_append.mp h with h | h
    · exact List.mem_cons.mpr (.inl (eq_of_mem_lowerChar hlow hpos h))
    · exact List.mem_cons_of_mem c (ih h)

/-- A character below the letters is in the lower case of a text only if it is in the text. -/
theorem mem_of_mem_lower {s : String} (hlow : d.toNat < 'a'.toNat) (hpos : 0 < d.toNat)
    (h : d ∈ (lower s).toList) : d ∈ s.toList := by
  rw [lower, String.toList_ofList] at h
  exact mem_of_mem_lowerFrom hlow hpos h

/-- A text does not get shorter in lower case. -/
theorem length_le_lowerFrom (cs : List Char) : cs.length ≤ (lowerFrom before cs).length := by
  induction cs generalizing before with
  | nil => exact Nat.le_refl 0
  | cons c cs ih =>
    have hchar : 1 ≤ (lowerChar before cs c).length :=
      List.length_pos_iff.mpr (lowerChar_ne_nil before cs c)
    rw [lowerFrom, List.length_append, List.length_cons, Nat.add_comm]
    exact Nat.add_le_add hchar ih

/-- The lower case of a text is not shorter. -/
theorem length_le_lower (s : String) : s.toList.length ≤ (lower s).toList.length := by
  rw [lower, String.toList_ofList]
  exact length_le_lowerFrom s.toList

/-! ## ASCII -/

/-- Within ASCII only the capitals are sent to other characters. -/
theorem image_lowerTable_of_lt {n : Nat} (h : n < 0x80) :
    image lowerTable n = if 'A'.toNat ≤ n ∧ n ≤ 'Z'.toNat then n + 32 else n := by
  have htable : lowerTable = (0x41, 0x5A, 1, 0x61) :: lowerTable.tail := rfl
  have hlater : ∀ run ∈ lowerTable.tail, 0x80 ≤ run.1 := by decide +kernel
  have hnone {p : Run → Bool} (hp : ∀ run, ¬ run.1 ≤ n → ¬ p run = true) :
      lowerTable.tail.find? p = none := by
    rw [List.find?_eq_none]
    exact fun run hrun => hp run (Nat.not_le.mpr (Nat.lt_of_lt_of_le h (hlater run hrun)))
  have hfirst : (0x41 ≤ n && n ≤ 0x5A && (n - 0x41) % 1 == 0)
      = decide ('A'.toNat ≤ n ∧ n ≤ 'Z'.toNat) := by
    simp [Nat.mod_one]
  rw [image, htable, List.find?_cons, hnone fun run hbefore => by simp [hbefore]]
  simp only [hfirst]
  by_cases hletter : 'A'.toNat ≤ n ∧ n ≤ 'Z'.toNat
  · have hlow : 65 ≤ n := hletter.1
    simp only [hletter, and_self, decide_true, if_true]
    omega
  · simp only [hletter, decide_false, if_false]

theorem lowerChar_of_lt (h : c.toNat < 0x80) : lowerChar before after c = [c.toLower] := by
  have hsigma : c ≠ 'Σ' := fun hc => absurd h (by rw [hc]; decide)
  have hdot : c ≠ 'İ' := fun hc => absurd h (by rw [hc]; decide)
  have hascii : ∀ n < 0x80, Char.ofNat (if 'A'.toNat ≤ n ∧ n ≤ 'Z'.toNat then n + 32 else n)
      = (Char.ofNat n).toLower := by decide
  rw [lowerChar, if_neg hsigma, if_neg hdot, image_lowerTable_of_lt h, hascii _ h,
    Char.ofNat_toNat]

/-- Characters of one byte are put in lower case one by one. -/
theorem lowerFrom_of_lt {cs : List Char} (h : ∀ c ∈ cs, c.toNat < 0x80) :
    lowerFrom before cs = cs.map Char.toLower := by
  induction cs generalizing before with
  | nil => rfl
  | cons c cs ih =>
    obtain ⟨hc, hcs⟩ := List.forall_mem_cons.mp h
    rw [lowerFrom, lowerChar_of_lt hc, ih hcs]
    rfl

/-- **The lower case of a text of ASCII** is that of its characters. -/
theorem lower_of_lt {s : String} (h : s.toList.all (·.toNat < 0x80) = true) :
    lower s = String.ofList (s.toList.map Char.toLower) := by
  rw [lower, lowerFrom_of_lt fun c hc => of_decide_eq_true (List.all_eq_true.mp h c hc)]

end GuiTest.Unicode.Casing
