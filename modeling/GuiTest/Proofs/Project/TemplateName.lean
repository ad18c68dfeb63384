import GuiTest.Project.Expectations
import GuiTest.Proofs.Unicode.Casing

/-!
# Which names are read as which template

A name spells a template if, white space and case apart, it is the name that the wizard shows, with
or without the leading `Qt` (`ProjectTemplate.Spells`). What is left of a shown name without white
space, case and `Qt` is its `stem`. The stems differ, and none is empty or begins with `qt` again,
so to take one `qt` off a name, unless that is all there is, makes no two of them alike
(`normalize_eq_stem_iff`). `parse_spells` says which names are read and which are refused.
-/

namespace GuiTest.ProjectTemplate

/-- A name without its white space, in lower case. -/
def compact (name : String) : String :=
  Unicode.Casing.lower (String.ofList (name.toList.filter fun c => !Text.isBlank c))

/-- White space and case apart, a name is the one that the wizard shows for a template, or that name
without the leading `Qt`. -/
def Spells (name : String) (t : ProjectTemplate) : Prop :=
  compact name = compact t.displayName ∨ "qt" ++ compact name = compact t.displayName

/-- The second text is the first with white space put in, at any places. -/
inductive Spaced : List Char → List Char → Prop where
  | nil : Spaced [] []
  | keep {cs ds : List Char} (c : Char) : Spaced cs ds → Spaced (c :: cs) (c :: ds)
  | blank {cs ds : List Char} {c : Char} :
    Text.isBlank c = true → Spaced cs ds → Spaced cs (c :: ds)

/-! ## Stems -/

/-- What is left of the shown name without white space, case and the leading `Qt`. -/
def stem : ProjectTemplate → String
  | designerCustomWidget => "designercustomwidget"
  | consoleApplication => "consoleapplication"
  | activeQtServer => "activeqtserver"
  | quickApplication => "quickapplication"
  | emptyApplication => "emptyapplication"
  | classLibrary => "classlibrary"
  | widgetsApplication => "widgetsapplication"

theorem mem_all (t : ProjectTemplate) : t ∈ all := by
  cases t <;> decide

/-- A shown name is `qt` and the stem, white space and case apart. -/
theorem compact_displayName (t : ProjectTemplate) : compact t.displayName = "qt" ++ t.stem := by
  rw [compact, Unicode.Casing.lower_of_lt]
  · cases t <;> decide
  · cases t <;> decide

theorem stem_inj {t u : ProjectTemplate} (h : t.stem = u.stem) : t = u := by
  have hall : ∀ t ∈ all, ∀ u ∈ all, t.stem = u.stem → t = u := by decide
  exact hall t (mem_all t) u (mem_all u) h

theorem stem_ne_empty (t : ProjectTemplate) : t.stem ≠ "" := by
  cases t <;> decide

/-- No stem begins with `qt` again. -/
theorem stem_ne_append (t : ProjectTemplate) (rest : String) : t.stem ≠ "qt" ++ rest := by
  intro h
  have hdrop : Text.dropLeading? ['q', 't'] t.stem.toList = some rest.toList := by
    rw [h, String.toList_append]
    exact Text.dropLeading?_eq_some_iff.mpr rfl
  have hnone : Text.dropLeading? ['q', 't'] t.stem.toList = none := by
    cases t <;> decide
  rw [hnone] at hdrop
  cases hdrop

theorem spells_iff {name : String} {t : ProjectTemplate} :
    Spells name t ↔ compact name = t.stem ∨ compact name = "qt" ++ t.stem := by
  rw [Spells, compact_displayName, String.append_right_inj, or_comm]

/-- A name spells at most one template. -/
theorem Spells.unique {name : String} {t u : ProjectTemplate} (ht : Spells name t)
    (hu : Spells name u) : t = u := by
  rw [spells_iff] at ht hu
  rcases ht with ht | ht
  · rcases hu with hu | hu
    · exact stem_inj (ht.symm.trans hu)
    · exact absurd (ht.symm.trans hu) (t.stem_ne_append u.stem)
  · rcases hu with hu | hu
    · exact absurd (hu.symm.trans ht) (u.stem_ne_append t.stem)
    · exact stem_inj ((String.append_right_inj "qt").mp (ht.symm.trans hu))

/-! ## The form in which names are compared -/

/-- One `qt` is taken off, unless that is all there is. -/
theorem normalize_of_leading {name rest : String} (h : compact name = "qt" ++ rest)
    (hrest : rest ≠ "") : normalize name = rest := by
  have hdrop : Text.dropLeading? ['q', 't'] (compact name).toList = some rest.toList := by
    rw [h, String.toList_append]
    exact Text.dropLeading?_eq_some_iff.mpr rfl
  have hlist : String.ofList rest.toList = rest := String.ofList_toList
  rw [normalize, ← compact, hdrop]
  cases hchars : rest.toList with
  | nil => exact absurd (String.toList_eq_nil_iff.mp hchars) hrest
  | cons c cs => rw [← hlist, hchars]

/-- Any other name is compared as it is. -/
theorem normalize_of_bare {name : String} (h : ∀ rest, compact name = "qt" ++ rest → rest = "") :
    normalize name = compact name := by
  rw [normalize, ← compact]
  split
  next c rest hdrop =>
    have hlist := Text.dropLeading?_eq_some_iff.mp hdrop
    have hname : compact name = "qt" ++ String.ofList (c :: rest) := by
      rw [← String.toList_inj, hlist, String.toList_append]
      exact congrArg (['q', 't'] ++ ·) String.toList_ofList.symm
    exact absurd (congrArg String.toList (h _ hname)) (by simp)
  next => rfl

/-- **Names are compared to a template by its stem.** -/
theorem normalize_eq_stem_iff {name : String} {t : ProjectTemplate} :
    normalize name = t.stem ↔ Spells name t := by
  rw [spells_iff]
  by_cases hleading : ∃ rest, compact name = "qt" ++ rest ∧ rest ≠ ""
  · obtain ⟨rest, hname, hrest⟩ := hleading
    rw [normalize_of_leading hname hrest, hname, String.append_right_inj]
    exact ⟨.inr, fun h => h.resolve_left fun h => t.stem_ne_append rest h.symm⟩
  · have hbare : ∀ rest, compact name = "qt" ++ rest → rest = "" := fun rest hname =>
      Classical.not_not.mp fun hrest => hleading ⟨rest, hname, hrest⟩
    rw [normalize_of_bare hbare]
    exact ⟨.inl, fun h => h.resolve_right fun h => t.stem_ne_empty (hbare _ h)⟩

theorem normalize_displayName (t : ProjectTemplate) : normalize t.displayName = t.stem :=
  normalize_eq_stem_iff.mpr (.inl rfl)

/-- A name is found for just the template that it spells. -/
theorem ofName?_eq_some_iff {name : String} {t : ProjectTemplate} :
    ofName? name = some t ↔ Spells name t := by
  have hspells (u : ProjectTemplate) :
      (normalize u.displayName == normalize name) = true ↔ Spells name u := by
    rw [beq_iff_eq, normalize_displayName, eq_comm, normalize_eq_stem_iff]
  constructor
  · intro h
    have hfound := List.find?_some h
    exact (hspells t).mp hfound
  · intro h
    have hsome : (ofName? name).isSome := by
      rw [ofName?, List.find?_isSome]
      exact ⟨t, mem_all t, (hspells t).mpr h⟩
    obtain ⟨u, hu⟩ := Option.isSome_iff_exists.mp hsome
    have hfound := List.find?_some hu
    rw [hu, ((hspells u).mp hfound).unique h]

/-! ## White space -/

theorem Spaced.refl : ∀ cs : List Char, Spaced cs cs
  | [] => .nil
  | c :: cs => .keep c (refl cs)

/-- White space may be put in at one place. -/
theorem Spaced.insert {blanks : List Char} (h : ∀ c ∈ blanks, Text.isBlank c = true)
    (before after : List Char) : Spaced (before ++ after) (before ++ (blanks ++ after)) := by
  induction before with
  | nil =>
    induction blanks with
    | nil => exact .refl after
    | cons c blanks ih =>
      obtain ⟨hc, hblanks⟩ := List.forall_mem_cons.mp h
      exact .blank hc (ih hblanks)
  | cons c before ih => exact .keep c ih

/-- White space that was put in is taken out again. -/
theorem Spaced.filter_eq {cs ds : List Char} (h : Spaced cs ds) :
    (ds.filter fun c => !Text.isBlank c) = cs.filter fun c => !Text.isBlank c := by
  induction h with
  | nil => rfl
  | keep c _ ih => rw [List.filter_cons, List.filter_cons, ih]
  | blank hc _ ih => rw [List.filter_cons_of_neg (by simp [hc]), ih]

theorem Spaced.compact_eq {name spaced : String} (h : Spaced name.toList spaced.toList) :
    compact spaced = compact name := by
  rw [compact, compact, h.filter_eq]

/-! ## Reading a name -/

/-- A name is read as just the template that it spells. -/
theorem parse_eq_ok_iff {name : String} {t : ProjectTemplate} :
    parse name = .ok t ↔ Spells name t := by
  rw [← ofName?_eq_some_iff]
  unfold parse
  generalize ofName? name = found
  cases found with
  | none => simp
  | some u => simp

/-- A name is refused if it spells no template, and the fault repeats it. -/
theorem parse_eq_error_iff {name : String} {f : ProjectFault} :
    parse name = .error f ↔ (∀ t, ¬ Spells name t) ∧ f = .unknownTemplate name := by
  have hnone : (∀ t, ¬ Spells name t) ↔ ofName? name = none := by
    rw [Option.eq_none_iff_forall_ne_some]
    exact forall_congr' fun t => not_congr ofName?_eq_some_iff.symm
  rw [hnone]
  unfold parse
  generalize ofName? name = found
  cases found with
  | none => simp [eq_comm]
  | some t => simp

/-- A name spells nothing without its own part, or with more than one leading `qt`. -/
theorem not_spells {name : String} (t : ProjectTemplate)
    (h : compact name = "" ∨ compact name = "qt" ∨ ∃ rest, compact name = "qtqt" ++ rest) :
    ¬ Spells name t := by
  rw [spells_iff, not_or]
  rcases h with h | h | ⟨rest, h⟩
  · rw [h]
    exact ⟨t.stem_ne_empty.symm, fun h => absurd (congrArg String.toList h) (by simp)⟩
  · have hname : compact name = "qt" ++ "" := h
    rw [hname, String.append_right_inj]
    exact ⟨(t.stem_ne_append "").symm, t.stem_ne_empty.symm⟩
  · have hname : compact name = "qt" ++ ("qt" ++ rest) := by
      rw [h, ← String.append_assoc]
      rfl
    rw [hname, String.append_right_inj]
    exact ⟨(t.stem_ne_append _).symm, (t.stem_ne_append rest).symm⟩

/-- **A name is read as a template if and only if it spells it**, which it does for one template at
most. Any other name is refused as it was given, among them those in which nothing or only `Qt` is
left of the name, or in which `Qt` is doubled. White space that is put in changes nothing. -/
theorem parse_spells (name : String) :
    (∀ t, parse name = .ok t ↔ Spells name t)
      ∧ (∀ t u, Spells name t → Spells name u → t = u)
      ∧ (∀ f, parse name = .error f ↔ (∀ t, ¬ Spells name t) ∧ f = .unknownTemplate name)
      ∧ (compact name = "" ∨ compact name = "qt" ∨ (∃ rest, compact name = "qtqt" ++ rest) →
        parse name = .error (.unknownTemplate name))
      ∧ ∀ spaced, Spaced name.toList spaced.toList →
        ∀ t, parse spaced = .ok t ↔ parse name = .ok t := by
  refine ⟨fun t => parse_eq_ok_iff, fun t u => Spells.unique, fun f => parse_eq_error_iff, ?_, ?_⟩
  · intro h
    exact parse_eq_error_iff.mpr ⟨fun t => not_spells t h, rfl⟩
  · intro spaced h t
    rw [parse_eq_ok_iff, parse_eq_ok_iff, Spells, Spells, h.compact_eq]

/-- Lower case and an ideographic blank within the name do not count; a doubled `Qt` does. -/
theorem parse_spells_class_library :
    Spells "classLibrary" classLibrary
      ∧ Spaced "classLibrary".toList "class\u3000Library".toList
      ∧ parse "class\u3000Library" = .ok classLibrary
      ∧ compact "Qt qtClassLibrary" = "qtqt" ++ "classlibrary"
      ∧ parse "Qt qtClassLibrary" = .error (.unknownTemplate "Qt qtClassLibrary") := by
  have hcompact : compact "classLibrary" = "classlibrary" := by
    rw [compact, Unicode.Casing.lower_of_lt] <;> decide
  have hdoubled : compact "Qt qtClassLibrary" = "qtqt" ++ "classlibrary" := by
    rw [compact, Unicode.Casing.lower_of_lt] <;> decide
  have hspells : Spells "classLibrary" classLibrary := spells_iff.mpr (.inl hcompact)
  have hspaced : Spaced "classLibrary".toList "class\u3000Library".toList :=
    Spaced.insert (List.forall_mem_singleton.mpr (by decide) : ∀ c ∈ ['\u3000'], _) "class".toList
      "Library".toList
  obtain ⟨hread, -, -, -, hblanks⟩ := parse_spells "classLibrary"
  obtain ⟨-, -, -, hrefused, -⟩ := parse_spells "Qt qtClassLibrary"
  exact ⟨hspells, hspaced, (hblanks _ hspaced _).mpr ((hread _).mpr hspells), hdoubled,
    hrefused (.inr (.inr ⟨_, hdoubled⟩))⟩

end GuiTest.ProjectTemplate
