import Mathlib.Data.List.Nodup
import GuiTest.Proofs.Text.Cutting
import GuiTest.Suite.Settings

/-!
# Which lists of installations can be read

A list of installations is cut at its semicolons, less those at the end (`IsCut`). An entry
describes an installation (`Describes`) or is refused (`Refused`), where it depends on the entries
before it whether a name is free; no entry does neither (`describes_or_refused`). A list is read
entry by entry until one is refused. So it can be read if all its entries describe installations
whose names differ, and the first entry that is refused says why it cannot
(`parseInstallations_grammar`).
-/

namespace GuiTest.SuiteSettings

open Text

variable {before qts : List QtInstallation} {qt : QtInstallation} {f : Fault}
  {entry path name : List Char} {entries rest parts : List (List Char)}

/-! ## Cutting -/

/-- Entries that make a value when they are joined with semicolons and perhaps some more semicolons
are put at the end. -/
structure IsCut (value : List Char) (entries : List (List Char)) : Prop where
  ne_nil : entries ≠ []
  no_separator : ∀ entry ∈ entries, ';' ∉ entry
  /-- None of the semicolons at the end are among those that join entries. -/
  last : (joinWith [';'] entries).getLast? ≠ some ';'
  joined : ∃ n, value = joinWith [';'] entries ++ List.replicate n ';'

/-- **A value is cut in one way.** -/
theorem isCut_iff {value : List Char} :
    IsCut value entries ↔ splitBy (· == ';') (dropEndWhile (· == ';') value) = entries := by
  rw [splitBy_eq_iff]
  constructor
  · intro h
    obtain ⟨n, rfl⟩ := h.joined
    refine ⟨h.ne_nil, h.no_separator, (dropEndWhile_append (fun c hc => ?_) fun c hc => ?_).symm⟩
    · exact beq_iff_eq.mpr (List.eq_of_mem_replicate hc)
    · exact beq_false_of_ne fun heq => h.last (heq ▸ hc)
  · intro h
    obtain ⟨hne, hentries, hjoined⟩ := h
    refine ⟨hne, hentries, ?_, ?_⟩
    · rw [hjoined]
      intro hlast
      cases not_of_mem_getLast?_dropEndWhile hlast
    · rw [hjoined]
      obtain ⟨tail, hvalue, htail⟩ := exists_eq_dropEndWhile_append (· == ';') value
      have hsame : tail = List.replicate tail.length ';' :=
        List.eq_replicate_iff.mpr ⟨rfl, fun c hc => beq_iff_eq.mp (htail c hc)⟩
      exact ⟨tail.length, hsame ▸ hvalue⟩

/-! ## Names of paths -/

/-- Whether a character stands between the parts of a path. -/
def isSlash (c : Char) : Bool := c == '/' || c == '\\'

/-- The name that the parts of a path make: the last two of them, or the only one. -/
inductive NamedAfter : List (List Char) → List Char → Prop
  | only (part : List Char) : NamedAfter [part] part
  | lastTwo (outer : List (List Char)) (parent last : List Char) :
      NamedAfter (outer ++ [parent, last]) (parent ++ '_' :: last)

theorem NamedAfter.ne_nil (h : NamedAfter parts name) (hparts : ∀ part ∈ parts, part ≠ []) :
    name ≠ [] := by
  cases h with
  | only => exact hparts name List.mem_cons_self
  | lastTwo outer parent last => exact List.append_ne_nil_of_right_ne_nil _ (List.cons_ne_nil _ _)

/-- There is a name as soon as there is a part. -/
theorem NamedAfter.exists_iff : (∃ name, NamedAfter parts name) ↔ parts ≠ [] := by
  constructor
  · intro h
    obtain ⟨name, h⟩ := h
    cases h with
    | only => exact List.cons_ne_nil _ _
    | lastTwo => exact List.append_ne_nil_of_right_ne_nil _ (List.cons_ne_nil _ _)
  · intro h
    rcases List.eq_nil_or_concat parts with rfl | ⟨outer, last, rfl⟩
    · exact absurd rfl h
    rcases List.eq_nil_or_concat outer with rfl | ⟨outer, parent, rfl⟩
    · exact ⟨last, .only last⟩
    · rw [List.concat_eq_append, List.concat_eq_append, List.append_assoc]
      exact ⟨_, .lastTwo outer parent last⟩

/-- The parts of a path tell its name. -/
theorem nameOfPath?_eq_some_iff (h : Parts isSlash path parts) :
    nameOfPath? path = some name ↔ NamedAfter parts name := by
  have hpieces : (splitBy (fun c => c == '/' || c == '\\') path).filter (· ≠ []) = parts :=
    h.pieces_eq
  rw [nameOfPath?, hpieces]
  constructor
  · intro h
    split at h
    next => cases h
    next only hreverse =>
      rw [List.reverse_eq_iff] at hreverse
      obtain rfl := Option.some.inj h
      exact hreverse ▸ .only only
    next last parent outer hreverse =>
      rw [List.reverse_eq_iff, List.reverse_cons, List.reverse_cons, List.append_assoc] at hreverse
      obtain rfl := Option.some.inj h
      exact hreverse ▸ .lastTwo outer.reverse parent last
  · intro h
    cases h with
    | only => rfl
    | lastTwo outer parent last => rw [List.reverse_append]; rfl

/-- Slashes alone make no name. -/
theorem nameOfPath?_of_slashes (h : ∀ c ∈ path, isSlash c = true) : nameOfPath? path = none := by
  rw [Option.eq_none_iff_forall_ne_some]
  intro name hname
  exact NamedAfter.exists_iff.mp ⟨name, (nameOfPath?_eq_some_iff (.nil h)).mp hname⟩ rfl

/-! ## Entries -/

/-- The text is not blank. -/
def NotBlank (cs : List Char) : Prop := ∃ c ∈ cs, isBlank c = false

/-- Entries that can be read, taken by themselves: a name and a path, neither blank, with the first
`=` between them, or a path that is not made of slashes alone. -/
def WellFormed (entry : List Char) : Prop :=
  (∃ name path, entry = name ++ '=' :: path ∧ '=' ∉ name ∧ NotBlank name ∧ NotBlank path)
    ∨ ('=' ∉ entry ∧ ∃ c ∈ trimChars entry, isSlash c = false)

/-- The installation that an entry describes: it has the name that is given, or is named after its
path. -/
inductive Describes : List Char → QtInstallation → Prop
  | named {name path : List Char} (hfirst : '=' ∉ name) (hname : NotBlank name)
      (hpath : NotBlank path) :
      Describes (name ++ '=' :: path)
        ⟨String.ofList (trimChars name), String.ofList (trimChars path)⟩
  | bare {entry name : List Char} {parts : List (List Char)} (hbare : '=' ∉ entry)
      (hparts : Parts isSlash (trimChars entry) parts) (hname : NamedAfter parts name) :
      Describes entry ⟨String.ofList name, String.ofList (trimChars entry)⟩

/-- Why an entry is refused after the installations that were read before it. -/
inductive Refused (before : List QtInstallation) : List Char → Fault → Prop
  | emptyEntry {entry : List Char} (hbare : '=' ∉ entry)
      (hslashes : ∀ c ∈ trimChars entry, isSlash c = true) :
      Refused before entry (.emptyEntry before.length)
  | emptyName {name path : List Char} (hfirst : '=' ∉ name) (hname : ¬ NotBlank name) :
      Refused before (name ++ '=' :: path) (.emptyName (String.ofList (trimChars path)))
  | missingPath {name path : List Char} (hfirst : '=' ∉ name) (hname : NotBlank name)
      (hpath : ¬ NotBlank path) :
      Refused before (name ++ '=' :: path) (.missingPath (String.ofList (trimChars name)))
  | duplicateName {entry : List Char} {qt : QtInstallation} (hentry : Describes entry qt)
      (htaken : qt.name ∈ before.map (·.name)) :
      Refused before entry (.duplicateName qt.name)

theorem notBlank_iff {cs : List Char} : NotBlank cs ↔ String.ofList (trimChars cs) ≠ "" := by
  rw [Ne, String.ofList_eq_empty_iff, trimChars_eq_nil_iff, NotBlank]
  simp only [not_forall, exists_prop, Bool.not_eq_true]

/-- An entry with a name is cut at its first equals sign. -/
theorem read_named (hfirst : '=' ∉ name) (path : List Char) :
    entry? (name ++ '=' :: path)
      = some ⟨String.ofList (trimChars name), String.ofList (trimChars path)⟩ := by
  unfold entry?
  rw [splitAtFirst?_append hfirst]

/-- An entry without a name is named after its path. -/
theorem read_bare (hbare : '=' ∉ entry) :
    entry? entry = (nameOfPath? (trimChars entry)).map fun name =>
      ⟨String.ofList name, String.ofList (trimChars entry)⟩ := by
  unfold entry?
  rw [splitAtFirst?_eq_none_iff.mpr hbare]

/-- An entry is read as the installation that it describes. -/
theorem Describes.read_eq (h : Describes entry qt) : entry? entry = some qt := by
  cases h with
  | @named name path hfirst _ _ => exact read_named hfirst path
  | bare hbare hparts hname =>
    rw [read_bare hbare, (nameOfPath?_eq_some_iff hparts).mpr hname]
    rfl

/-- What is described has a name and a path. -/
theorem Describes.ne_empty (h : Describes entry qt) : qt.name ≠ "" ∧ qt.path ≠ "" := by
  cases h with
  | named _ hname hpath => exact ⟨notBlank_iff.mp hname, notBlank_iff.mp hpath⟩
  | @bare _ name _ _ hparts hname =>
    have hne : name ≠ [] := hname.ne_nil fun part => hparts.ne_nil_of_mem
    refine ⟨mt String.ofList_eq_empty_iff.mp hne, mt String.ofList_eq_empty_iff.mp fun hnil => ?_⟩
    -- An empty path has no parts, so it has no name.
    rw [hnil] at hparts
    exact NamedAfter.exists_iff.mp ⟨name, hname⟩ (hparts.eq_nil_iff.mpr nofun)

/-- An entry describes one installation at most. -/
theorem Describes.unique : Relator.RightUnique Describes := by
  intro entry qt other hqt hother
  exact Option.some.inj (hqt.read_eq.symm.trans hother.read_eq)

theorem wellFormed_iff : WellFormed entry ↔ ∃ qt, Describes entry qt := by
  constructor
  · intro h
    rcases h with ⟨name, path, rfl, hfirst, hname, hpath⟩ | ⟨hbare, c, hc, hslash⟩
    · exact ⟨_, .named hfirst hname hpath⟩
    · obtain ⟨parts, hparts⟩ := Parts.exists_parts isSlash (trimChars entry)
      have hne : parts ≠ [] := fun hnil => by
        cases (hparts.eq_nil_iff.mp hnil c hc).symm.trans hslash
      obtain ⟨name, hname⟩ := NamedAfter.exists_iff.mpr hne
      exact ⟨_, .bare hbare hparts hname⟩
  · intro h
    obtain ⟨qt, h⟩ := h
    cases h with
    | @named name path hfirst hname hpath => exact Or.inl ⟨name, path, rfl, hfirst, hname, hpath⟩
    | bare hbare hparts hname =>
      refine Or.inr ⟨hbare, ?_⟩
      by_contra hslashes
      simp only [not_exists, not_and, Bool.not_eq_false] at hslashes
      exact NamedAfter.exists_iff.mp ⟨_, hname⟩ (hparts.eq_nil_iff.mpr hslashes)

/-- **An entry describes an installation with a free name, or it is refused.** -/
theorem describes_or_refused (before : List QtInstallation) (entry : List Char) :
    (∃ qt, Describes entry qt ∧ qt.name ∉ before.map (·.name)) ∨ ∃ f, Refused before entry f := by
  by_cases hwell : WellFormed entry
  · obtain ⟨qt, hqt⟩ := wellFormed_iff.mp hwell
    by_cases htaken : qt.name ∈ before.map (·.name)
    · exact Or.inr ⟨_, .duplicateName hqt htaken⟩
    · exact Or.inl ⟨qt, hqt, htaken⟩
  · refine Or.inr ?_
    obtain ⟨hnamed, hbare⟩ := not_or.mp hwell
    by_cases hmem : '=' ∈ entry
    · obtain ⟨name, path, rfl, hfirst⟩ := List.eq_append_cons_of_mem hmem
      by_cases hname : NotBlank name
      · have hpath : ¬ NotBlank path := fun hpath => hnamed ⟨name, path, rfl, hfirst, hname, hpath⟩
        exact ⟨_, .missingPath hfirst hname hpath⟩
      · exact ⟨_, .emptyName hfirst hname⟩
    · refine ⟨_, .emptyEntry hmem fun c hc => ?_⟩
      by_contra hslash
      exact hbare ⟨hmem, c, hc, eq_false_of_ne_true hslash⟩

/-! ## Lists of entries -/

/-- A name is taken if an installation before bears it. -/
theorem any_name_iff {name : String} :
    (before.any fun other => other.name == name) = true ↔ name ∈ before.map (·.name) := by
  rw [List.any_eq_true, List.mem_map]
  simp only [beq_iff_eq]

/-- An entry with a free name is read, and then the rest. -/
theorem readEntries_of_describes (hentry : Describes entry qt)
    (hfree : qt.name ∉ before.map (·.name)) (rest : List (List Char)) :
    readEntries before (entry :: rest) = readEntries (before ++ [qt]) rest := by
  obtain ⟨hname, hpath⟩ := hentry.ne_empty
  rw [readEntries, hentry.read_eq]
  dsimp only
  rw [if_neg hname, if_neg hpath, if_neg (mt any_name_iff.mp hfree)]

/-- An entry that is refused ends the reading. -/
theorem readEntries_of_refused (h : Refused before entry f) (rest : List (List Char)) :
    readEntries before (entry :: rest) = .error f := by
  rw [readEntries]
  cases h with
  | emptyEntry hbare hslashes =>
    rw [read_bare hbare, nameOfPath?_of_slashes hslashes]
    rfl
  | @emptyName name path hfirst hname =>
    rw [read_named hfirst]
    exact if_pos (not_not.mp (mt notBlank_iff.mpr hname))
  | @missingPath name path hfirst hname hpath =>
    rw [read_named hfirst]
    dsimp only
    rw [if_neg (notBlank_iff.mp hname), if_pos (not_not.mp (mt notBlank_iff.mpr hpath))]
  | duplicateName hentry htaken =>
    obtain ⟨hname, hpath⟩ := hentry.ne_empty
    rw [hentry.read_eq]
    dsimp only
    rw [if_neg hname, if_neg hpath, if_pos (any_name_iff.mpr htaken)]

/-- Where names differ, the name of the next one is free. -/
theorem not_mem_names (h : ((before ++ [qt] ++ qts).map (·.name)).Nodup) :
    qt.name ∉ before.map (·.name) := by
  rw [List.append_assoc, List.map_append, List.nodup_append] at h
  exact fun hmem => h.2.2 _ hmem _ List.mem_cons_self rfl

/-- Entries are read as what they describe, as long as the names differ. -/
theorem readEntries_append (before : List QtInstallation)
    (hall : List.Forall₂ Describes entries qts)
    (hnames : ((before ++ qts).map (·.name)).Nodup) (rest : List (List Char)) :
    readEntries before (entries ++ rest) = readEntries (before ++ qts) rest := by
  induction hall generalizing before with
  | nil => rw [List.nil_append, List.append_nil]
  | @cons entry qt entries qts hentry _ ih =>
    rw [List.append_cons] at hnames ⊢
    rw [List.cons_append, readEntries_of_describes hentry (not_mem_names hnames), ih _ hnames]

/-- All entries are read, or there is a first one that is refused. -/
theorem all_described_or_refused (before : List QtInstallation) (entries : List (List Char))
    (hnames : (before.map (·.name)).Nodup) :
    (∃ qts, List.Forall₂ Describes entries qts ∧ ((before ++ qts).map (·.name)).Nodup)
      ∨ ∃ good entry rest qts f, entries = good ++ entry :: rest ∧ List.Forall₂ Describes good qts
        ∧ ((before ++ qts).map (·.name)).Nodup ∧ Refused (before ++ qts) entry f := by
  induction entries generalizing before with
  | nil => exact Or.inl ⟨[], .nil, by rwa [List.append_nil]⟩
  | cons entry entries ih =>
    rcases describes_or_refused before entry with ⟨qt, hentry, hfree⟩ | ⟨f, hrefused⟩
    · have hnext : ((before ++ [qt]).map (·.name)).Nodup := by
        rw [List.map_append, List.nodup_append_comm]
        exact List.nodup_cons.mpr ⟨hfree, hnames⟩
      rcases ih (before ++ [qt]) hnext with
        ⟨qts, hall, hnames⟩ | ⟨good, bad, rest, qts, f, rfl, hgood, hnames, hrefused⟩
      · rw [← List.append_cons] at hnames
        exact Or.inl ⟨qt :: qts, .cons hentry hall, hnames⟩
      · rw [← List.append_cons] at hnames hrefused
        exact Or.inr ⟨entry :: good, bad, rest, qt :: qts, f, rfl, .cons hentry hgood, hnames,
          hrefused⟩
    · rw [← List.append_nil before] at hnames hrefused
      exact Or.inr ⟨[], entry, entries, [], f, rfl, .nil, hnames, hrefused⟩

theorem forall_wellFormed_iff :
    (∀ entry ∈ entries, WellFormed entry) ↔ ∃ qts, List.Forall₂ Describes entries qts := by
  induction entries with
  | nil => exact iff_of_true nofun ⟨[], .nil⟩
  | cons entry entries ih =>
    rw [List.forall_mem_cons, ih, wellFormed_iff]
    constructor
    · intro h
      obtain ⟨⟨qt, hentry⟩, qts, hall⟩ := h
      exact ⟨qt :: qts, .cons hentry hall⟩
    · intro h
      obtain ⟨_, hall⟩ := h
      obtain ⟨qt, qts, hentry, hall, -⟩ := List.forall₂_cons_left_iff.mp hall
      exact ⟨⟨qt, hentry⟩, qts, hall⟩

/-- No installation that is described is without a name or a path. -/
theorem ne_empty_of_forall₂ (h : List.Forall₂ Describes entries qts) :
    ∀ qt ∈ qts, qt.name ≠ "" ∧ qt.path ≠ "" := by
  induction h with
  | nil => exact nofun
  | cons hentry _ ih => exact List.forall_mem_cons.mpr ⟨hentry.ne_empty, ih⟩

/-- Entries are read if they all describe installations, with different names. -/
theorem readEntries_eq_ok_iff :
    readEntries [] entries = .ok qts ↔
      List.Forall₂ Describes entries qts ∧ (qts.map (·.name)).Nodup := by
  have hread {qts : List QtInstallation} (hall : List.Forall₂ Describes entries qts)
      (hnames : (qts.map (·.name)).Nodup) : readEntries [] entries = .ok qts := by
    rw [← List.append_nil entries, readEntries_append [] hall hnames]
    rfl
  constructor
  · intro h
    rcases all_described_or_refused [] entries List.nodup_nil with
      ⟨qts', hall, hnames⟩ | ⟨good, entry, rest, qts', f, rfl, hgood, hnames, hrefused⟩
    · obtain rfl := Except.ok.inj (h.symm.trans (hread hall hnames))
      exact ⟨hall, hnames⟩
    · rw [readEntries_append [] hgood hnames, readEntries_of_refused hrefused] at h
      cases h
  · intro h
    exact hread h.1 h.2

/-- If not, the first entry that is refused says why. -/
theorem readEntries_eq_error_iff :
    readEntries [] entries = .error f ↔
      ∃ good entry rest qts, entries = good ++ entry :: rest ∧ List.Forall₂ Describes good qts
        ∧ (qts.map (·.name)).Nodup ∧ Refused qts entry f := by
  constructor
  · intro h
    rcases all_described_or_refused [] entries List.nodup_nil with
      ⟨qts, hall, hnames⟩ | ⟨good, entry, rest, qts, f', rfl, hgood, hnames, hrefused⟩
    · cases h.symm.trans (readEntries_eq_ok_iff.mpr ⟨hall, hnames⟩)
    · rw [readEntries_append [] hgood hnames, readEntries_of_refused hrefused] at h
      obtain rfl := Except.error.inj h
      exact ⟨good, entry, rest, qts, rfl, hgood, hnames, hrefused⟩
  · intro h
    obtain ⟨good, entry, rest, qts, rfl, hgood, hnames, hrefused⟩ := h
    rw [readEntries_append [] hgood hnames]
    exact readEntries_of_refused hrefused rest

/-- **The lists of installations that can be read**, and why others cannot. A value is cut into
entries in one way. It can be read if each entry is well formed and the names that the entries make
differ; then each entry makes the installation that it describes. If not, the first entry that is
refused says why. -/
theorem parseInstallations_grammar (value : String) :
    ∃ entries, (∀ pieces, IsCut value.toList pieces ↔ pieces = entries)
      ∧ ((∃ qts, parseInstallations value = .ok qts) ↔
          (∀ entry ∈ entries, WellFormed entry)
            ∧ ∀ qts, List.Forall₂ Describes entries qts → (qts.map (·.name)).Nodup)
      ∧ (∀ qts, parseInstallations value = .ok qts →
          List.Forall₂ Describes entries qts ∧ (qts.map (·.name)).Nodup
            ∧ ∀ qt ∈ qts, qt.name ≠ "" ∧ qt.path ≠ "")
      ∧ ∀ f, parseInstallations value = .error f ↔
          ∃ good entry rest qts, entries = good ++ entry :: rest ∧ List.Forall₂ Describes good qts
            ∧ (qts.map (·.name)).Nodup ∧ Refused qts entry f := by
  refine ⟨splitBy (· == ';') (dropEndWhile (· == ';') value.toList),
    fun pieces => isCut_iff.trans eq_comm, ?_, fun qts h => ?_, fun f => readEntries_eq_error_iff⟩
  · rw [forall_wellFormed_iff]
    constructor
    · intro h
      obtain ⟨qts, h⟩ := h
      obtain ⟨hall, hnames⟩ := readEntries_eq_ok_iff.mp h
      -- Entries describe one list of installations only, so its names are meant.
      refine ⟨⟨qts, hall⟩, fun qts' hall' => ?_⟩
      rwa [List.right_unique_forall₂' Describes.unique hall' hall]
    · intro h
      obtain ⟨⟨qts, hall⟩, hnames⟩ := h
      exact ⟨qts, readEntries_eq_ok_iff.mpr ⟨hall, hnames qts hall⟩⟩
  · obtain ⟨hall, hnames⟩ := readEntries_eq_ok_iff.mp h
    exact ⟨hall, hnames, ne_empty_of_forall₂ hall⟩

/-- A slash alone is no installation, and what is wrong with later entries does not matter. -/
example : parseInstallations "qt=C:\\Qt=6; D:/Qt\\6.5// ; / ;qt=;;" = .error (.emptyEntry 2) := by
  decide

end GuiTest.SuiteSettings
