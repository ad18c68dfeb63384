import Mathlib.Data.List.Induction
import Mathlib.Data.List.Nodup
import GuiTest.Suite.Settings

/-!
# Variables do not depend on each other

Which settings a list of variables makes is told by the entries that count (`Counts`): those of the
three variables whose values are not blank. Each of them can be read or not, whatever stands around
it (`Readable`, `Unreadable`). The settings hold for each variable what its last value says
(`Holds`), and the first value that cannot be read is the fault, also where a later one would
replace it. So the order of the entries matters only where a variable comes more than once
(`ofVariables_last_values`).
-/

namespace GuiTest.SuiteSettings

variable {entries others : List (String × String)} {entry : String × String}
  {name value : String} {s s' : SuiteSettings} {f : Fault}

/-! ## Entries -/

/-- The entry is for one of the three variables, and its value is not blank. -/
def Counts (entry : String × String) : Prop :=
  entry.1 ∈ [installationsVariable, workdirVariable, versionVariable] ∧ Text.trim entry.2 ≠ ""

instance : DecidablePred Counts := fun entry =>
  inferInstanceAs (Decidable (entry.1 ∈ _ ∧ Text.trim entry.2 ≠ ""))

/-- The entries that count. -/
def counting (entries : List (String × String)) : List (String × String) :=
  entries.filter fun entry => Counts entry

/-- The value can be read by itself, if it must be read at all. -/
structure Readable (entry : String × String) : Prop where
  installations : entry.1 = installationsVariable →
    ∃ qts, parseInstallations (Text.trim entry.2) = .ok qts
  ideVersion : entry.1 = versionVariable →
    ∃ version, IdeVersion.parse? (Text.trim entry.2) = some version

/-- The value cannot be read by itself, for a reason. -/
inductive Unreadable (entry : String × String) : Fault → Prop
  | installations {f : Fault} (hname : entry.1 = installationsVariable)
      (h : parseInstallations (Text.trim entry.2) = .error f) : Unreadable entry f
  | ideVersion (hname : entry.1 = versionVariable)
      (h : IdeVersion.parse? (Text.trim entry.2) = none) :
      Unreadable entry (.invalidVersion (Text.trim entry.2))

theorem installationsVariable_ne_versionVariable : installationsVariable ≠ versionVariable := by
  decide

/-- A value that cannot be read is not one that can. -/
theorem Unreadable.not_readable (h : Unreadable entry f) : ¬ Readable entry := by
  intro hreadable
  cases h with
  | installations hname h =>
    obtain ⟨qts, hqts⟩ := hreadable.installations hname
    cases h.symm.trans hqts
  | ideVersion hname h =>
    obtain ⟨version, hversion⟩ := hreadable.ideVersion hname
    cases h.symm.trans hversion

/-- A value cannot be read for one reason only. -/
theorem Unreadable.unique {f' : Fault} (h : Unreadable entry f) (h' : Unreadable entry f') :
    f = f' := by
  have hne := installationsVariable_ne_versionVariable
  cases h with
  | installations hname h =>
    cases h' with
    | installations _ h' => exact Except.error.inj (h.symm.trans h')
    | ideVersion hname' _ => exact absurd (hname.symm.trans hname') hne
  | ideVersion hname _ =>
    cases h' with
    | installations hname' _ => exact absurd (hname'.symm.trans hname) hne
    | ideVersion => rfl

/-! ## Taking in one entry -/

/-- An entry that does not count changes nothing. -/
theorem set_of_not_counts (h : ¬ Counts (name, value)) (s : SuiteSettings) :
    s.set name value = .ok s := by
  rw [set]
  by_cases hblank : Text.trim value = ""
  · exact if_pos hblank
  · have hname : name ∉ [installationsVariable, workdirVariable, versionVariable] :=
      fun hname => h ⟨hname, hblank⟩
    simp only [List.mem_cons, List.not_mem_nil, or_false, not_or] at hname
    obtain ⟨hinstallations, hworkdir, hversion⟩ := hname
    rw [if_neg hblank, if_neg hinstallations, if_neg hworkdir, if_neg hversion]

/-- A list of installations replaces the one before, or is the fault. -/
theorem set_installations (h : Text.trim value ≠ "") (s : SuiteSettings) :
    s.set installationsVariable value
      = (parseInstallations (Text.trim value)).map
          fun installations => { s with installations } := by
  rw [set, if_neg h, if_pos rfl]

theorem set_workdir (h : Text.trim value ≠ "") (s : SuiteSettings) :
    s.set workdirVariable value = .ok { s with workdir := some (Text.trim value) } := by
  rw [set, if_neg h, if_neg (by decide), if_pos rfl]

/-- A version replaces the one before. -/
theorem set_version_of_some {version : UInt32} (h : Text.trim value ≠ "")
    (hversion : IdeVersion.parse? (Text.trim value) = some version) (s : SuiteSettings) :
    s.set versionVariable value = .ok { s with ideVersion := some version } := by
  rw [set, if_neg h, if_neg (by decide), if_neg (by decide), if_pos rfl, hversion]

/-- A version that cannot be read is the fault. -/
theorem set_version_of_none (h : Text.trim value ≠ "")
    (hversion : IdeVersion.parse? (Text.trim value) = none) (s : SuiteSettings) :
    s.set versionVariable value = .error (.invalidVersion (Text.trim value)) := by
  rw [set, if_neg h, if_neg (by decide), if_neg (by decide), if_pos rfl, hversion]

/-- An entry that counts is taken in, or it is the fault; which of them does not depend on what was
taken in before. -/
theorem set_or_unreadable (h : Counts entry) (s : SuiteSettings) :
    (Readable entry ∧ ∃ s', s.set entry.1 entry.2 = .ok s')
      ∨ ∃ f, Unreadable entry f ∧ s.set entry.1 entry.2 = .error f := by
  obtain ⟨name, value⟩ := entry
  obtain ⟨hname, hvalue⟩ := h
  simp only [List.mem_cons, List.not_mem_nil, or_false] at hname
  have hne := installationsVariable_ne_versionVariable
  rcases hname with rfl | rfl | rfl
  · rw [set_installations hvalue]
    cases hqts : parseInstallations (Text.trim value) with
    | ok qts => exact Or.inl ⟨⟨fun _ => ⟨qts, hqts⟩, fun heq => absurd heq hne⟩, _, rfl⟩
    | error f => exact Or.inr ⟨f, .installations rfl hqts, rfl⟩
  · have hinstallations : workdirVariable ≠ installationsVariable := by decide
    have hversion : workdirVariable ≠ versionVariable := by decide
    exact Or.inl ⟨⟨fun heq => absurd heq hinstallations, fun heq => absurd heq hversion⟩, _,
      set_workdir hvalue s⟩
  · cases hversion : IdeVersion.parse? (Text.trim value) with
    | some version =>
      exact Or.inl ⟨⟨fun heq => absurd heq.symm hne, fun _ => ⟨version, hversion⟩⟩, _,
        set_version_of_some hvalue hversion s⟩
    | none => exact Or.inr ⟨_, .ideVersion rfl hversion, set_version_of_none hvalue hversion s⟩

/-! ## Taking in all entries -/

/-- Entries that do not count change nothing. -/
theorem setAll_counting (s : SuiteSettings) (entries : List (String × String)) :
    s.setAll (counting entries) = s.setAll entries := by
  induction entries generalizing s with
  | nil => rfl
  | cons entry entries ih =>
    obtain ⟨name, value⟩ := entry
    by_cases hcounts : Counts (name, value)
    · have hfilter : counting ((name, value) :: entries) = (name, value) :: counting entries :=
        List.filter_cons_of_pos (decide_eq_true hcounts)
      rw [hfilter, setAll, setAll]
      cases s.set name value with
      | ok s => exact ih s
      | error f => rfl
    · have hfilter : counting ((name, value) :: entries) = counting entries :=
        List.filter_cons_of_neg (by simpa using hcounts)
      rw [hfilter, setAll, set_of_not_counts hcounts]
      exact ih s

/-- All entries are taken in, or there is a first one that cannot be read. -/
theorem setAll_cases (hcounts : ∀ entry ∈ entries, Counts entry) (s : SuiteSettings) :
    ((∀ entry ∈ entries, Readable entry) ∧ ∃ s', s.setAll entries = .ok s')
      ∨ ∃ before entry after f, entries = before ++ entry :: after
        ∧ (∀ entry ∈ before, Readable entry) ∧ Unreadable entry f
        ∧ s.setAll entries = .error f := by
  induction entries generalizing s with
  | nil => exact Or.inl ⟨nofun, s, rfl⟩
  | cons entry entries ih =>
    obtain ⟨hfirst, hrest⟩ := List.forall_mem_cons.mp hcounts
    rw [setAll]
    rcases set_or_unreadable hfirst s with ⟨hreadable, s₁, hset⟩ | ⟨f, hunreadable, hset⟩
    · rw [hset]
      rcases ih hrest s₁ with ⟨hall, hok⟩ | ⟨before, bad, after, f, rfl, hbefore, hbad, herror⟩
      · exact Or.inl ⟨List.forall_mem_cons.mpr ⟨hreadable, hall⟩, hok⟩
      · exact Or.inr ⟨entry :: before, bad, after, f, rfl,
          List.forall_mem_cons.mpr ⟨hreadable, hbefore⟩, hbad, herror⟩
    · rw [hset]
      exact Or.inr ⟨[], entry, entries, f, rfl, nofun, hunreadable, rfl⟩

/-- The first value that cannot be read is the fault, whatever comes after it. -/
theorem setAll_of_unreadable {before after : List (String × String)}
    (hcounts : ∀ other ∈ before ++ entry :: after, Counts other)
    (hbefore : ∀ other ∈ before, Readable other) (hentry : Unreadable entry f)
    (s : SuiteSettings) : s.setAll (before ++ entry :: after) = .error f := by
  induction before generalizing s with
  | nil =>
    rw [List.nil_append, setAll]
    rcases set_or_unreadable (hcounts entry List.mem_cons_self) s with
      ⟨hreadable, -⟩ | ⟨f', hunreadable, hset⟩
    · exact absurd hreadable hentry.not_readable
    · rw [hset, hunreadable.unique hentry]
  | cons first before ih =>
    obtain ⟨hfirst, hrest⟩ := List.forall_mem_cons.mp hcounts
    obtain ⟨hreadable, hbefore⟩ := List.forall_mem_cons.mp hbefore
    rw [List.cons_append, setAll]
    rcases set_or_unreadable hfirst s with ⟨-, s₁, hset⟩ | ⟨f', hunreadable, -⟩
    · rw [hset]
      exact ih hrest hbefore s₁
    · exact absurd hreadable hunreadable.not_readable

/-- Entries that are taken in are taken in one after the other. -/
theorem exists_setAll_concat (h : s.setAll (entries ++ [entry]) = .ok s') :
    ∃ s₁, s.setAll entries = .ok s₁ ∧ s₁.set entry.1 entry.2 = .ok s' := by
  induction entries generalizing s with
  | nil =>
    rw [List.nil_append, setAll] at h
    cases hset : s.set entry.1 entry.2 with
    | ok s₁ =>
      rw [hset] at h
      exact ⟨s, rfl, hset.trans h⟩
    | error f =>
      rw [hset] at h
      cases h
  | cons first entries ih =>
    rw [List.cons_append, setAll] at h
    rw [setAll]
    cases hset : s.set first.1 first.2 with
    | ok s₁ =>
      rw [hset] at h
      exact ih h
    | error f =>
      rw [hset] at h
      cases h

/-! ## Last values -/

/-- The last value of a variable, trimmed. -/
def lastValue? (entries : List (String × String)) (name : String) : Option String :=
  ((entries.filter fun entry => entry.1 = name).getLast?).map fun entry => Text.trim entry.2

theorem lastValue?_concat_self (entries : List (String × String)) (name value : String) :
    lastValue? (entries ++ [(name, value)]) name = some (Text.trim value) := by
  have hkept : [(name, value)].filter (fun entry => entry.1 = name) = [(name, value)] :=
    List.filter_cons_of_pos (decide_eq_true rfl)
  rw [lastValue?, List.filter_append, hkept, List.getLast?_concat]
  rfl

theorem lastValue?_concat_other {other : String} (h : other ≠ name) :
    lastValue? (entries ++ [(other, value)]) name = lastValue? entries name := by
  have hdropped : [(other, value)].filter (fun entry => entry.1 = name) = [] :=
    List.filter_cons_of_neg (by simpa using h)
  rw [lastValue?, List.filter_append, hdropped, List.append_nil, lastValue?]

/-- The settings hold for each variable what its last value says, or the default if it has none. -/
structure Holds (entries : List (String × String)) (s : SuiteSettings) : Prop where
  installations : (lastValue? entries installationsVariable).elim (.ok []) parseInstallations
    = .ok s.installations
  workdir : s.workdir = lastValue? entries workdirVariable
  ideVersion : s.ideVersion = (lastValue? entries versionVariable).bind IdeVersion.parse?

/-- Entries hold one setting each. -/
theorem Holds.unique (h : Holds entries s) (h' : Holds entries s') : s = s' := by
  have hinstallations : s.installations = s'.installations :=
    Except.ok.inj (h.installations.symm.trans h'.installations)
  have hworkdir : s.workdir = s'.workdir := h.workdir.trans h'.workdir.symm
  have hversion : s.ideVersion = s'.ideVersion := h.ideVersion.trans h'.ideVersion.symm
  cases s
  cases s'
  cases hinstallations
  cases hworkdir
  cases hversion
  rfl

/-- The value that is taken in last is the last value of its variable; the other two keep theirs. -/
theorem Holds.concat (h : Holds entries s) (hcounts : Counts entry)
    (hset : s.set entry.1 entry.2 = .ok s') : Holds (entries ++ [entry]) s' := by
  obtain ⟨name, value⟩ := entry
  obtain ⟨hname, hvalue⟩ := hcounts
  dsimp only at hname hvalue hset
  simp only [List.mem_cons, List.not_mem_nil, or_false] at hname
  -- The entry is the last one of its own variable, and nothing to the other two.
  rcases hname with rfl | rfl | rfl
  · rw [set_installations hvalue] at hset
    cases hqts : parseInstallations (Text.trim value) with
    | error f =>
      rw [hqts] at hset
      cases hset
    | ok qts =>
      rw [hqts] at hset
      cases hset
      refine ⟨?_, ?_, ?_⟩
      · rw [lastValue?_concat_self, Option.elim_some, hqts]
      · rw [lastValue?_concat_other (by decide)]
        exact h.workdir
      · rw [lastValue?_concat_other (by decide)]
        exact h.ideVersion
  · rw [set_workdir hvalue] at hset
    cases hset
    refine ⟨?_, ?_, ?_⟩
    · rw [lastValue?_concat_other (by decide)]
      exact h.installations
    · rw [lastValue?_concat_self]
    · rw [lastValue?_concat_other (by decide)]
      exact h.ideVersion
  · cases hversion : IdeVersion.parse? (Text.trim value) with
    | none =>
      rw [set_version_of_none hvalue hversion] at hset
      cases hset
    | some version =>
      rw [set_version_of_some hvalue hversion] at hset
      cases hset
      refine ⟨?_, ?_, ?_⟩
      · rw [lastValue?_concat_other (by decide)]
        exact h.installations
      · rw [lastValue?_concat_other (by decide)]
        exact h.workdir
      · rw [lastValue?_concat_self, Option.bind_some, hversion]

/-- Settings that are taken in hold what the entries say last. -/
theorem holds_of_setAll (hcounts : ∀ entry ∈ entries, Counts entry)
    (h : setAll {} entries = .ok s) : Holds entries s := by
  -- Entries are taken in from the first on, so the last of them is the one that is added.
  induction entries using List.reverseRecOn generalizing s with
  | nil =>
    cases h
    exact ⟨rfl, rfl, rfl⟩
  | append_singleton entries entry ih =>
    obtain ⟨s₁, hall, hset⟩ := exists_setAll_concat h
    have hentries : ∀ entry ∈ entries, Counts entry :=
      fun other hother => hcounts other (List.mem_append_left _ hother)
    have hentry : Counts entry := hcounts entry (List.mem_append_right _ List.mem_cons_self)
    exact (ih hentries hall).concat hentry hset

/-! ## Order -/

/-- A variable that comes once has the same last value in any order. -/
theorem lastValue?_perm (h : entries.Perm others) (hnames : (entries.map Prod.fst).Nodup)
    (name : String) : lastValue? entries name = lastValue? others name := by
  have hperm : (entries.filter fun entry => entry.1 = name).Perm
      (others.filter fun entry => entry.1 = name) := h.filter _
  have hlength : (entries.filter fun entry => entry.1 = name).length ≤ 1 := by
    have hcount := List.nodup_iff_count_le_one.mp hnames name
    rwa [List.count, List.countP_map, List.countP_eq_length_filter] at hcount
  rcases Nat.le_one_iff_eq_zero_or_eq_one.mp hlength with hnone | hone
  · rw [List.length_eq_zero_iff.mp hnone] at hperm
    rw [lastValue?, lastValue?, List.length_eq_zero_iff.mp hnone, List.nil_perm.mp hperm]
  · obtain ⟨entry, hentry⟩ := List.length_eq_one_iff.mp hone
    rw [hentry] at hperm
    rw [lastValue?, lastValue?, hentry, List.singleton_perm.mp hperm]

theorem counting_perm (h : entries.Perm others) : (counting entries).Perm (counting others) :=
  h.filter _

/-- The order of the entries does not matter if no variable comes twice. -/
theorem Holds.perm (h : Holds entries s) (hperm : entries.Perm others)
    (hnames : (entries.map Prod.fst).Nodup) : Holds others s := by
  have hsame := lastValue?_perm hperm hnames
  exact ⟨hsame _ ▸ h.installations, hsame _ ▸ h.workdir, hsame _ ▸ h.ideVersion⟩

theorem counts_of_mem_counting (h : entry ∈ counting entries) : Counts entry :=
  of_decide_eq_true (List.mem_filter.mp h).2

/-- **Which settings a list of variables makes.** All values that count can be read, and the last
ones hold. -/
theorem ofVariables_eq_ok_iff :
    ofVariables entries = .ok s
      ↔ (∀ entry ∈ counting entries, Readable entry) ∧ Holds (counting entries) s := by
  rw [ofVariables, ← setAll_counting]
  constructor
  · intro h
    refine ⟨?_, holds_of_setAll (fun _ => counts_of_mem_counting) h⟩
    rcases setAll_cases (fun _ => counts_of_mem_counting) {} with
      ⟨hreadable, -⟩ | ⟨-, -, -, f, -, -, -, herror⟩
    · exact hreadable
    · cases h.symm.trans herror
  · intro h
    obtain ⟨hreadable, hholds⟩ := h
    rcases setAll_cases (fun _ => counts_of_mem_counting) {} with
      ⟨-, s', hok⟩ | ⟨before, entry, after, f, hentries, -, hunreadable, -⟩
    · rw [hok, hholds.unique (holds_of_setAll (fun _ => counts_of_mem_counting) hok)]
    · exact absurd (hreadable entry (by simp [hentries])) hunreadable.not_readable

/-- **Which fault a list of variables has.** It is that of the first value that cannot be read. -/
theorem ofVariables_eq_error_iff :
    ofVariables entries = .error f
      ↔ ∃ before entry after, counting entries = before ++ entry :: after
        ∧ (∀ entry ∈ before, Readable entry) ∧ Unreadable entry f := by
  rw [ofVariables, ← setAll_counting]
  constructor
  · intro h
    rcases setAll_cases (fun _ => counts_of_mem_counting) {} with
      ⟨-, s', hok⟩ | ⟨before, entry, after, f', hentries, hbefore, hunreadable, herror⟩
    · cases h.symm.trans hok
    · obtain rfl := Except.error.inj (h.symm.trans herror)
      exact ⟨before, entry, after, hentries, hbefore, hunreadable⟩
  · intro h
    obtain ⟨before, entry, after, hentries, hbefore, hunreadable⟩ := h
    have hcounts : ∀ entry ∈ counting entries, Counts entry := fun _ => counts_of_mem_counting
    rw [hentries] at hcounts ⊢
    exact setAll_of_unreadable hcounts hbefore hunreadable {}

/-- In another order, the same settings are read, if no variable comes twice. -/
theorem ofVariables_perm (h : entries.Perm others) (hnames : (entries.map Prod.fst).Nodup)
    (hok : ofVariables entries = .ok s) : ofVariables others = .ok s := by
  obtain ⟨hreadable, hholds⟩ := ofVariables_eq_ok_iff.mp hok
  have hsame := counting_perm h
  have hcounting : ((counting entries).map Prod.fst).Nodup :=
    hnames.sublist (List.filter_sublist.map Prod.fst)
  exact ofVariables_eq_ok_iff.mpr
    ⟨fun entry hentry => hreadable entry (hsame.mem_iff.mpr hentry), hholds.perm hsame hcounting⟩

/-- **Variables are read independently of each other.** Only the values that count matter. The
settings can be made if each of them can be read by itself, and then hold what the last value of
each variable says; if not, the first value that cannot be read is the fault. Where no name comes
twice, the order does not matter to whether there are settings and to what they are. -/
theorem ofVariables_last_values (entries : List (String × String)) :
    ofVariables (counting entries) = ofVariables entries
      ∧ ((∃ s, ofVariables entries = .ok s) ↔ ∀ entry ∈ counting entries, Readable entry)
      ∧ (∀ s, ofVariables entries = .ok s → Holds (counting entries) s)
      ∧ (∀ f, ofVariables entries = .error f ↔
          ∃ before entry after, counting entries = before ++ entry :: after
            ∧ (∀ entry ∈ before, Readable entry) ∧ Unreadable entry f)
      ∧ ((entries.map Prod.fst).Nodup → ∀ others, entries.Perm others →
          ∀ s, ofVariables entries = .ok s ↔ ofVariables others = .ok s) := by
  refine ⟨setAll_counting {} entries, ⟨fun h => ?_, fun hreadable => ?_⟩, fun s h => ?_,
    fun f => ofVariables_eq_error_iff, fun hnames others hperm s => ⟨fun h => ?_, fun h => ?_⟩⟩
  · obtain ⟨s, hs⟩ := h
    exact (ofVariables_eq_ok_iff.mp hs).1
  · cases h : ofVariables entries with
    | ok s => exact ⟨s, rfl⟩
    | error f =>
      obtain ⟨before, entry, after, hentries, -, hunreadable⟩ := ofVariables_eq_error_iff.mp h
      exact absurd (hreadable entry (by simp [hentries])) hunreadable.not_readable
  · exact (ofVariables_eq_ok_iff.mp h).2
  · exact ofVariables_perm hperm hnames h
  · exact ofVariables_perm hperm.symm ((hperm.map Prod.fst).nodup_iff.mp hnames) h

/-- Three variables and a foreign one, in two orders. -/
theorem ofVariables_last_values_reversed :
    let entries := [("PATH", "/usr/bin"), (workdirVariable, " /work "), (versionVariable, "17.9"),
      (installationsVariable, "a=/x;C:\\Qt\\6.5.3;")]
    (entries.map Prod.fst).Nodup
      ∧ ofVariables entries.reverse
        = .ok ⟨[⟨"a", "/x"⟩, ⟨"Qt_6.5.3", "C:\\Qt\\6.5.3"⟩], some "/work", some 17⟩ := by
  intro entries
  have hnames : (entries.map Prod.fst).Nodup := by decide
  obtain ⟨-, -, -, -, hperm⟩ := ofVariables_last_values entries
  exact ⟨hnames, (hperm hnames _ entries.reverse_perm.symm _).mp (by decide +kernel)⟩

/-- A value that cannot be read is the fault even if a later one would replace it. -/
example :
    ofVariables [(versionVariable, " latest"), (workdirVariable, " "), (versionVariable, "17")]
      = .error (.invalidVersion "latest") := by decide +kernel

end GuiTest.SuiteSettings
