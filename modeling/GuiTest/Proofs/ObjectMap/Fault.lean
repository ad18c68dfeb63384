import Mathlib.Logic.Relation
import GuiTest.Proofs.ObjectMap.Resolve
import GuiTest.Proofs.Text.ByteOrder

/-!
# Which fault of an object map is reported

A table may have many faults, on chains of containers that run into each other. Only one is
reported, and `parse_fault` says which: that of the first name whose chain is faulty. On its chain
a container that is not there counts before all else, because the resolver sees it on the way to the
outermost container; then comes a chain without end; and of the entries that make no locator the
outermost counts, because locators are made on the way back (`Reported`).

The resolver knows a chain without end by a name that it met before. What makes this right is that
all names met before lead to the present one (`resolve_reports`).
-/

namespace GuiTest

open Relation (ReflTransGen TransGen)

/-! ## Entries that make no locator -/

namespace TextMatch

/-- A pattern is refused for the reason that the library gives. -/
theorem ofPattern_eq_error_iff {source : String} {f : Locator.Fault} :
    ofPattern source = .error f ↔
      ∃ reason, Regex.Whole.ofSource source = .error reason ∧ f = .badPattern source reason := by
  rw [ofPattern]
  cases Regex.Whole.ofSource source with
  | ok expression => simp
  | error reason => simp [eq_comm]

end TextMatch

namespace Locator.Draft

/-- A draft is refused for its regular expression first, then for the lack of criteria, then for its
occurrence. -/
theorem build_eq_error_iff {d : Draft} {f : Fault} :
    d.build = .error f ↔ d.allCriteria = .error f
      ∨ ∃ criteria, d.allCriteria = .ok criteria
        ∧ (criteria = [] ∧ f = .noCriteria
          ∨ criteria ≠ [] ∧ d.occurrence = some 0 ∧ f = .zeroOccurrence) := by
  rw [build]
  cases d.allCriteria with
  | error reason =>
    show (Except.error reason : Except Fault Locator) = _ ↔ _
    simp
  | ok criteria =>
    show (if criteria = [] then _ else _ : Except Fault Locator) = _ ↔ _
    split
    next hnil =>
      show (Except.error Fault.noCriteria : Except Fault Locator) = _ ↔ _
      simp [hnil, eq_comm]
    next hne =>
      split
      next hocc =>
        show (Except.error Fault.zeroOccurrence : Except Fault Locator) = _ ↔ _
        simp [hne, hocc, eq_comm]
      next hocc =>
        show (Except.ok _ : Except Fault Locator) = _ ↔ _
        simp [hne, hocc]

end Locator.Draft

namespace ObjectMap

namespace Entry

/-- The entry sets something that an element is known by. -/
def SetsCriterion (e : Entry) : Prop :=
  e.kind.isSome ∨ e.text.isSome ∨ e.name.isSome ∨ e.id.isSome ∨ e.className.isSome
    ∨ e.row.isSome ∧ e.column.isSome

/-- Why an entry makes no locator: what is wrong with its cell counts first, then its regular
expression, then that it sets no criterion, then its occurrence. -/
inductive Refused (name : String) (e : Entry) : Fault → Prop where
  | cell (hcell : e.row.isSome ≠ e.column.isSome) : Refused name e (.incompleteCell name)
  | pattern {source : String} {reason : Regex.Fault} (hcell : e.row.isSome = e.column.isSome)
    (htext : e.text = some (.regex source))
    (hreason : Regex.Whole.ofSource source = .error reason) :
    Refused name e (.badLocator name (.badPattern source reason))
  | noCriteria (hcell : e.row.isSome = e.column.isSome) (hpattern : e.PatternAccepted)
    (hnone : ¬ e.SetsCriterion) : Refused name e (.badLocator name .noCriteria)
  | zeroOccurrence (hcell : e.row.isSome = e.column.isSome) (hpattern : e.PatternAccepted)
    (hsome : e.SetsCriterion) (hocc : e.occurrence = some 0) :
    Refused name e (.badLocator name .zeroOccurrence)

/-- The criteria of an entry are refused only for its pattern. -/
theorem allCriteria_eq_error_iff {e : Entry} {containers : List Level} {f : Locator.Fault} :
    (e.draft containers).allCriteria = .error f ↔
      ∃ source reason, e.text = some (.regex source)
        ∧ Regex.Whole.ofSource source = .error reason ∧ f = .badPattern source reason := by
  simp only [← pattern?_eq_some_iff, Locator.Draft.allCriteria, draft]
  cases e.pattern? with
  | none => simp
  | some source =>
    have hmap : (TextMatch.ofPattern source).map (fun m => e.plainCriteria ++ [.text m]) = .error f
        ↔ TextMatch.ofPattern source = .error f := by
      cases TextMatch.ofPattern source <;> simp [Except.map]
    rw [hmap, TextMatch.ofPattern_eq_error_iff]
    simp

end Entry

variable {table : NameTable Entry} {done done' : NameTable Locator} {name container n : String}
  {e : Entry} {l : Locator} {unvisited : List String} {f f' : Fault}

/-- **Why an entry makes no locator** does not depend on its containers. -/
theorem locatorOf_eq_error_iff {containers : List Level} :
    locatorOf name e containers = .error f ↔ e.Refused name f := by
  have hbuild : (e.draft containers).build.mapError (Fault.badLocator name) = .error f ↔
      ∃ reason, (e.draft containers).build = .error reason ∧ f = .badLocator name reason := by
    cases (e.draft containers).build <;> simp [Except.mapError, eq_comm]
  -- Half a cell is reported before anything else is looked at.
  rw [locatorOf_eq]
  constructor
  · intro h
    split at h
    next hcell =>
      obtain ⟨reason, hreason, rfl⟩ := hbuild.mp h
      rcases Locator.Draft.build_eq_error_iff.mp hreason with hpattern | ⟨_, hcriteria, hrest⟩
      · obtain ⟨source, reason, htext, hread, rfl⟩ := Entry.allCriteria_eq_error_iff.mp hpattern
        exact .pattern hcell htext hread
      · obtain ⟨hpattern, rfl⟩ := Entry.allCriteria_eq_ok_iff.mp hcriteria
        have hsome := Entry.criteria_ne_nil_iff hpattern
        rcases hrest with ⟨hnil, rfl⟩ | ⟨hne, hocc, rfl⟩
        · exact .noCriteria hcell hpattern fun h => hsome.mpr h hnil
        · exact .zeroOccurrence hcell hpattern (hsome.mp hne) hocc
    next hcell =>
      cases h
      exact .cell hcell
  · intro h
    cases h with
    | cell hcell => rw [if_neg hcell]
    | pattern hcell htext hreason =>
      have herror : (e.draft containers).allCriteria = .error (.badPattern _ _) :=
        Entry.allCriteria_eq_error_iff.mpr ⟨_, _, htext, hreason, rfl⟩
      rw [if_pos hcell, hbuild]
      exact ⟨_, Locator.Draft.build_eq_error_iff.mpr (Or.inl herror), rfl⟩
    | noCriteria hcell hpattern hnone =>
      have hnil : e.criteria = [] := by
        by_contra hne
        exact hnone ((Entry.criteria_ne_nil_iff hpattern).mp hne)
      rw [if_pos hcell, hbuild]
      exact ⟨_, Locator.Draft.build_eq_error_iff.mpr
        (Or.inr ⟨_, Entry.allCriteria_eq_ok_iff.mpr ⟨hpattern, rfl⟩, Or.inl ⟨hnil, rfl⟩⟩), rfl⟩
    | zeroOccurrence hcell hpattern hsome hocc =>
      have hne := (Entry.criteria_ne_nil_iff hpattern).mpr hsome
      rw [if_pos hcell, hbuild]
      exact ⟨_, Locator.Draft.build_eq_error_iff.mpr (Or.inr ⟨_,
        Entry.allCriteria_eq_ok_iff.mpr ⟨hpattern, rfl⟩, Or.inr ⟨hne, hocc, rfl⟩⟩), rfl⟩

namespace Entry.Refused

/-- An entry is refused in one way. -/
theorem unique (h : e.Refused name f) (h' : e.Refused name f') : f = f' := by
  have hfails : locatorOf name e [] = .error f := locatorOf_eq_error_iff.mpr h
  exact Except.error.inj (hfails.symm.trans (locatorOf_eq_error_iff.mpr h'))

/-- An entry makes no locator exactly if it is not valid by itself. -/
theorem exists_iff : (∃ f, e.Refused name f) ↔ ¬ e.Valid := by
  constructor
  · rintro ⟨f, h⟩ hvalid
    have hok : locatorOf name e [] = .ok ⟨⟨e.criteria, e.occurrence⟩, []⟩ :=
      locatorOf_eq_ok_iff.mpr ⟨hvalid, rfl⟩
    cases hok.symm.trans (locatorOf_eq_error_iff.mpr h)
  · intro hinvalid
    cases hl : locatorOf name e [] with
    | ok l => exact absurd (locatorOf_eq_ok_iff.mp hl).1 hinvalid
    | error f => exact ⟨f, locatorOf_eq_error_iff.mp hl⟩

theorem ne_cycle (h : e.Refused name f) (other : String) : f ≠ .cycle other := by
  rintro rfl
  cases h

end Entry.Refused

/-! ## Chains of containers -/

/-- The entry of a name is put into the container. -/
def ContainedIn (table : NameTable Entry) (name container : String) : Prop :=
  ∃ e, table.get? name = some e ∧ e.container = some container

/-- The chain of a name comes to an entry whose container is not in the table. -/
def Dangles (table : NameTable Entry) (n name container : String) : Prop :=
  ReflTransGen (ContainedIn table) n name ∧ ContainedIn table name container
    ∧ table.get? container = none

/-- The chain of a name comes to an entry to which it comes again. -/
def Revisits (table : NameTable Entry) (n : String) : Prop :=
  ∃ name, ReflTransGen (ContainedIn table) n name ∧ TransGen (ContainedIn table) name name

/-- There is a fault on the chain of a name. -/
def Faulty (table : NameTable Entry) (n : String) : Prop :=
  (∃ name container, Dangles table n name container) ∨ Revisits table n
    ∨ ∃ name e, ReflTransGen (ContainedIn table) n name ∧ table.get? name = some e ∧ ¬ e.Valid

namespace ContainedIn

/-- An entry has one container. -/
theorem unique {a b c : String} (h : ContainedIn table a b) (h' : ContainedIn table a c) :
    b = c := by
  obtain ⟨e, he, hb⟩ := h
  obtain ⟨e', he', hc⟩ := h'
  cases he.symm.trans he'
  exact Option.some.inj (hb.symm.trans hc)

/-- Of two names on a chain one comes after the other. -/
theorem total {a b c : String} (h : ReflTransGen (ContainedIn table) a b)
    (h' : ReflTransGen (ContainedIn table) a c) :
    ReflTransGen (ContainedIn table) b c ∨ ReflTransGen (ContainedIn table) c b :=
  h.total_of_right_unique (fun _ _ _ => unique) h'

/-- After the end of a chain there is nothing. -/
theorem eq_of_end {a b : String} (hend : ∀ c, ¬ ContainedIn table a c)
    (h : ReflTransGen (ContainedIn table) a b) : a = b := by
  rcases h.cases_head with rfl | ⟨c, hc, -⟩
  · rfl
  · exact absurd hc (hend c)

/-- A chain has one end at most. -/
theorem end_unique {a b : String} (ha : ReflTransGen (ContainedIn table) n a)
    (hb : ReflTransGen (ContainedIn table) n b) (henda : ∀ c, ¬ ContainedIn table a c)
    (hendb : ∀ c, ¬ ContainedIn table b c) : a = b := by
  rcases total ha hb with h | h
  · exact eq_of_end henda h
  · exact (eq_of_end hendb h).symm

/-- A chain with an end does not come back to where it began. -/
theorem not_cyclic {a b : String} (h : ReflTransGen (ContainedIn table) a b)
    (hend : ∀ c, ¬ ContainedIn table b c) : ¬ TransGen (ContainedIn table) a a := by
  induction h using ReflTransGen.head_induction_on with
  | refl =>
    intro hcycle
    obtain ⟨c, hc, -⟩ := Relation.TransGen.head'_iff.mp hcycle
    exact hend c hc
  | head hstep _ ih =>
    intro hcycle
    obtain ⟨c, hc, hback⟩ := Relation.TransGen.head'_iff.mp hcycle
    cases unique hstep hc
    exact ih (.tail' hback hstep)

end ContainedIn

/-- A chain with an end comes to nothing twice. -/
theorem Revisits.not_ends (h : Revisits table n) {last : String}
    (hlast : ReflTransGen (ContainedIn table) n last) (hend : ∀ c, ¬ ContainedIn table last c) :
    False := by
  obtain ⟨name, hname, hcycle⟩ := h
  rcases ContainedIn.total hname hlast with hto | hback
  · exact ContainedIn.not_cyclic hto hend hcycle
  · cases ContainedIn.eq_of_end hend hback
    exact ContainedIn.not_cyclic .refl hend hcycle

/-- A chain that leads to one without end has none either. -/
theorem Revisits.inside (hcontained : ContainedIn table n container)
    (h : Revisits table container) : Revisits table n := by
  obtain ⟨name, hname, hcycle⟩ := h
  exact ⟨name, .head hcontained hname, hcycle⟩

namespace Dangles

/-- A chain that dangles ends with a name that is in nothing. -/
theorem container_ends (h : Dangles table n name container) :
    ReflTransGen (ContainedIn table) n container ∧ ∀ c, ¬ ContainedIn table container c :=
  ⟨h.1.tail h.2.1, fun _ ⟨_, he, _⟩ => nomatch he.symm.trans h.2.2⟩

/-- So it does not come back to itself. -/
theorem not_revisits (h : Dangles table n name container) : ¬ Revisits table n := fun hrevisits =>
  hrevisits.not_ends h.container_ends.1 h.container_ends.2

/-- The container that is not there is missed by one entry of a chain. -/
theorem unique {name' container' : String} (h : Dangles table n name container)
    (h' : Dangles table n name' container') : name = name' ∧ container = container' := by
  obtain rfl : container = container' :=
    ContainedIn.end_unique h.container_ends.1 h'.container_ends.1 h.container_ends.2
      h'.container_ends.2
  have hsame : ∀ {a b : String}, ContainedIn table a container → ContainedIn table b container →
      ReflTransGen (ContainedIn table) a b → a = b := by
    intro a b ha hb hab
    rcases hab.cases_head with rfl | ⟨c, hc, hcb⟩
    · rfl
    · -- The chain would go on after its end.
      cases ContainedIn.unique ha hc
      cases ContainedIn.eq_of_end h.container_ends.2 hcb
      exact absurd hb (h.container_ends.2 _)
  rcases ContainedIn.total h.1 h'.1 with hto | hback
  · exact ⟨hsame h.2.1 h'.2.1 hto, rfl⟩
  · exact ⟨(hsame h'.2.1 h.2.1 hback).symm, rfl⟩

end Dangles

namespace Hops

/-- A chain of so many hops ends with an entry that is in nothing. -/
theorem ends {k : Nat} (h : Hops table n k) :
    ∃ last e, ReflTransGen (ContainedIn table) n last ∧ table.get? last = some e
      ∧ ∀ c, ¬ ContainedIn table last c := by
  induction h with
  | root hname hcontainer =>
    refine ⟨_, _, .refl, hname, ?_⟩
    rintro c ⟨e', he', hc⟩
    cases hname.symm.trans he'
    cases hcontainer.symm.trans hc
  | inside hname hcontainer _ ih =>
    obtain ⟨last, e, hlast, he, hend⟩ := ih
    exact ⟨last, e, .head ⟨_, hname, hcontainer⟩ hlast, he, hend⟩

/-- Nor does that come back to itself. -/
theorem not_revisits {k : Nat} (h : Hops table n k) : ¬ Revisits table n := by
  obtain ⟨last, -, hlast, -, hend⟩ := h.ends
  exact fun hrevisits => hrevisits.not_ends hlast hend

/-- And it does not dangle. -/
theorem not_dangles {k : Nat} (h : Hops table n k) : ¬ Dangles table n name container := by
  intro hdangles
  obtain ⟨last, e, hlast, he, hend⟩ := h.ends
  cases ContainedIn.end_unique hlast hdangles.container_ends.1 hend hdangles.container_ends.2
  cases he.symm.trans hdangles.2.2

end Hops

namespace Resolves

/-- With a name all containers on its chain resolve. -/
theorem within (h : Resolves table n l) (hname : ReflTransGen (ContainedIn table) n name) :
    ∃ l', Resolves table name l' := by
  induction hname with
  | refl => exact ⟨l, h⟩
  | tail _ hstep ih =>
    obtain ⟨l', hl'⟩ := ih
    obtain ⟨e, he, hcontainer⟩ := hstep
    cases hl' with
    | root hname hnone =>
      cases he.symm.trans hname
      cases hcontainer.symm.trans hnone
    | inside hname hsome hparent =>
      cases he.symm.trans hname
      cases hcontainer.symm.trans hsome
      exact ⟨_, hparent⟩

/-- What resolves has no fault. -/
theorem not_faulty (h : Resolves table n l) : ¬ Faulty table n := by
  rintro (⟨name, container, hdangles⟩ | hrevisits | ⟨name, e, hname, he, hinvalid⟩)
  · exact h.hops.not_dangles hdangles
  · exact h.hops.not_revisits hrevisits
  · obtain ⟨l', hl'⟩ := h.within hname
    exact hinvalid (hl'.valid he)

end Resolves

/-! ## The fault of one name -/

/-- The fault that is reported for a name. -/
inductive Reported (table : NameTable Entry) (n : String) : Fault → Prop where
  | unknownContainer {name container : String} (h : Dangles table n name container) :
    Reported table n (.unknownContainer name container)
  | cycle (h : Revisits table n) : Reported table n (.cycle n)
  /-- Where the chain ends, the fault is that of an entry outside of which there are no others. -/
  | entry {name : String} {e : Entry} {f : Fault} {k : Nat} (hends : Hops table n k)
    (hname : ReflTransGen (ContainedIn table) n name) (he : table.get? name = some e)
    (hf : e.Refused name f)
    (houtermost : ∀ outer e', TransGen (ContainedIn table) name outer →
      table.get? outer = some e' → e'.Valid) :
    Reported table n f

namespace Reported

/-- What is reported is a fault. -/
theorem faulty (h : Reported table n f) : Faulty table n := by
  cases h with
  | unknownContainer h => exact Or.inl ⟨_, _, h⟩
  | cycle h => exact Or.inr (Or.inl h)
  | entry _ hname he hf =>
    exact Or.inr (Or.inr ⟨_, _, hname, he, Entry.Refused.exists_iff.mp ⟨_, hf⟩⟩)

/-- A chain that dangles is reported as that. -/
theorem eq_unknownContainer (h : Reported table n f) (hdangles : Dangles table n name container) :
    f = .unknownContainer name container := by
  cases h with
  | unknownContainer h =>
    obtain ⟨rfl, rfl⟩ := h.unique hdangles
    rfl
  | cycle h => exact absurd h hdangles.not_revisits
  | entry hends => exact absurd hdangles hends.not_dangles

/-- A chain that comes back is reported as that. -/
theorem eq_cycle (h : Reported table n f) (hrevisits : Revisits table n) : f = .cycle n := by
  cases h with
  | unknownContainer h => exact absurd hrevisits h.not_revisits
  | cycle => rfl
  | entry hends => exact absurd hrevisits hends.not_revisits

/-- A cycle is reported for chains without end only. -/
theorem revisits {other : String} (h : Reported table n (.cycle other)) : Revisits table n := by
  cases h with
  | cycle h => exact h
  | entry _ _ _ hf => exact absurd rfl (hf.ne_cycle other)

/-- What is reported for a container is reported for what it contains, if it is no cycle. -/
theorem inside (hcontained : ContainedIn table n container) (hne : ∀ other, f ≠ .cycle other)
    (h : Reported table container f) : Reported table n f := by
  cases h with
  | unknownContainer h => exact .unknownContainer ⟨.head hcontained h.1, h.2⟩
  | cycle => exact absurd rfl (hne container)
  | entry hends hname he hf houtermost =>
    obtain ⟨e, hn, hcontainer⟩ := hcontained
    exact .entry (.inside hn hcontainer hends) (.head ⟨e, hn, hcontainer⟩ hname) he hf houtermost

end Reported

/-- **What the resolver reports for a name.** The names that were visited before are those that
lead to this one. -/
theorem resolve_reports (hdone : Correct table done) (hname : table.get? name = some e)
    (hvisited : ∀ other ∈ table.names, other ∉ unvisited →
      TransGen (ContainedIn table) other name)
    (h : resolve table unvisited done name e = .error f) : Reported table name f := by
  -- A name that is visited leads to its container, and so do all names that led to it.
  have hnext : ∀ {unvisited : List String} {name container : String} {e : Entry},
      table.get? name = some e → e.container = some container →
      (∀ other ∈ table.names, other ∉ unvisited → TransGen (ContainedIn table) other name) →
      ∀ other ∈ table.names, other ∉ unvisited.erase name →
        TransGen (ContainedIn table) other container := by
    intro unvisited name container e hname hcontainer hvisited other hother hnot
    have hstep : ContainedIn table name container := ⟨e, hname, hcontainer⟩
    by_cases heq : other = name
    · rw [heq]
      exact .single hstep
    · exact (hvisited other hother fun hmem =>
        hnot ((List.mem_erase_of_ne heq).mpr hmem)).tail hstep
  fun_induction resolve table unvisited done name e generalizing f with
  | case1 | case2 | case7 => cases h
  | case3 _ _ _ _ _ hcontainer _ hl =>
    cases h
    refine .entry (.root hname hcontainer) .refl hname (locatorOf_eq_error_iff.mp hl) ?_
    intro outer e' houter
    obtain ⟨c, ⟨e'', he'', hc⟩, -⟩ := Relation.TransGen.head'_iff.mp houter
    cases hname.symm.trans he''
    cases hcontainer.symm.trans hc
  | case4 _ _ _ _ _ _ hcontainer hmissing =>
    cases h
    exact .unknownContainer ⟨.refl, ⟨_, hname, hcontainer⟩, hmissing⟩
  | case5 _ _ _ _ _ _ hcontainer _ houter _ herror ih =>
    cases h
    have hreported := ih houter (hnext hname hcontainer hvisited) herror
    exact .cycle (hreported.revisits.inside ⟨_, hname, hcontainer⟩)
  | case6 _ _ _ _ _ _ hcontainer _ houter _ hother herror ih =>
    cases h
    have hreported := ih houter (hnext hname hcontainer hvisited) herror
    exact hreported.inside ⟨_, hname, hcontainer⟩ fun other heq => by
      cases heq
      exact hother other rfl
  | case8 _ _ _ _ _ _ hcontainer _ houter parent _ hparent _ hl ih =>
    cases h
    obtain ⟨hresolves, -, -, -⟩ := resolve_sound hdone houter hparent
    refine .entry (.inside hname hcontainer hresolves.hops) .refl hname
      (locatorOf_eq_error_iff.mp hl) ?_
    intro outer e' houter' he'
    obtain ⟨c, hc, hto⟩ := Relation.TransGen.head'_iff.mp houter'
    cases ContainedIn.unique ⟨_, hname, hcontainer⟩ hc
    obtain ⟨l', hl'⟩ := hresolves.within hto
    exact hl'.valid he'
  | case9 _ _ _ _ hmet =>
    cases h
    exact .cycle ⟨_, .refl, hvisited _ (NameTable.mem_names_of_get? hname) hmet⟩

/-! ## The fault of a table -/

/-- The first name, by its bytes, on whose chain there is a fault. -/
structure FirstFaulty (table : NameTable Entry) (n : String) : Prop where
  mem : n ∈ table.names
  faulty : Faulty table n
  first : ∀ other ∈ table.names, Faulty table other → Text.bytes n ≤ Text.bytes other

/-- There is one first faulty name. -/
theorem FirstFaulty.unique {n' : String} (h : FirstFaulty table n) (h' : FirstFaulty table n') :
    n = n' := by
  have hle := h.first n' h'.mem h'.faulty
  have hge := h'.first n h.mem h.faulty
  rw [← List.not_lt, Text.bytes_lt_iff] at hle hge
  exact le_antisymm (not_lt.mp hle) (not_lt.mp hge)

/-- What is reported for a list of entries is reported for one of them, and all names before it
resolve. -/
theorem resolveAll_reports {members : List (String × Entry)} (hdone : Correct table done)
    (hmembers : ∀ name e, (name, e) ∈ members → table.get? name = some e)
    (h : resolveAll table done members = .error f) :
    ∃ before n e after, members = before ++ (n, e) :: after ∧ Reported table n f
      ∧ ∀ x ∈ before, ∃ l, Resolves table x.1 l := by
  -- The entries before the one at fault were resolved, and what is done stays correct.
  induction members generalizing done with
  | nil => cases h
  | cons member rest ih =>
    obtain ⟨name, e⟩ := member
    have hname := hmembers name e List.mem_cons_self
    rw [resolveAll] at h
    split at h
    next l done₁ hresolve =>
      obtain ⟨hl, hdone₁, -, -⟩ := resolve_sound hdone hname hresolve
      obtain ⟨before, n, e', after, rfl, hreported, hbefore⟩ :=
        ih hdone₁ (fun n e' h => hmembers n e' (List.mem_cons_of_mem _ h)) h
      refine ⟨(name, e) :: before, n, e', after, rfl, hreported, fun x hx => ?_⟩
      rcases List.mem_cons.mp hx with rfl | hx
      · exact ⟨l, hl⟩
      · exact hbefore x hx
    next fault herror =>
      cases h
      refine ⟨[], name, e, rest, rfl, ?_, fun _ hx => absurd hx List.not_mem_nil⟩
      exact resolve_reports hdone hname (fun _ hmem hnot => absurd hmem hnot) herror

/-- **A table is refused for its first faulty name.** -/
theorem ofEntries_reports (hsorted : table.IsSorted) (h : ofEntries table = .error f) :
    ∃ n, FirstFaulty table n ∧ Reported table n f := by
  have herror : resolveAll table [] table = .error f := by
    rw [ofEntries] at h
    cases hall : resolveAll table [] table with
    | ok entries => cases hall ▸ h
    | error f' => cases hall ▸ h; rfl
  obtain ⟨before, n, e, after, rfl, hreported, hbefore⟩ :=
    resolveAll_reports .nil (fun _ _ => hsorted.get?_of_mem) herror
  refine ⟨n, ⟨?_, hreported.faulty, fun other hother hfaulty => ?_⟩, hreported⟩
  · exact NameTable.mem_names_of_mem (List.mem_append_right before List.mem_cons_self)
  · obtain ⟨x, hx, rfl⟩ := List.mem_map.mp hother
    have hlt : ∀ y ∈ after, n < y.1 := fun y hy => by
      rw [NameTable.IsSorted, NameTable.names, List.map_append] at hsorted
      have htail := (List.pairwise_append.mp hsorted).2.1
      exact (List.pairwise_cons.mp htail).1 y.1 (List.mem_map_of_mem hy)
    rw [← List.not_lt, Text.bytes_lt_iff, not_lt]
    rcases List.mem_append.mp hx with hx | hx
    · obtain ⟨l, hl⟩ := hbefore x hx
      exact absurd hfaulty hl.not_faulty
    · rcases List.mem_cons.mp hx with rfl | hx
      · exact le_rfl
      · exact (hlt x hx).le

/-- Where there is an object map no name is faulty. -/
theorem not_faulty_of_ofEntries {m : ObjectMap} (hsorted : table.IsSorted)
    (h : ofEntries table = .ok m) (hn : n ∈ table.names) : ¬ Faulty table n := by
  have hsound := (exists_ofEntries_iff hsorted).mp ⟨m, h⟩
  obtain ⟨l, hl⟩ := (sound_iff hsorted).mp hsound n hn
  exact hl.not_faulty

/-- **Which fault of an object map is reported.** A table makes no object map exactly if some name
of it is faulty, and then the first faulty name `n` decides. If its chain comes to a container that
is not in the table, this is reported, with the entry that names it. Else, if the chain comes to an
entry twice, a cycle is reported, under the name `n` even if that is not on the cycle. Else what is
wrong with the outermost entry of the chain that makes no locator is reported. -/
theorem parse_fault (json : String) (table : NameTable Entry)
    (h : decodeEntries.run json = some table) :
    ((∀ m, parse json ≠ .ok m) ↔ ∃ n, FirstFaulty table n)
      ∧ ∀ n, FirstFaulty table n →
        (∀ name container, Dangles table n name container →
          parse json = .error (.unknownContainer name container))
        ∧ ((∀ name container, ¬ Dangles table n name container) → Revisits table n →
          parse json = .error (.cycle n))
        ∧ ((∀ name container, ¬ Dangles table n name container) → ¬ Revisits table n →
          ∃ name e f, ReflTransGen (ContainedIn table) n name ∧ table.get? name = some e
            ∧ e.Refused name f
            ∧ (∀ outer e', TransGen (ContainedIn table) name outer →
              table.get? outer = some e' → e'.Valid)
            ∧ parse json = .error f) := by
  have hsorted := isSorted_of_run h
  have hparse : parse json = ofEntries table := by rw [parse, h]
  rw [hparse]
  -- Whatever is reported belongs to the first faulty name, and there is only one.
  have hreports : ∀ n, FirstFaulty table n →
      ∃ f, ofEntries table = .error f ∧ Reported table n f := by
    intro n hn
    cases hm : ofEntries table with
    | ok m => exact absurd hn.faulty (not_faulty_of_ofEntries hsorted hm hn.mem)
    | error f =>
      obtain ⟨n', hn', hreported⟩ := ofEntries_reports hsorted hm
      obtain rfl := hn.unique hn'
      exact ⟨f, rfl, hreported⟩
  refine ⟨⟨fun hnone => ?_, ?_⟩, fun n hn => ?_⟩
  · cases hm : ofEntries table with
    | ok m => exact absurd hm (hnone m)
    | error f =>
      obtain ⟨n, hn, -⟩ := ofEntries_reports hsorted hm
      exact ⟨n, hn⟩
  · rintro ⟨n, hn⟩ m hm
    exact not_faulty_of_ofEntries hsorted hm hn.mem hn.faulty
  · obtain ⟨f, hf, hreported⟩ := hreports n hn
    rw [hf]
    refine ⟨fun name container hdangles => ?_, fun _ hrevisits => ?_, fun hknown hends => ?_⟩
    · rw [hreported.eq_unknownContainer hdangles]
    · rw [hreported.eq_cycle hrevisits]
    · cases hreported with
      | unknownContainer hdangles => exact absurd hdangles (hknown _ _)
      | cycle hrevisits => exact absurd hrevisits hends
      | entry _ hname he hrefused houtermost =>
        exact ⟨_, _, f, hname, he, hrefused, houtermost, rfl⟩

/-- A label leads into a cycle that it is not on, and sets half a cell besides; a later entry has an
unknown container. The cycle is reported, under the name of the label. -/
theorem parse_fault_leads_into_cycle :
    let json := "\x7b\"edit\":\x7b\"type\":\"Edit\"\x7d,"
      ++ "\"label\":\x7b\"container\":\"pane\",\"row\":1\x7d,"
      ++ "\"pane\":\x7b\"container\":\"window\"\x7d,"
      ++ "\"tab\":\x7b\"container\":\"tabs\",\"type\":\"Tab\"\x7d,"
      ++ "\"window\":\x7b\"container\":\"pane\",\"id\":\"w\"\x7d\x7d"
    let table : NameTable Entry :=
      [("edit", ⟨none, some "Edit", none, none, none, none, none, none, none⟩),
        ("label", ⟨some "pane", none, none, none, none, none, none, some 1, none⟩),
        ("pane", ⟨some "window", none, none, none, none, none, none, none, none⟩),
        ("tab", ⟨some "tabs", some "Tab", none, none, none, none, none, none, none⟩),
        ("window", ⟨some "pane", none, none, none, some "w", none, none, none, none⟩)]
    decodeEntries.run json = some table ∧ FirstFaulty table "label"
      ∧ parse json = .error (.cycle "label") := by
  intro json table
  have hread : decodeEntries.run json = some table := by decide +kernel
  have hlabel : ContainedIn table "label" "pane" := ⟨_, rfl, rfl⟩
  have hpane : ContainedIn table "pane" "window" := ⟨_, rfl, rfl⟩
  have hwindow : ContainedIn table "window" "pane" := ⟨_, rfl, rfl⟩
  have hrevisits : Revisits table "label" := ⟨"pane", .single hlabel, .tail (.single hpane) hwindow⟩
  have hvalid : Entry.Valid ⟨none, some "Edit", none, none, none, none, none, none, none⟩ :=
    ⟨rfl, by decide, nofun, nofun⟩
  have hedit : ¬ Faulty table "edit" :=
    (Resolves.root rfl rfl (locatorOf_eq_ok_iff.mpr ⟨hvalid, rfl⟩)).not_faulty
  have hfirst : FirstFaulty table "label" := by
    refine ⟨by decide, Or.inr (Or.inl hrevisits), fun other hother hfaulty => ?_⟩
    rw [← List.not_lt, Text.bytes_lt_iff]
    rcases hother with _ | ⟨_, _ | ⟨_, _ | ⟨_, _ | ⟨_, _ | ⟨_, ⟨⟩⟩⟩⟩⟩⟩
    · exact absurd hfaulty hedit
    · decide
    · decide
    · decide
    · decide
  refine ⟨hread, hfirst, ?_⟩
  exact ((parse_fault json table hread).2 "label" hfirst).2.1
    (fun _ _ hdangles => hdangles.not_revisits hrevisits) hrevisits

end ObjectMap

end GuiTest
