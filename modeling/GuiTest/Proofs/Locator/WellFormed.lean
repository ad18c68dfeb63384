import Mathlib.Data.List.Chain
import GuiTest.Proofs.ObjectMap.Resolve

/-!
# What all locators have in common

Each level of a locator has criteria, at most one on each aspect, and counts occurrences from one.
Some ways to a locator check this (a draft that is finished) and some do not (`withText`, `within`),
but none leads out of it: whatever settings are made, a draft keeps to `Draft.WellFormed`, and every
locator that can be come by (`Obtainable`) keeps to `WellFormed`. So its settings make the same
locator again, and to pick its occurrence never counts below the first. `obtainable_invariant` puts
this together with the shape of its chain of containers.
-/

namespace GuiTest

/-- What a level keeps to. -/
structure Level.WellFormed (level : Level) : Prop where
  criteria_ne_nil : level.criteria ≠ []
  aspects_nodup : (level.criteria.map (·.aspect)).Nodup
  occurrence_ne_zero : level.occurrence ≠ some 0

/-- A level counts its occurrence from one. -/
theorem Level.WellFormed.one_le {level : Level} (h : level.WellFormed) {n : UInt32}
    (hn : level.occurrence = some n) : 1 ≤ n.toNat := by
  have hne : n ≠ 0 := by
    intro h0
    apply h.occurrence_ne_zero
    rw [hn, h0]
  have hpos : n.toNat ≠ 0 := fun h0 => hne (UInt32.toNat_inj.mp h0)
  omega

namespace Locator

/-- All levels of the locator keep to it. -/
def WellFormed (l : Locator) : Prop := ∀ level ∈ l.levels, level.WellFormed

/-- A locator is well-formed if all its levels are, its own among them. -/
theorem wellFormed_iff {l : Locator} :
    l.WellFormed ↔ l.own.WellFormed ∧ ∀ level ∈ l.containers, level.WellFormed :=
  List.forall_mem_cons

/-! ## Drafts -/

namespace Draft

/-- What a draft keeps to before it is finished. It may still have no criteria, and its occurrence
is not checked yet. -/
structure WellFormed (d : Draft) : Prop where
  aspects_nodup : (d.criteria.map (·.aspect)).Nodup
  pattern_alone : d.pattern ≠ none → ∀ c ∈ d.criteria, c.aspect ≠ .text
  containers : ∀ level ∈ d.containers, level.WellFormed

variable {d : Draft} {l : Locator} {criteria : List Criterion} {aspect : Aspect}

/-- What is kept is of another aspect. -/
theorem mem_others {c : Criterion} (h : c ∈ others aspect criteria) :
    c ∈ criteria ∧ c.aspect ≠ aspect := by
  rw [others, List.mem_filter] at h
  exact ⟨h.1, of_decide_eq_true h.2⟩

/-- A criterion that replaces the one on its aspect is the only one on it. -/
theorem nodup_others_concat (h : (criteria.map (·.aspect)).Nodup) (c : Criterion) :
    ((others c.aspect criteria ++ [c]).map (·.aspect)).Nodup := by
  rw [List.map_append, List.map_singleton, List.nodup_append]
  refine ⟨h.sublist (List.filter_sublist.map _), List.nodup_singleton _, ?_⟩
  intro a ha b hb
  obtain ⟨x, hx, rfl⟩ := List.mem_map.mp ha
  rw [List.mem_singleton.mp hb]
  exact (mem_others hx).2

theorem WellFormed.empty : empty.WellFormed :=
  ⟨List.nodup_nil, fun h => absurd rfl h, nofun⟩

theorem WellFormed.ofLocator (h : l.WellFormed) : l.toDraft.WellFormed := by
  obtain ⟨hown, houter⟩ := wellFormed_iff.mp h
  exact ⟨hown.aspects_nodup, fun hp => absurd rfl hp, houter⟩

/-- **Every setting keeps a draft well-formed.** -/
theorem WellFormed.set (h : d.WellFormed) {setting : Setting}
    (hcontainer : ∀ c, setting = .container c → c.WellFormed) : (d.set setting).WellFormed := by
  cases setting with
  | criterion c =>
    refine ⟨nodup_others_concat h.aspects_nodup c, ?_, h.containers⟩
    intro hp x hx
    have hkept : c.aspect ≠ .text ∧ d.pattern ≠ none := by
      by_cases htext : c.aspect = .text
      · exact absurd (if_pos htext) hp
      · refine ⟨htext, fun hnone => hp ?_⟩
        exact (if_neg htext).trans hnone
    rcases List.mem_append.mp hx with hx | hx
    · exact h.pattern_alone hkept.2 x (mem_others hx).1
    · rw [List.mem_singleton.mp hx]
      exact hkept.1
  | pattern source =>
    refine ⟨h.aspects_nodup.sublist (List.filter_sublist.map _), ?_, h.containers⟩
    intro _ x hx
    exact (mem_others hx).2
  | occurrence n => exact ⟨h.aspects_nodup, h.pattern_alone, h.containers⟩
  | container c => exact ⟨h.aspects_nodup, h.pattern_alone, hcontainer c rfl⟩

/-- Settings keep a draft well-formed, whatever they are, if the containers among them are. -/
theorem WellFormed.foldl (settings : List Setting) (h : d.WellFormed)
    (hcontainers : ∀ c, .container c ∈ settings → c.WellFormed) :
    (settings.foldl Draft.set d).WellFormed := by
  induction settings generalizing d with
  | nil => exact h
  | cons setting rest ih =>
    rw [List.foldl_cons]
    apply ih
    · exact h.set fun c hc => hcontainers c (hc ▸ List.mem_cons_self)
    · exact fun c hc => hcontainers c (List.mem_cons_of_mem _ hc)

/-- No two of the criteria that a draft comes to are on one aspect. -/
theorem WellFormed.allCriteria (h : d.WellFormed) (hall : d.allCriteria = .ok criteria) :
    (criteria.map (·.aspect)).Nodup := by
  rw [Draft.allCriteria] at hall
  split at hall
  next source hp =>
    cases hm : TextMatch.ofPattern source with
    | error f =>
      rw [hm] at hall
      cases hall
    | ok m =>
      rw [hm] at hall
      cases hall
      -- There is no criterion on the text yet that the pattern would have to replace.
      have hother : others (Criterion.text m).aspect d.criteria = d.criteria :=
        others_eq_self (h.pattern_alone (by rw [hp]; exact Option.some_ne_none source))
      have hnodup := nodup_others_concat h.aspects_nodup (.text m)
      rwa [hother] at hnodup
  next =>
    cases hall
    exact h.aspects_nodup

/-- **What a finished draft gives is well-formed.** -/
theorem WellFormed.build (h : d.WellFormed) (hl : d.build = .ok l) : l.WellFormed := by
  obtain ⟨criteria, hall, hne, hocc, rfl⟩ := build_eq_ok_iff.mp hl
  exact wellFormed_iff.mpr ⟨⟨hne, h.allCriteria hall, hocc⟩, h.containers⟩

end Draft

/-! ## Locators made from locators -/

variable {l c : Locator}

/-- The settings of a locator make the same locator again. -/
theorem WellFormed.build_toDraft (h : l.WellFormed) : l.toDraft.build = .ok l := by
  obtain ⟨hown, -⟩ := wellFormed_iff.mp h
  exact Draft.build_eq_ok_iff.mpr
    ⟨l.own.criteria, rfl, hown.criteria_ne_nil, hown.occurrence_ne_zero, rfl⟩

/-- A locator stays well-formed with another text. -/
theorem WellFormed.withText (h : l.WellFormed) (m : TextMatch) : (l.withText m).WellFormed := by
  obtain ⟨hown, houter⟩ := wellFormed_iff.mp h
  refine wellFormed_iff.mpr ⟨⟨?_, ?_, hown.occurrence_ne_zero⟩, houter⟩
  · exact List.append_ne_nil_of_right_ne_nil _ (List.cons_ne_nil _ _)
  · exact Draft.nodup_others_concat hown.aspects_nodup (.text m)

theorem WellFormed.withOccurrence {l' : Locator} (h : l.WellFormed) {n : UInt32}
    (hl : l.withOccurrence n = .ok l') : l'.WellFormed :=
  ((Draft.WellFormed.ofLocator h).set fun _ hc => by cases hc).build hl

theorem WellFormed.within (h : l.WellFormed) (hc : c.WellFormed) : (l.within c).WellFormed :=
  wellFormed_iff.mpr ⟨(wellFormed_iff.mp h).1, hc⟩

end Locator

/-! ## Locators of object maps -/

namespace ObjectMap

variable {table : NameTable Entry} {name : String} {e : Entry} {l : Locator}

/-- The settings of an entry are about different aspects. -/
theorem Entry.wellFormed_draft {containers : List Level}
    (h : ∀ level ∈ containers, level.WellFormed) : (e.draft containers).WellFormed := by
  refine ⟨e.aspects_sublist.nodup (by decide), ?_, h⟩
  intro hp c hc
  obtain ⟨source, hsource⟩ := Option.ne_none_iff_exists'.mp hp
  exact aspect_ne_text hsource c (e.plainCriteria_eq ▸ hc)

/-- What an entry of a map stands for is well-formed if its container is. -/
theorem wellFormed_of_locatorOf {containers : List Level}
    (hcontainers : ∀ level ∈ containers, level.WellFormed)
    (h : locatorOf name e containers = .ok l) : l.WellFormed := by
  rw [locatorOf_eq] at h
  split at h
  next =>
    cases hbuild : (e.draft containers).build with
    | error f =>
      rw [hbuild] at h
      cases h
    | ok l' =>
      rw [hbuild] at h
      cases h
      exact (Entry.wellFormed_draft hcontainers).build hbuild
  next => cases h

/-- What a name stands for is well-formed: by induction along its chain of containers. -/
theorem Resolves.wellFormed (h : Resolves table name l) : l.WellFormed := by
  induction h with
  | root _ _ hl => exact wellFormed_of_locatorOf (fun _ hlevel => by cases hlevel) hl
  | inside _ _ _ hl ih => exact wellFormed_of_locatorOf ih hl

/-- An object map holds what its names stand for. -/
theorem resolves_of_parse {json : String} {m : ObjectMap} (hm : parse json = .ok m)
    (hl : m.get name = .ok l) : ∃ table, Resolves table name l := by
  rw [parse] at hm
  split at hm
  next table htable =>
    have hsorted := isSorted_of_run htable
    obtain ⟨hcorrect, -, -⟩ := resolveAll_sound .nil (fun _ _ => hsorted.get?_of_mem)
      (ofEntries_eq_ok_iff.mp hm)
    rw [get] at hl
    split at hl
    next l' hfound =>
      cases hl
      exact ⟨table, hcorrect.resolves name l hfound⟩
    next => cases hl
  next => cases hm

end ObjectMap

namespace Locator

/-! ## Locators that can be come by -/

/-- The locators that can be come by: from the settings of a new draft or of a locator, by changes
of a locator, and from object maps. -/
inductive Obtainable : Locator → Prop where
  | built {settings : List Setting} {l : Locator}
    (hcontainers : ∀ c, .container c ∈ settings → Obtainable c)
    (hl : (settings.foldl Draft.set Draft.empty).build = .ok l) : Obtainable l
  | rebuilt {origin l : Locator} {settings : List Setting} (horigin : Obtainable origin)
    (hcontainers : ∀ c, .container c ∈ settings → Obtainable c)
    (hl : (settings.foldl Draft.set origin.toDraft).build = .ok l) : Obtainable l
  | withText {l : Locator} (h : Obtainable l) (m : TextMatch) : Obtainable (l.withText m)
  | withOccurrence {l l' : Locator} (h : Obtainable l) {n : UInt32}
    (hl : l.withOccurrence n = .ok l') : Obtainable l'
  | within {l c : Locator} (h : Obtainable l) (hc : Obtainable c) : Obtainable (l.within c)
  | container {l c : Locator} (h : Obtainable l) (hc : l.container? = some c) : Obtainable c
  | mapped {json name : String} {m : ObjectMap} {l : Locator} (hm : ObjectMap.parse json = .ok m)
    (hl : m.get name = .ok l) : Obtainable l

variable {l c : Locator}

/-- The levels of the container come after the own level. -/
theorem levels_of_container? (h : l.container? = some c) : l.levels = l.own :: c.levels := by
  rw [container?] at h
  rw [levels]
  split at h
  next => cases h
  next heq =>
    cases h
    rw [heq]
    rfl

/-- **All locators that can be come by are well-formed.** -/
theorem Obtainable.wellFormed (h : Obtainable l) : l.WellFormed := by
  induction h with
  | built _ hl ih => exact (Draft.WellFormed.empty.foldl _ ih).build hl
  | rebuilt _ _ hl ihorigin ih => exact ((Draft.WellFormed.ofLocator ihorigin).foldl _ ih).build hl
  | withText _ m ih => exact ih.withText m
  | withOccurrence _ hl ih => exact ih.withOccurrence hl
  | within _ _ ih ihc => exact ih.within ihc
  | container _ hc ih =>
    intro level hlevel
    apply ih
    rw [levels_of_container? hc]
    exact List.mem_cons_of_mem _ hlevel
  | mapped hm hl =>
    obtain ⟨table, hresolves⟩ := ObjectMap.resolves_of_parse hm hl
    exact hresolves.wellFormed

/-! ## The chain of containers -/

/-- The locators of a chain have the levels that it was made of. -/
theorem map_own_ofLevels (levels : List Level) : (ofLevels levels).map own = levels := by
  induction levels with
  | nil => rfl
  | cons level outer ih => rw [ofLevels, List.map_cons, ih]

/-- From the inside out, each locator is followed by its container. -/
theorem isChain_ofLevels (levels : List Level) :
    (ofLevels levels).IsChain fun inner outer => inner.container? = some outer := by
  induction levels with
  | nil => exact .nil
  | cons level outer ih =>
    cases outer with
    | nil => exact .singleton _
    | cons => exact .cons_cons rfl ih

theorem getLast?_ofLevels (level : Level) (outer : List Level) :
    (ofLevels (level :: outer)).getLast? = some ⟨outer.getLast?.getD level, []⟩ := by
  induction outer generalizing level with
  | nil => rfl
  | cons next outer ih =>
    rw [ofLevels, ofLevels, List.getLast?_cons_cons, ← ofLevels, ih, List.getLast?_cons]
    rfl

/-- Every locator of a chain has one of its levels. -/
theorem mem_own_of_mem_chain {m : Locator} (h : m ∈ l.chain) : m.own ∈ l.levels := by
  rw [chain, List.mem_reverse] at h
  rw [← map_own_ofLevels l.levels]
  exact List.mem_map_of_mem h

theorem length_chain (l : Locator) : l.chain.length = l.depth + 1 := by
  rw [chain, List.length_reverse, ← List.length_map own, map_own_ofLevels]
  rfl

theorem head?_chain (l : Locator) : l.chain.head? = some l.root := by
  rw [chain, List.head?_reverse, levels, getLast?_ofLevels]
  rfl

theorem getLast?_chain (l : Locator) : l.chain.getLast? = some l := by
  rw [chain, List.getLast?_reverse]
  rfl

theorem isChain_chain (l : Locator) :
    l.chain.IsChain fun outer inner => inner.container? = some outer :=
  List.isChain_reverse.mpr (isChain_ofLevels l.levels)

/-- **What all locators have in common.** However a locator was come by, each level of its chain has
criteria, at most one on each aspect, and an occurrence, if any, that is at least one. Its settings
make the same locator again. Its chain begins with its root, which has no container, ends with the
locator itself, and has one member for each container and one more, each the container of the
next. -/
theorem obtainable_invariant (l : Locator) (h : Obtainable l) :
    (∀ m ∈ l.chain, m.own.criteria ≠ [] ∧ (m.own.criteria.map (·.aspect)).Nodup
        ∧ ∀ n, m.own.occurrence = some n → 1 ≤ n.toNat)
      ∧ l.toDraft.build = .ok l
      ∧ l.chain.head? = some l.root ∧ l.root.container? = none
      ∧ l.chain.getLast? = some l
      ∧ l.chain.length = l.depth + 1
      ∧ l.chain.IsChain fun outer inner => inner.container? = some outer := by
  have hwell := h.wellFormed
  refine ⟨?_, hwell.build_toDraft, head?_chain l, rfl, getLast?_chain l, length_chain l,
    isChain_chain l⟩
  intro m hm
  have hlevel := hwell m.own (mem_own_of_mem_chain hm)
  exact ⟨hlevel.criteria_ne_nil, hlevel.aspects_nodup, fun n => hlevel.one_le⟩

/-- The second button with a text inside a dialog: built, changed and put into a container. -/
theorem obtainable_invariant_second_button :
    let dialog : Locator := ⟨⟨[.kind "Dialog"], none⟩, []⟩
    let button : Locator := ⟨⟨[.kind "Button", .text (.wildcard "O*")], some 2⟩, []⟩
    let l : Locator := (button.withText (.exact "OK")).within dialog
    Obtainable l ∧ l.toDraft.build = .ok l ∧ l.chain = [dialog, l] := by
  intro dialog button l
  have hdialog : Obtainable dialog :=
    @Obtainable.built [.criterion (.kind "Dialog")] _ (fun c hc => by simp at hc) rfl
  have hbutton : Obtainable button :=
    @Obtainable.built [.pattern "(", .criterion (.kind "Edit"), .occurrence 2,
      .criterion (.kind "Button"), .criterion (.text (.wildcard "O*"))] _
      (fun c hc => by simp at hc) rfl
  have hl : Obtainable l := (hbutton.withText (.exact "OK")).within hdialog
  exact ⟨hl, (obtainable_invariant l hl).2.1, rfl⟩

end Locator

end GuiTest
