import Mathlib.Data.List.Basic
import GuiTest.ObjectMap.Basic

/-!
# The locator of an entry

The settings of an entry are about different aspects, so none of them overrides another: the draft
has as criteria what the entry sets (`Entry.foldl_settings`), and a regular expression is added at
the end. What is required of an entry by itself is `Entry.Valid`; `locatorOf_eq_ok_iff` says that
this and nothing else makes a locator, and which one.
-/

namespace GuiTest

namespace Locator.Draft

theorem others_eq_self {aspect : Aspect} {criteria : List Criterion}
    (h : ∀ c ∈ criteria, c.aspect ≠ aspect) : others aspect criteria = criteria :=
  List.filter_eq_self.mpr fun c hc => decide_eq_true (h c hc)

/-- Criteria on different aspects are added one after the other. -/
theorem foldl_criterion (cs : List Criterion) (d : Draft)
    (hnodup : ((d.criteria ++ cs).map (·.aspect)).Nodup)
    (hpattern : d.pattern = none ∨ ∀ c ∈ cs, c.aspect ≠ .text) :
    (cs.map Setting.criterion).foldl set d = { d with criteria := d.criteria ++ cs } := by
  induction cs generalizing d with
  | nil => rw [List.append_nil]; rfl
  | cons c cs ih =>
    have hother : ∀ x ∈ d.criteria, x.aspect ≠ c.aspect := fun x hx => by
      rw [List.map_append] at hnodup
      exact (List.nodup_append.mp hnodup).2.2 _ (List.mem_map_of_mem hx) _ List.mem_cons_self
    -- A criterion on the text would drop a pattern, so there must not be both.
    have hkept : (if c.aspect = .text then none else d.pattern) = d.pattern := by
      split
      next htext =>
        rcases hpattern with hnone | hne
        · exact hnone.symm
        · exact absurd htext (hne c List.mem_cons_self)
      next => rfl
    have hset : d.set (.criterion c) = { d with criteria := d.criteria ++ [c] } := by
      rw [set, others_eq_self hother, hkept]
    rw [List.map_cons, List.foldl_cons, hset, ih]
    · rw [List.append_assoc]
      rfl
    · rwa [List.append_assoc]
    · exact hpattern.imp_right fun hne x hx => hne x (List.mem_cons_of_mem c hx)

/-- A finished draft has criteria, does not ask for an occurrence before the first, and gives a
regular expression that can be read. -/
theorem build_eq_ok_iff {d : Draft} {l : Locator} :
    d.build = .ok l ↔ ∃ criteria, d.allCriteria = .ok criteria ∧ criteria ≠ []
      ∧ d.occurrence ≠ some 0 ∧ l = ⟨⟨criteria, d.occurrence⟩, d.containers⟩ := by
  rw [build]
  cases d.allCriteria with
  | error f => exact ⟨nofun, fun ⟨_, h, _⟩ => nomatch h⟩
  | ok criteria =>
    show (if criteria = [] then _ else _ : Except Fault Locator) = _ ↔ _
    constructor
    · intro h
      split at h
      next => cases h
      next hne =>
        split at h
        next => cases h
        next hocc =>
          cases h
          exact ⟨criteria, rfl, hne, hocc, rfl⟩
    · rintro ⟨_, ⟨⟩, hne, hocc, rfl⟩
      rw [if_neg hne, if_neg hocc]
      rfl

end Locator.Draft

namespace ObjectMap

open Locator (Draft Setting)

namespace Entry

/-! ## What an entry sets -/

/-- The criterion on the cell, if both of its numbers are there. -/
def cell? (e : Entry) : Option Criterion :=
  match e.row, e.column with
  | some row, some column => some (.cell row column)
  | _, _ => none

/-- The criterion on the text, if it is not a regular expression. -/
def plainText? (e : Entry) : Option Criterion :=
  match e.text with
  | some (.exact text) => some (.text (.exact text))
  | some (.wildcard pattern) => some (.text (.wildcard pattern))
  | _ => none

/-- The regular expression for the text. -/
def pattern? (e : Entry) : Option String :=
  match e.text with
  | some (.regex source) => some source
  | _ => none

/-- The criteria that need not be read first. -/
def plainCriteria (e : Entry) : List Criterion :=
  (e.kind.map .kind).toList ++ e.plainText?.toList ++ (e.name.map .name).toList
    ++ (e.id.map .id).toList ++ (e.className.map .className).toList ++ e.cell?.toList

/-- All criteria: what the entry sets, and a regular expression last. -/
def criteria (e : Entry) : List Criterion :=
  e.plainCriteria
    ++ (e.pattern?.bind fun source => (TextMatch.ofPattern source).toOption.map .text).toList

/-- The regular expression, if there is one, can be read. -/
def PatternAccepted (e : Entry) : Prop :=
  ∀ source, e.text = some (.regex source) → ∃ m, TextMatch.ofPattern source = .ok m

/-- What is required of an entry by itself. -/
structure Valid (e : Entry) : Prop where
  cell : e.row.isSome = e.column.isSome
  some_set : e.kind.isSome ∨ e.text.isSome ∨ e.name.isSome ∨ e.id.isSome ∨ e.className.isSome
    ∨ e.row.isSome ∧ e.column.isSome
  occurrence : e.occurrence ≠ some 0
  pattern : e.PatternAccepted

variable {e : Entry} {settings : List Setting} {source : String}

theorem pattern?_eq_some_iff : e.pattern? = some source ↔ e.text = some (.regex source) := by
  rw [pattern?]
  rcases e.text with _ | ⟨_ | _ | _⟩ <;> simp

/-- A cell is about the cell. -/
theorem aspect_of_cell {c : Criterion} (h : e.cell? = some c) : c.aspect = .cell := by
  rw [cell?] at h
  split at h <;> cases h
  rfl

/-- The plain criteria are about different aspects. -/
theorem aspects_sublist (e : Entry) :
    (e.plainCriteria.map (·.aspect)).Sublist [.kind, .text, .name, .id, .className, .cell] := by
  have hone : ∀ (o : Option Criterion) (a : Aspect), (∀ c ∈ o, c.aspect = a) →
      (o.toList.map (·.aspect)).Sublist [a] := by
    intro o a ho
    cases o with
    | none => exact List.nil_sublist _
    | some c => rw [← ho c rfl]; exact List.Sublist.refl _
  have hmap : ∀ (o : Option String) (f : String → Criterion) (a : Aspect),
      (∀ x, (f x).aspect = a) → ((o.map f).toList.map (·.aspect)).Sublist [a] := by
    intro o f a hf
    cases o with
    | none => exact List.nil_sublist _
    | some x => exact hone (some (f x)) a fun c hc => Option.some.inj hc ▸ hf x
  have htext : ∀ c ∈ e.plainText?, c.aspect = .text := by
    intro c hc
    rw [plainText?] at hc
    split at hc <;> cases hc <;> rfl
  simp only [plainCriteria, List.map_append]
  exact (((((hmap e.kind _ .kind fun _ => rfl).append (hone _ .text htext)).append
    (hmap e.name _ .name fun _ => rfl)).append (hmap e.id _ .id fun _ => rfl)).append
    (hmap e.className _ .className fun _ => rfl)).append (hone _ .cell fun _ => aspect_of_cell)

/-- The text of an entry is a criterion or a pattern, and never both. -/
theorem text_setting (e : Entry) :
    (e.text.map TextSetting.setting).toList
      = e.plainText?.toList.map Setting.criterion ++ (e.pattern?.map Setting.pattern).toList := by
  rw [plainText?, pattern?]
  rcases e.text with _ | ⟨_ | _ | _⟩ <;> rfl

/-- The criteria before a regular expression for the text. -/
def leading (e : Entry) : List Criterion := (e.kind.map .kind).toList ++ e.plainText?.toList

/-- The criteria after the text. -/
def trailing (e : Entry) : List Criterion :=
  (e.name.map .name).toList ++ (e.id.map .id).toList ++ (e.className.map .className).toList
    ++ e.cell?.toList

theorem plainCriteria_eq (e : Entry) : e.plainCriteria = e.leading ++ e.trailing := by
  simp only [plainCriteria, leading, trailing, List.append_assoc]

/-- Half of a cell makes no settings. -/
theorem settings?_eq_none (h : e.row.isSome ≠ e.column.isSome) : e.settings? = none := by
  rw [settings?]
  revert h
  rcases e.row with _ | row <;> rcases e.column with _ | column <;> intro h
  · exact absurd rfl h
  · rfl
  · rfl
  · exact absurd rfl h

/-- And else the settings come in a fixed order. -/
theorem settings?_eq_some (h : e.row.isSome = e.column.isSome) :
    e.settings? = some (e.leading.map Setting.criterion ++ (e.pattern?.map Setting.pattern).toList
      ++ e.trailing.map Setting.criterion ++ (e.occurrence.map Setting.occurrence).toList) := by
  have hsetting : ∀ (o : Option String) (f : String → Criterion),
      (o.map fun x => Setting.criterion (f x)).toList = (o.map f).toList.map Setting.criterion :=
    fun o f => by cases o <;> rfl
  rw [settings?, text_setting, leading, trailing, cell?, hsetting e.kind, hsetting e.name,
    hsetting e.id, hsetting e.className, List.map_append, List.map_append, List.map_append,
    List.map_append]
  revert h
  rcases e.row with _ | row <;> rcases e.column with _ | column <;> intro h
  · exact congrArg some (by simp only [List.append_assoc]; rfl)
  · cases h
  · cases h
  · exact congrArg some (by simp only [List.append_assoc]; rfl)

/-! ## The draft of an entry -/

/-- The draft that the settings of an entry make. -/
def draft (e : Entry) (containers : List Level) : Draft :=
  ⟨e.plainCriteria, e.pattern?, e.occurrence, containers⟩

/-- A regular expression is then the only criterion on the text. -/
theorem aspect_ne_text (h : e.pattern? = some source) :
    ∀ c ∈ e.leading ++ e.trailing, c.aspect ≠ .text := by
  have hplain : e.plainText? = none := by
    rw [plainText?, pattern?_eq_some_iff.mp h]
  intro c hc
  simp only [leading, trailing, hplain, Option.toList_none, List.append_nil, List.mem_append,
    Option.mem_toList, Option.map_eq_some_iff] at hc
  rcases hc with ⟨_, -, rfl⟩ | ((⟨_, -, rfl⟩ | ⟨_, -, rfl⟩) | ⟨_, -, rfl⟩) | hcell
  · exact nofun
  · exact nofun
  · exact nofun
  · exact nofun
  · rw [aspect_of_cell hcell]
    exact nofun

/-- **No setting of an entry overrides another.** -/
theorem foldl_settings (containers : List Level) (h : e.settings? = some settings) :
    settings.foldl Draft.set { Draft.empty with containers } = e.draft containers := by
  by_cases hcell : e.row.isSome = e.column.isSome
  · rw [settings?_eq_some hcell] at h
    cases h
    have hnodup : ((e.leading ++ e.trailing).map (·.aspect)).Nodup := by
      rw [← plainCriteria_eq]
      exact e.aspects_sublist.nodup (by decide)
    have hleading : (e.leading.map Setting.criterion).foldl Draft.set
        { Draft.empty with containers } = ⟨e.leading, none, none, containers⟩ := by
      rw [Draft.foldl_criterion _ _ _ (Or.inl rfl)]
      · rfl
      · rw [List.map_append] at hnodup
        exact (List.nodup_append.mp hnodup).1
    -- The pattern drops criteria on the text, of which there are none then.
    have hpattern : ((e.pattern?.map Setting.pattern).toList).foldl Draft.set
        ⟨e.leading, none, none, containers⟩ = ⟨e.leading, e.pattern?, none, containers⟩ := by
      cases hp : e.pattern? with
      | none => rfl
      | some source =>
        have hothers := Draft.others_eq_self fun c hc =>
          aspect_ne_text hp c (List.mem_append_left e.trailing hc)
        show Draft.mk (Draft.others .text e.leading) (some source) none containers = _
        rw [hothers]
    have htrailing : (e.trailing.map Setting.criterion).foldl Draft.set
        ⟨e.leading, e.pattern?, none, containers⟩
          = ⟨e.leading ++ e.trailing, e.pattern?, none, containers⟩ := by
      rw [Draft.foldl_criterion _ _ hnodup]
      cases hp : e.pattern? with
      | none => exact Or.inl rfl
      | some source =>
        exact Or.inr fun c hc =>
          aspect_ne_text hp c (List.mem_append_right e.leading hc)
    rw [List.foldl_append, List.foldl_append, List.foldl_append, hleading, hpattern, htrailing,
      draft, plainCriteria_eq]
    cases e.occurrence <;> rfl
  · rw [settings?_eq_none hcell] at h
    cases h

/-! ## The locator of an entry -/

/-- The criteria are those of the entry if its pattern is accepted. -/
theorem allCriteria_eq_ok_iff {containers : List Level} {criteria : List Criterion} :
    (e.draft containers).allCriteria = .ok criteria ↔
      e.PatternAccepted ∧ criteria = e.criteria := by
  simp only [PatternAccepted, ← pattern?_eq_some_iff, Draft.allCriteria, draft, Entry.criteria]
  cases e.pattern? with
  | none => simp [eq_comm]
  | some source =>
    cases hsource : TextMatch.ofPattern source with
    | error f => simp [Except.map, hsource]
    | ok m => simp [Except.map, Except.toOption, hsource, eq_comm]

/-- An entry has criteria exactly if it sets one. -/
theorem criteria_ne_nil_iff (h : e.PatternAccepted) :
    e.criteria ≠ [] ↔ e.kind.isSome ∨ e.text.isSome ∨ e.name.isSome ∨ e.id.isSome
      ∨ e.className.isSome ∨ e.row.isSome ∧ e.column.isSome := by
  have htext : (e.plainText? = none ∧
      (e.pattern?.bind fun source => (TextMatch.ofPattern source).toOption.map Criterion.text)
        = none) ↔ e.text = none := by
    rcases ht : e.text with _ | ⟨_ | _ | source⟩
    · simp [plainText?, pattern?, ht]
    · simp [plainText?, ht]
    · simp [plainText?, ht]
    · obtain ⟨m, hm⟩ := h source ht
      simp [pattern?, ht, hm, Except.toOption]
  have hcell' : e.cell? = none ↔ ¬ (e.row.isSome ∧ e.column.isSome) := by
    rw [cell?]
    rcases e.row with _ | _ <;> rcases e.column with _ | _ <;> simp
  rw [Ne, criteria, plainCriteria]
  simp only [List.append_eq_nil_iff, Option.toList_eq_nil_iff, Option.map_eq_none_iff, hcell']
  simp only [← Option.not_isSome_iff_eq_none] at htext ⊢
  tauto

end Entry

/-- An entry is refused for half of a cell before anything else. -/
theorem locatorOf_eq (name : String) (e : Entry) (containers : List Level) :
    locatorOf name e containers =
      if e.row.isSome = e.column.isSome then
        (e.draft containers).build.mapError (.badLocator name)
      else .error (.incompleteCell name) := by
  rw [locatorOf]
  split
  next hnone =>
    rw [if_neg]
    intro hcell
    rw [Entry.settings?_eq_some hcell] at hnone
    cases hnone
  next settings hsome =>
    rw [if_pos, Entry.foldl_settings containers hsome]
    · cases (e.draft containers).build <;> rfl
    · by_contra hcell
      rw [Entry.settings?_eq_none hcell] at hsome
      cases hsome

/-- **An entry makes a locator exactly if it is valid**, and its locator has what the entry sets. -/
theorem locatorOf_eq_ok_iff {name : String} {e : Entry} {containers : List Level} {l : Locator} :
    locatorOf name e containers = .ok l ↔
      e.Valid ∧ l = ⟨⟨e.criteria, e.occurrence⟩, containers⟩ := by
  have hbuild : (e.draft containers).build.mapError (Fault.badLocator name) = .ok l ↔
      (e.draft containers).build = .ok l := by
    cases (e.draft containers).build <;> simp [Except.mapError]
  rw [locatorOf_eq]
  constructor
  · intro h
    split at h
    next hcell =>
      obtain ⟨criteria, hcriteria, hne, hocc, hl⟩ := Draft.build_eq_ok_iff.mp (hbuild.mp h)
      obtain ⟨hpattern, rfl⟩ := Entry.allCriteria_eq_ok_iff.mp hcriteria
      exact ⟨⟨hcell, (Entry.criteria_ne_nil_iff hpattern).mp hne, hocc, hpattern⟩, hl⟩
    next => cases h
  · rintro ⟨hvalid, rfl⟩
    rw [if_pos hvalid.cell, hbuild]
    exact Draft.build_eq_ok_iff.mpr
      ⟨_, Entry.allCriteria_eq_ok_iff.mpr ⟨hvalid.pattern, rfl⟩,
        (Entry.criteria_ne_nil_iff hvalid.pattern).mpr hvalid.some_set,
        hvalid.occurrence, rfl⟩

end ObjectMap

end GuiTest
