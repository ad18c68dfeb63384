import Mathlib.Data.List.Induction
import GuiTest.Proofs.Locator.WellFormed
import GuiTest.Proofs.ObjectMap.Fault

/-!
# Which settings of a draft count

A criterion on the text is set in two ways, as a criterion or as a pattern that is yet to be read,
and each of them has to take the other back. `foldl_set_empty` says what a draft holds after any
settings, in terms of the settings alone: of those on one aspect the last (`surviving`), in the
order in which they were made, except that a pattern is kept apart; the last occurrence and the last
container. A locator that is taken up again stands for the settings that make it
(`foldl_set_settings`). So `build_last_wins` says what the finished draft comes to, whatever was set
before and then set otherwise.
-/

namespace GuiTest.Locator

namespace Setting

/-- What a setting is about that makes a criterion. A pattern is about the text. -/
def aspect? : Setting → Option Aspect
  | criterion c => some c.aspect
  | pattern _ => some .text
  | occurrence _ => none
  | container _ => none

/-- The criterion of a setting, if it need not be read first. -/
def criterion? : Setting → Option Criterion
  | criterion c => some c
  | _ => none

/-- The occurrence of a setting. -/
def occurrence? : Setting → Option UInt32
  | occurrence n => some n
  | _ => none

/-- The container of a setting. -/
def container? : Setting → Option Locator
  | container l => some l
  | _ => none

end Setting

/-- The settings that make criteria and are not followed by one on the same aspect. -/
def surviving : List Setting → List Setting
  | [] => []
  | s :: later =>
    if s.aspect? = none ∨ ∃ x ∈ later, x.aspect? = s.aspect? then surviving later
    else s :: surviving later

/-- The source of the last setting on the text, if that is a pattern. -/
def lastPattern? (settings : List Setting) : Option String :=
  match (settings.filter (·.aspect? = some .text)).getLast? with
  | some (.pattern source) => some source
  | _ => none

/-- The last occurrence. -/
def lastOccurrence? (settings : List Setting) : Option UInt32 :=
  (settings.filterMap Setting.occurrence?).getLast?

/-- The last container. -/
def lastContainer? (settings : List Setting) : Option Locator :=
  (settings.filterMap Setting.container?).getLast?

/-- The settings that make a locator, its criteria in their order. -/
def settings (l : Locator) : List Setting :=
  l.own.criteria.map .criterion ++ (l.own.occurrence.map .occurrence).toList
    ++ (l.container?.map .container).toList

variable {calls later : List Setting} {s : Setting} {d : Draft} {l : Locator} {a : Aspect}

/-! ## Settings that survive -/

/-- One more setting takes back what it is about. -/
theorem surviving_concat (calls : List Setting) (s : Setting) :
    surviving (calls ++ [s]) =
      if s.aspect? = none then surviving calls
      else (surviving calls).filter (·.aspect? ≠ s.aspect?) ++ [s] := by
  induction calls with
  | nil => simp [surviving]
  | cons x calls ih =>
    have hx : (x.aspect? = none ∨ ∃ y ∈ calls ++ [s], y.aspect? = x.aspect?) ↔
        (x.aspect? = none ∨ ∃ y ∈ calls, y.aspect? = x.aspect?) ∨ s.aspect? = x.aspect? := by
      simp only [List.mem_append, List.mem_singleton, or_and_right, exists_or, exists_eq_left,
        or_assoc]
    rw [List.cons_append, surviving, surviving, ih, if_congr hx rfl rfl]
    by_cases hs : s.aspect? = none
    · -- A setting that makes no criterion takes nothing back.
      have hnone : (x.aspect? = none ∨ ∃ y ∈ calls, y.aspect? = x.aspect?) ∨ s.aspect? = x.aspect?
          ↔ (x.aspect? = none ∨ ∃ y ∈ calls, y.aspect? = x.aspect?) :=
        or_iff_left_of_imp fun h => .inl (h.symm.trans hs)
      rw [if_pos hs, if_pos hs, if_congr hnone rfl rfl]
    · rw [if_neg hs, if_neg hs]
      by_cases hdead : x.aspect? = none ∨ ∃ y ∈ calls, y.aspect? = x.aspect?
      · rw [if_pos (.inl hdead), if_pos hdead]
      · rw [if_neg hdead, List.filter_cons]
        by_cases hsame : s.aspect? = x.aspect?
        · simp [hsame]
        · simp [hdead, hsame, Ne.symm hsame]

/-- To take back what is about an aspect drops its criterion. -/
theorem filterMap_criterion?_filter (a : Aspect) (kept : List Setting) :
    (kept.filter (·.aspect? ≠ some a)).filterMap Setting.criterion?
      = Draft.others a (kept.filterMap Setting.criterion?) := by
  rw [Draft.others, List.filterMap_filter, List.filter_filterMap]
  refine List.filterMap_congr fun s _ => ?_
  cases s with
  | criterion c =>
    by_cases hc : c.aspect = a <;>
      simp [Setting.aspect?, Setting.criterion?, Option.filter_some, hc]
  | pattern | occurrence | container => simp [Setting.criterion?]

/-- One more setting in terms of the criteria that survive. -/
theorem criteria_concat (calls : List Setting) (s : Setting) :
    (surviving (calls ++ [s])).filterMap Setting.criterion? =
      match s with
      | .criterion c =>
        Draft.others c.aspect ((surviving calls).filterMap Setting.criterion?) ++ [c]
      | .pattern _ => Draft.others .text ((surviving calls).filterMap Setting.criterion?)
      | _ => (surviving calls).filterMap Setting.criterion? := by
  rw [surviving_concat]
  cases s with
  | criterion c =>
    have hs : (Setting.criterion c).aspect? ≠ none := Option.some_ne_none c.aspect
    rw [if_neg hs, List.filterMap_append]
    exact congrArg (· ++ [c]) (filterMap_criterion?_filter c.aspect (surviving calls))
  | pattern source =>
    have hs : (Setting.pattern source).aspect? ≠ none := Option.some_ne_none Aspect.text
    rw [if_neg hs, List.filterMap_append]
    exact (List.append_nil _).trans (filterMap_criterion?_filter .text (surviving calls))
  | occurrence | container => rfl

/-- One more setting in terms of the last pattern. -/
theorem lastPattern?_concat (calls : List Setting) (s : Setting) :
    lastPattern? (calls ++ [s]) =
      match s with
      | .pattern source => some source
      | .criterion c => if c.aspect = .text then none else lastPattern? calls
      | _ => lastPattern? calls := by
  rw [lastPattern?, lastPattern?, List.filter_append]
  cases s with
  | criterion c => by_cases hc : c.aspect = .text <;> simp [Setting.aspect?, hc]
  | pattern | occurrence | container => simp [Setting.aspect?]

/-- One more setting in terms of the last occurrence. -/
theorem lastOccurrence?_concat (calls : List Setting) (s : Setting) :
    lastOccurrence? (calls ++ [s]) = s.occurrence?.or (lastOccurrence? calls) := by
  rw [lastOccurrence?, List.filterMap_append, List.getLast?_append]
  cases s <;> rfl

/-- One more setting in terms of the last container. -/
theorem lastContainer?_concat (calls : List Setting) (s : Setting) :
    lastContainer? (calls ++ [s]) = s.container?.or (lastContainer? calls) := by
  rw [lastContainer?, List.filterMap_append, List.getLast?_append]
  cases s <;> rfl

/-! ## What a draft holds -/

/-- **What a new draft holds after settings**, by induction on their number. -/
theorem foldl_set_empty (calls : List Setting) :
    calls.foldl Draft.set .empty =
      ⟨(surviving calls).filterMap Setting.criterion?, lastPattern? calls, lastOccurrence? calls,
        (lastContainer? calls).elim [] levels⟩ := by
  induction calls using List.reverseRecOn with
  | nil => rfl
  | append_singleton calls s ih =>
    rw [List.foldl_append, ih, criteria_concat, lastPattern?_concat, lastOccurrence?_concat,
      lastContainer?_concat]
    cases s <;> rfl

/-- A locator is taken up again as if its settings had just been made. -/
theorem foldl_set_settings (h : l.WellFormed) : l.settings.foldl Draft.set .empty = l.toDraft := by
  have hnodup : ((Draft.empty.criteria ++ l.own.criteria).map (·.aspect)).Nodup :=
    (wellFormed_iff.mp h).1.aspects_nodup
  rw [settings, List.foldl_append, List.foldl_append,
    Draft.foldl_criterion l.own.criteria .empty hnodup (.inl rfl), toDraft, container?]
  obtain ⟨⟨criteria, occurrence⟩, containers⟩ := l
  cases occurrence <;> cases containers <;> rfl

namespace Draft

/-- The draft without its containers, of which its criteria are independent. -/
def bare (d : Draft) : Draft := { d with containers := [] }

/-- Settings keep the criteria of a draft well-formed, whatever containers they set. -/
theorem wellFormed_bare_foldl (calls : List Setting) (h : d.bare.WellFormed) :
    (calls.foldl set d).bare.WellFormed := by
  induction calls generalizing d with
  | nil => exact h
  | cons s calls ih =>
    apply ih
    cases s with
    | container c => exact h
    | criterion c => exact @WellFormed.set d.bare h (.criterion c) fun _ hc => nomatch hc
    | pattern source => exact @WellFormed.set d.bare h (.pattern source) fun _ hc => nomatch hc
    | occurrence n => exact @WellFormed.set d.bare h (.occurrence n) fun _ hc => nomatch hc

/-- The draft has a criterion on an aspect, or a pattern that is to become one. -/
def Covers (d : Draft) (a : Aspect) : Prop :=
  (∃ c ∈ d.criteria, c.aspect = a) ∨ d.pattern ≠ none ∧ a = .text

theorem mem_others_iff {c : Criterion} {criteria : List Criterion} :
    c ∈ others a criteria ↔ c ∈ criteria ∧ c.aspect ≠ a := by
  rw [others, List.mem_filter, decide_eq_true_iff]

/-- A setting adds the aspect that it is about, and takes no other away. -/
theorem covers_set : (d.set s).Covers a ↔ s.aspect? = some a ∨ d.Covers a := by
  cases s with
  | criterion | pattern => grind [set, Covers, Setting.aspect?, mem_others_iff]
  | occurrence | container => simp [set, Covers, Setting.aspect?]

/-- A draft covers an aspect as soon as one of the settings is about it. -/
theorem covers_foldl (calls : List Setting) :
    (calls.foldl set d).Covers a ↔ (∃ s ∈ calls, s.aspect? = some a) ∨ d.Covers a := by
  induction calls generalizing d with
  | nil => simp
  | cons s calls ih => simp [ih, covers_set, or_left_comm, or_assoc]

/-- The criterion that a pattern becomes when it is read. -/
def patternCriterion? (source : String) : Option Criterion :=
  (TextMatch.ofPattern source).toOption.map .text

/-- The criteria of a draft can be had if its pattern can be read, and it comes last among them. -/
theorem allCriteria_eq_ok_iff {criteria : List Criterion} :
    d.allCriteria = .ok criteria ↔
      (∀ source, d.pattern = some source → ∃ m, TextMatch.ofPattern source = .ok m)
        ∧ criteria = d.criteria ++ (d.pattern.bind patternCriterion?).toList := by
  rw [allCriteria]
  cases d.pattern with
  | none => simp [eq_comm]
  | some source =>
    cases hm : TextMatch.ofPattern source with
    | error f => simp [hm, Except.map]
    | ok m => simp [hm, patternCriterion?, Except.map, Except.toOption, eq_comm]

/-- The criteria of a draft cannot be had if its pattern cannot be read. -/
theorem allCriteria_eq_error_iff {f : Fault} :
    d.allCriteria = .error f ↔
      ∃ source, d.pattern = some source ∧ TextMatch.ofPattern source = .error f := by
  rw [allCriteria]
  cases d.pattern with
  | none => simp
  | some source => cases hm : TextMatch.ofPattern source <;> simp [hm, Except.map]

/-- The aspects of the criteria that a draft comes to. -/
theorem mem_aspects_iff {criteria : List Criterion} (h : d.allCriteria = .ok criteria) :
    a ∈ criteria.map (·.aspect) ↔ d.Covers a := by
  obtain ⟨hread, rfl⟩ := allCriteria_eq_ok_iff.mp h
  rw [List.map_append, List.mem_append, List.mem_map, Covers]
  refine or_congr_right ?_
  cases hpattern : d.pattern with
  | none => simp
  | some source =>
    obtain ⟨m, hm⟩ := hread source hpattern
    simp [patternCriterion?, hm, Except.toOption, Criterion.aspect]

end Draft

/-! ## The finished draft -/

/-- The last setting on the text, if it is a pattern, can be read. -/
def PatternAccepted (calls : List Setting) : Prop :=
  ∀ source, lastPattern? calls = some source → ∃ m, TextMatch.ofPattern source = .ok m

/-- The criteria that settings come to: those that survive, and a pattern last. -/
def criteriaOf (calls : List Setting) : List Criterion :=
  (surviving calls).filterMap Setting.criterion?
    ++ ((lastPattern? calls).bind Draft.patternCriterion?).toList

/-- The settings that count for a draft that begins empty or with a locator. -/
def callsFrom (origin : Option Locator) (calls : List Setting) : List Setting :=
  origin.elim [] settings ++ calls

/-- The draft that begins empty or with a locator, after settings. -/
def draftFrom (origin : Option Locator) (calls : List Setting) : Draft :=
  calls.foldl Draft.set (origin.elim .empty toDraft)

/-- A locator that is taken up stands for the settings that make it, before all others. -/
theorem draftFrom_eq {origin : Option Locator} (h : ∀ l ∈ origin, l.WellFormed)
    (calls : List Setting) :
    draftFrom origin calls = (callsFrom origin calls).foldl Draft.set .empty := by
  rw [draftFrom, callsFrom, List.foldl_append]
  cases origin with
  | none => rfl
  | some l => exact congrArg (calls.foldl Draft.set ·) (foldl_set_settings (h l rfl)).symm

/-! What settings that are made of a new draft come to. -/

section New

variable {criteria : List Criterion} {f : Fault}

theorem allCriteria_new_iff :
    (calls.foldl Draft.set .empty).allCriteria = .ok criteria ↔
      PatternAccepted calls ∧ criteria = criteriaOf calls := by
  rw [foldl_set_empty]
  exact Draft.allCriteria_eq_ok_iff

/-- The criteria are on the aspects that some setting is about. -/
theorem mem_aspects_criteriaOf (h : PatternAccepted calls) :
    a ∈ (criteriaOf calls).map (·.aspect) ↔ ∃ s ∈ calls, s.aspect? = some a := by
  have hnone : ¬ Draft.Covers .empty a := by simp [Draft.Covers, Draft.empty]
  rw [Draft.mem_aspects_iff (allCriteria_new_iff.mpr ⟨h, rfl⟩), Draft.covers_foldl]
  exact or_iff_left hnone

theorem nodup_aspects_criteriaOf (h : PatternAccepted calls) :
    ((criteriaOf calls).map (·.aspect)).Nodup := by
  have hwell := Draft.wellFormed_bare_foldl calls (d := .empty) Draft.WellFormed.empty
  exact hwell.allCriteria (allCriteria_new_iff.mpr ⟨h, rfl⟩)

/-- There are criteria if any setting made one. -/
theorem criteriaOf_ne_nil_iff (h : PatternAccepted calls) :
    criteriaOf calls ≠ [] ↔ ∃ s ∈ calls, s.aspect? ≠ none := by
  constructor
  · intro hne
    obtain ⟨c, hc⟩ := List.exists_mem_of_ne_nil _ hne
    obtain ⟨s, hs, haspect⟩ := (mem_aspects_criteriaOf h).mp (List.mem_map_of_mem hc)
    exact ⟨s, hs, haspect ▸ Option.some_ne_none _⟩
  · rintro ⟨s, hs, haspect⟩ hnil
    obtain ⟨a, ha⟩ := Option.ne_none_iff_exists'.mp haspect
    have hmem := (mem_aspects_criteriaOf h).mpr ⟨s, hs, ha⟩
    rw [hnil] at hmem
    cases hmem

/-- When a draft can be finished, and what it comes to. -/
theorem build_new_eq_ok_iff :
    (calls.foldl Draft.set .empty).build = .ok l ↔
      PatternAccepted calls ∧ (∃ s ∈ calls, s.aspect? ≠ none) ∧ lastOccurrence? calls ≠ some 0
        ∧ l = ⟨⟨criteriaOf calls, lastOccurrence? calls⟩,
            (lastContainer? calls).elim [] levels⟩ := by
  simp only [Draft.build_eq_ok_iff, allCriteria_new_iff]
  rw [foldl_set_empty]
  constructor
  · rintro ⟨_, ⟨haccepted, rfl⟩, hne, hocc, rfl⟩
    exact ⟨haccepted, (criteriaOf_ne_nil_iff haccepted).mp hne, hocc, rfl⟩
  · rintro ⟨haccepted, hsome, hocc, rfl⟩
    exact ⟨_, ⟨haccepted, rfl⟩, (criteriaOf_ne_nil_iff haccepted).mpr hsome, hocc, rfl⟩

/-- A draft is refused for the last pattern first, then for want of criteria, then for the last
occurrence. -/
theorem build_new_eq_error_iff :
    (calls.foldl Draft.set .empty).build = .error f ↔
      (∃ source, lastPattern? calls = some source ∧ TextMatch.ofPattern source = .error f)
        ∨ PatternAccepted calls ∧ ((∀ s ∈ calls, s.aspect? = none) ∧ f = .noCriteria
          ∨ (∃ s ∈ calls, s.aspect? ≠ none) ∧ lastOccurrence? calls = some 0
            ∧ f = .zeroOccurrence) := by
  have hnone (h : PatternAccepted calls) :
      criteriaOf calls = [] ↔ ∀ s ∈ calls, s.aspect? = none := by
    rw [← not_iff_not, ← ne_eq, criteriaOf_ne_nil_iff h]
    simp only [not_forall, exists_prop]
  rw [Draft.build_eq_error_iff, Draft.allCriteria_eq_error_iff]
  simp only [allCriteria_new_iff]
  simp only [foldl_set_empty]
  refine or_congr_right ⟨?_, ?_⟩
  · rintro ⟨_, ⟨haccepted, rfl⟩, ⟨hnil, rfl⟩ | ⟨hne, hocc, rfl⟩⟩
    · exact ⟨haccepted, .inl ⟨(hnone haccepted).mp hnil, rfl⟩⟩
    · exact ⟨haccepted, .inr ⟨(criteriaOf_ne_nil_iff haccepted).mp hne, hocc, rfl⟩⟩
  · rintro ⟨haccepted, ⟨hnil, rfl⟩ | ⟨hsome, hocc, rfl⟩⟩
    · exact ⟨_, ⟨haccepted, rfl⟩, .inl ⟨(hnone haccepted).mpr hnil, rfl⟩⟩
    · exact ⟨_, ⟨haccepted, rfl⟩,
        .inr ⟨(criteriaOf_ne_nil_iff haccepted).mpr hsome, hocc, rfl⟩⟩

end New

theorem not_ofPattern_eq_error {source : String} {f : Fault}
    (hf : ∀ source reason, f ≠ .badPattern source reason) :
    TextMatch.ofPattern source ≠ .error f := by
  intro h
  obtain ⟨reason, -, rfl⟩ := TextMatch.ofPattern_eq_error_iff.mp h
  exact hf source reason rfl

/-- **The last setting of each kind wins.** A draft, new or of a locator whose criteria, occurrence
and container then count as set before, makes a locator exactly if the last setting on the text, if
it is a pattern, can be read, some criterion was set, and the last occurrence is not zero; otherwise
it is refused for the first of these. So a pattern that was overridden is not even read. The locator
has one criterion for each aspect that was set, the last one on it, in the order in which these last
ones were set, but a pattern comes last; and it has the last occurrence and the last container. -/
theorem build_last_wins (origin : Option Locator) (horigin : ∀ l ∈ origin, Obtainable l)
    (made : List Setting) :
    let calls := callsFrom origin made
    let result := (draftFrom origin made).build
    ((∃ l, result = .ok l) ↔ PatternAccepted calls ∧ (∃ s ∈ calls, s.aspect? ≠ none)
        ∧ lastOccurrence? calls ≠ some 0)
      ∧ (∀ source reason, result = .error (.badPattern source reason) ↔
        lastPattern? calls = some source
          ∧ TextMatch.ofPattern source = .error (.badPattern source reason))
      ∧ (result = .error .noCriteria ↔ PatternAccepted calls ∧ ∀ s ∈ calls, s.aspect? = none)
      ∧ (result = .error .zeroOccurrence ↔ PatternAccepted calls
        ∧ (∃ s ∈ calls, s.aspect? ≠ none) ∧ lastOccurrence? calls = some 0)
      ∧ ∀ l, result = .ok l →
        l.own.criteria = criteriaOf calls
          ∧ (l.own.criteria.map (·.aspect)).Nodup
          ∧ (∀ a, a ∈ l.own.criteria.map (·.aspect) ↔ ∃ s ∈ calls, s.aspect? = some a)
          ∧ l.own.occurrence = lastOccurrence? calls
          ∧ l.container? = lastContainer? calls := by
  intro calls result
  -- A locator that is taken up counts as the settings that make it.
  have hresult : result = (calls.foldl Draft.set .empty).build :=
    congrArg Draft.build (draftFrom_eq (fun l hl => (horigin l hl).wellFormed) made)
  rw [hresult]
  refine ⟨?_, fun source reason => ?_, ?_, ?_, fun l hl => ?_⟩
  · simp only [build_new_eq_ok_iff, exists_and_left, exists_eq, and_true]
  · rw [build_new_eq_error_iff]
    constructor
    · rintro (⟨source', hlast, herror⟩ | ⟨-, ⟨-, hf⟩ | ⟨-, -, hf⟩⟩)
      · obtain ⟨_, -, hf⟩ := TextMatch.ofPattern_eq_error_iff.mp herror
        cases hf
        exact ⟨hlast, herror⟩
      · cases hf
      · cases hf
    · exact fun h => .inl ⟨source, h⟩
  · simp [build_new_eq_error_iff, not_ofPattern_eq_error]
  · simp [build_new_eq_error_iff, not_ofPattern_eq_error]
  · obtain ⟨haccepted, -, -, rfl⟩ := build_new_eq_ok_iff.mp hl
    refine ⟨rfl, nodup_aspects_criteriaOf haccepted, fun a => mem_aspects_criteriaOf haccepted, rfl,
      ?_⟩
    cases lastContainer? calls <;> rfl

/-- A button that is taken up again: its text is replaced by a pattern that cannot be read and that
by another, which then comes last. -/
theorem build_last_wins_second_pattern :
    let button : Locator := ⟨⟨[.text (.exact "OK"), .kind "Button"], some 2⟩, []⟩
    let made : List Setting := [.criterion (.name "yes"), .pattern "(", .criterion (.kind "Item"),
      .pattern "Y(es)?", .occurrence 0, .occurrence 3]
    Obtainable button ∧ ∃ l, (draftFrom (some button) made).build = .ok l
      ∧ l.own.criteria.map (·.describe) = ["name='yes'", "type='Item'", "text=/Y(es)?/"]
      ∧ l.own.occurrence = some 3 := by
  intro button made
  have hbutton : Obtainable button :=
    @Obtainable.built [.criterion (.text (.exact "OK")), .criterion (.kind "Button"),
      .occurrence 2] _ (fun c hc => by simp at hc) rfl
  have horigin : ∀ l ∈ some button, Obtainable l := by
    rintro _ ⟨⟩
    exact hbutton
  obtain ⟨hok, -, -, -, hmade⟩ := build_last_wins (some button) horigin made
  have haccepted : PatternAccepted (callsFrom (some button) made) := by
    rintro _ ⟨⟩
    exact ⟨_, rfl⟩
  obtain ⟨l, hl⟩ := hok.mpr
    ⟨haccepted, ⟨.criterion (.name "yes"), by simp [callsFrom, made], nofun⟩, by decide⟩
  obtain ⟨hcriteria, -, -, hoccurrence, -⟩ := hmade l hl
  refine ⟨hbutton, l, hl, ?_, hoccurrence⟩
  rw [hcriteria]
  rfl

end GuiTest.Locator
