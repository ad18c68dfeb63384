import GuiTest.Locator.Draft
import GuiTest.Proofs.Application.Ownership

/-!
# Which reactions a click sets off

Criteria are met together, so a search finds the same whatever their order (`Alike.find`), and
clicks on locators that are alike are aimed at the same element. Reactions are chosen otherwise: a
click sets off those that were registered for the very locator that is clicked, its criteria in the
same order. So of two locators that are alike but not equal, each sets off the reactions of its own
(`fired_eq_iff`), and some reaction always tells them apart (`clicks_on_alike`).
-/

namespace GuiTest

/-! ## Locators with the same criteria -/

/-- Two levels with the same criteria, in whatever order, and the same occurrence. -/
structure Level.Alike (a b : Level) : Prop where
  criteria : ∀ c, c ∈ a.criteria ↔ c ∈ b.criteria
  occurrence : a.occurrence = b.occurrence

namespace Level.Alike

variable {a b : Level}

theorem accepts (h : a.Alike b) (e : Element) : a.accepts e = b.accepts e := by
  rw [Bool.eq_iff_iff, Level.accepts, Level.accepts, List.all_eq_true, List.all_eq_true]
  exact forall_congr' fun c => imp_congr_left (h.criteria c)

theorem pick {α : Type} (h : a.Alike b) (found : List α) : a.pick found = b.pick found := by
  rw [Level.pick, Level.pick, h.occurrence]

end Level.Alike

namespace Locator

/-- Two locators that differ in the order of their criteria only, at each level. -/
def Alike (l m : Locator) : Prop := List.Forall₂ Level.Alike l.levels m.levels

variable {a b : Level} {forest : Forest}

theorem matching_alike (h : a.Alike b) (forest : Forest) :
    matching a forest = matching b forest := by
  rw [matching, matching, List.filter_congr fun x _ => h.accepts x.2]

/-- Levels alike match the same elements below a position. -/
theorem matchingBelow_alike (h : a.Alike b) (forest : Forest) :
    matchingBelow a forest = matchingBelow b forest := by
  funext scope
  rw [matchingBelow, matchingBelow]
  cases forest.at? scope with
  | none => rfl
  | some e =>
    dsimp only
    rw [matching_alike h]

/-- Levels alike, within levels alike, find the same elements. -/
theorem findLevel_alike (forest : Forest) {outer outer' : List Level}
    (houter : List.Forall₂ Level.Alike outer outer') {a b : Level} (h : a.Alike b) :
    findLevel forest a outer = findLevel forest b outer' := by
  induction houter generalizing a b with
  | nil => rw [findLevel, findLevel, matching_alike h, h.pick]
  | cons hcontainer _ ih =>
    rw [findLevel, findLevel, ih hcontainer, matchingBelow_alike h, h.pick]

/-- The order of the criteria does not matter to a search. -/
theorem Alike.find {l m : Locator} (h : l.Alike m) (forest : Forest) :
    l.find forest = m.find forest := by
  cases h with
  | cons hown hcontainers => exact findLevel_alike forest hcontainers hown

theorem Alike.locate? {l m : Locator} (h : l.Alike m) (forest : Forest) :
    l.locate? forest = m.locate? forest :=
  congrArg List.head? (h.find forest)

end Locator

namespace Desktop

variable {d : Desktop} {ctx : AppContext} {l m : Locator} {p : Position}

/-! ## Clicks -/

/-- The reactions that a click on a locator sets off, in their order. -/
def fired (d : Desktop) (ctx : AppContext) (l : Locator) : List Reaction :=
  d.reactions.filter fun r => Reaction.firesOn r ctx l

/-- What is left behind by a click on a locator. -/
def clicked (d : Desktop) (ctx : AppContext) (l : Locator) : Desktop :=
  (Operation.runOn (perform ctx l .click) d).2

/-- What fires waits for just that locator. -/
theorem locator_of_mem_fired {r : Reaction} (h : r ∈ d.fired ctx l) : r.locator = l := by
  have hfires := (List.mem_filter.mp h).2
  rw [Reaction.firesOn, Bool.and_eq_true, beq_iff_eq, beq_iff_eq] at hfires
  exact hfires.2

/-- Two locators set off the same reactions only if they are equal or set off none. -/
theorem fired_eq_iff (d : Desktop) (ctx : AppContext) (l m : Locator) :
    d.fired ctx l = d.fired ctx m ↔ l = m ∨ d.fired ctx l = [] ∧ d.fired ctx m = [] := by
  constructor
  · intro h
    cases hfired : d.fired ctx l with
    | nil => exact Or.inr ⟨rfl, h.symm.trans hfired⟩
    | cons r rest =>
      -- A reaction that both set off was registered for both.
      have hl : r ∈ d.fired ctx l := hfired ▸ List.mem_cons_self
      have hm : r ∈ d.fired ctx m := h ▸ hl
      exact Or.inl ((locator_of_mem_fired hl).symm.trans (locator_of_mem_fired hm))
  · rintro (rfl | ⟨hl, hm⟩)
    · rfl
    · rw [hl, hm]

/-- A click changes the elements that are shown of its context, by the reactions that it sets off,
if it finds the element that it is aimed at. -/
theorem contexts_clicked (d : Desktop) (ctx : AppContext) (l : Locator) :
    (d.clicked ctx l).contexts
      = modifyFirst ctx.id
        (fun forest =>
          match l.locate? forest with
          | some _ => (d.fired ctx l).foldl (fun forest r => r.respond r.runs forest) forest
          | none => forest)
        d.contexts := by
  show ((Request.gesture ctx l .click).run 0 d).2.contexts = _
  exact contexts_run_of_target rfl

/-- Clicks on locators that are alike are aimed at the same element, or fail both. -/
theorem aim_alike (h : l.Alike m) (p : Position) : d.aim ctx l = .ok p ↔ d.aim ctx m = .ok p := by
  rw [aim, aim]
  cases d.tree? ctx with
  | none => simp
  | some forest =>
    dsimp only
    rw [h.locate? forest]
    cases m.locate? forest <;> simp

/-- Only the reactions that are set off matter to what a click leaves. -/
theorem contexts_clicked_alike (h : l.Alike m) (hfired : d.fired ctx l = d.fired ctx m) :
    (d.clicked ctx l).contexts = (d.clicked ctx m).contexts := by
  rw [contexts_clicked, contexts_clicked, hfired]
  congr 1
  funext forest
  rw [h.locate? forest]

/-! ## Telling locators apart -/

/-- What is shown of a context when its first entry was changed. -/
theorem tree?_of_modifyFirst {after : Desktop} {f : Forest → Forest}
    (h : after.contexts = modifyFirst ctx.id f d.contexts) :
    after.tree? ctx = (d.tree? ctx).map f := by
  rw [tree?, tree?, h]
  induction d.contexts with
  | nil => rfl
  | cons c rest ih =>
    rw [modifyFirst]
    by_cases hc : c.context.id = ctx.id
    · simp [hc]
    · have hother : (c.context.id == ctx.id) = false := beq_false_of_ne hc
      rw [if_neg hc, List.find?_cons, List.find?_cons, hother]
      exact ih

/-- The reaction to a locator that clears the elements. -/
def clearing (ctx : AppContext) (l : Locator) : Reaction where
  context := ctx.name
  locator := l
  respond _ _ := []

theorem fired_clearing (d : Desktop) (ctx : AppContext) (l k : Locator) :
    fired { d with reactions := [clearing ctx l] } ctx k
      = if l = k then [clearing ctx l] else [] := by
  by_cases h : l = k <;> simp [fired, Reaction.firesOn, clearing, h]

/-- A reaction to one of two locators that are not equal is told by the elements that are left. -/
theorem contexts_clearing_ne (h : l.Alike m) (hne : l ≠ m) (haim : d.aim ctx l = .ok p) :
    (clicked { d with reactions := [clearing ctx l] } ctx l).contexts
      ≠ (clicked { d with reactions := [clearing ctx l] } ctx m).contexts := by
  -- Both clicks find the element, but only that on `l` sets off the reaction, which clears it.
  obtain ⟨forest, htree, hl⟩ := aim_eq_ok haim
  have hm : m.locate? forest = some p := (h.locate? forest).symm.trans hl
  have hcleared : (clicked { d with reactions := [clearing ctx l] } ctx l).tree? ctx = some [] := by
    rw [tree?_of_modifyFirst (contexts_clicked _ ctx l), fired_clearing, if_pos rfl]
    show (d.tree? ctx).map _ = _
    rw [htree, Option.map_some, hl]
    rfl
  have hkept : (clicked { d with reactions := [clearing ctx l] } ctx m).tree? ctx
      = some forest := by
    rw [tree?_of_modifyFirst (contexts_clicked _ ctx m), fired_clearing, if_neg hne]
    show (d.tree? ctx).map _ = _
    rw [htree, Option.map_some, hm]
    rfl
  intro hsame
  have hforest : forest = [] := by
    rw [tree?, hsame, ← tree?, hkept] at hcleared
    exact Option.some.inj hcleared
  obtain ⟨e, he⟩ := Locator.exists_at?_of_locate? hl
  rw [hforest] at he
  cases p with
  | nil => cases he
  | cons i p => cases p <;> simp [Forest.at?] at he

/-- **What clicks on locators that are alike have in common.** They are aimed at the same element or
fail both. Each sets off the reactions that were registered for it as it is written, so they set off
the same only if they are equal or no reaction was registered for either; then they leave the same
elements. Of two that are not equal and find an element, each has a reaction that the other does not
set off and that leaves other elements. -/
theorem clicks_on_alike (d : Desktop) (ctx : AppContext) {l m : Locator} (h : l.Alike m) :
    (∀ p, d.aim ctx l = .ok p ↔ d.aim ctx m = .ok p)
      ∧ (d.fired ctx l = d.fired ctx m ↔ l = m ∨ d.fired ctx l = [] ∧ d.fired ctx m = [])
      ∧ (d.fired ctx l = d.fired ctx m → (d.clicked ctx l).contexts = (d.clicked ctx m).contexts)
      ∧ ((∃ p, d.aim ctx l = .ok p) →
        ((∀ reactions, (clicked { d with reactions } ctx l).contexts
          = (clicked { d with reactions } ctx m).contexts) ↔ l = m)) := by
  refine ⟨aim_alike h, fired_eq_iff d ctx l m, contexts_clicked_alike h, ?_⟩
  rintro ⟨p, haim⟩
  constructor
  · intro hsame
    by_contra hne
    exact contexts_clearing_ne h hne haim (hsame _)
  · rintro rfl reactions
    rfl

/-- Two locators that are alike at both of their levels, of which a reaction is registered for
neither: clicks on them leave the same, but that is not so whatever is registered. -/
theorem clicks_on_alike_in_container :
    let ok : Level := ⟨[.kind "Button", .text (.exact "OK")], some 1⟩
    let okAgain : Level := ⟨[.text (.exact "OK"), .kind "Button"], some 1⟩
    let dialog : Level := ⟨[.kind "Dialog", .name "find"], none⟩
    let dialogAgain : Level := ⟨[.name "find", .kind "Dialog"], none⟩
    let l : Locator := ⟨ok, [dialog]⟩
    let m : Locator := ⟨okAgain, [dialogAgain]⟩
    let button : Element := .node { kind := some "Button", text := some "OK" } []
    let forest : Forest := [.node { kind := some "Dialog", name := some "find" } [button]]
    let ide : AppContext := ⟨1, "devenv", none⟩
    let d : Desktop := { contexts := [⟨ide, forest⟩], reactions := [clearing ide ⟨dialog, []⟩] }
    l.Alike m ∧ d.aim ide l = .ok [0, 0] ∧ d.aim ide m = .ok [0, 0]
      ∧ (d.clicked ide l).contexts = (d.clicked ide m).contexts
      ∧ ¬ ∀ reactions, (clicked { d with reactions } ide l).contexts
        = (clicked { d with reactions } ide m).contexts := by
  intro ok okAgain dialog dialogAgain l m button forest ide d
  have hok : ok.Alike okAgain := ⟨fun c => by simp [ok, okAgain, or_comm], rfl⟩
  have hdialog : dialog.Alike dialogAgain :=
    ⟨fun c => by simp [dialog, dialogAgain, or_comm], rfl⟩
  have hl : l.Alike m := .cons hok (.cons hdialog .nil)
  have haim : d.aim ide l = .ok [0, 0] := by decide +kernel
  obtain ⟨haimed, hfired, hsame, hequal⟩ := clicks_on_alike d ide hl
  refine ⟨hl, haim, (haimed [0, 0]).mp haim, hsame (hfired.mpr (Or.inr ⟨rfl, rfl⟩)), ?_⟩
  rw [hequal ⟨[0, 0], haim⟩]
  decide

/-- Of two locators that were built from the same criteria in different order one sets off the
reaction and one does not. -/
theorem clicks_on_alike_differ :
    let kind : Locator.Setting := .criterion (.kind "Button")
    let text : Locator.Setting := .criterion (.text (.exact "OK"))
    let l : Locator := ⟨⟨[.kind "Button", .text (.exact "OK")], none⟩, []⟩
    let m : Locator := ⟨⟨[.text (.exact "OK"), .kind "Button"], none⟩, []⟩
    let button : Element := .node { kind := some "Button", text := some "OK" } []
    let ide : AppContext := ⟨1, "devenv", none⟩
    let d : Desktop := (Desktop.empty.addContext ⟨ide, [button]⟩).onClick (clearing ide l)
    ([kind, text].foldl Locator.Draft.set .empty).build = .ok l
      ∧ ([text, kind].foldl Locator.Draft.set .empty).build = .ok m
      ∧ l.Alike m ∧ (d.fired ide l).length = 1 ∧ (d.fired ide m).length = 0
      ∧ (d.clicked ide l).contexts = [⟨ide, []⟩]
      ∧ (d.clicked ide m).contexts = [⟨ide, [button]⟩] := by
  intro kind text l m button ide d
  have hown : l.own.Alike m.own := ⟨fun c => by simp [l, m, or_comm], rfl⟩
  exact ⟨rfl, rfl, .cons hown .nil, rfl, rfl, rfl, rfl⟩

end Desktop

end GuiTest
