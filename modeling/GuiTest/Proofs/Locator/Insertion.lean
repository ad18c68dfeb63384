import GuiTest.Proofs.Element.Insertion
import GuiTest.Proofs.Locator.Search

/-!
# Searches and inserted elements

Where no level of a locator picks an occurrence, whether an element is meant depends on its own
attributes and on those of the elements that it lies in. Both stay when new trees come in: no new
tree contains an old element. So an old element is admitted after an insertion if and only if it was
before (`admits_moved_iff`), and `find_insertAt` says what this makes of a search.
-/

namespace GuiTest

open Position

namespace Locator

/-- No level picks one of several occurrences. -/
def MeansAll (l : Locator) : Prop := ∀ level ∈ l.levels, level.occurrence = none

instance (l : Locator) : Decidable l.MeansAll := inferInstanceAs (Decidable (∀ _ ∈ _, _))

section Inserting

variable {l : Locator} {forest new : Forest} {index : Nat} {parent p : Position}

theorem find_of_meansAll (h : l.MeansAll) (forest : Forest) :
    l.find forest = l.admitted forest := by
  rw [find_eq_pick, Level.pick, h l.own List.mem_cons_self]

theorem MeansAll.container {c : Locator} (h : l.MeansAll) (hc : c ∈ l.container?) : c.MeansAll := by
  obtain ⟨level, containers⟩ := l
  cases containers with
  | nil => cases hc
  | cons container outer =>
    obtain rfl := Option.some.inj hc
    exact fun level hlevel => h level (List.mem_cons_of_mem _ hlevel)

/-- Only the attributes at a position count for the own criteria. -/
theorem meets_iff {level : Level} :
    (∃ e ∈ forest.at? p, ∀ c ∈ level.criteria, c.accepts e.attributes) ↔
      ∃ a ∈ forest.attributesAt? p, ∀ c ∈ level.criteria, c.accepts a := by
  simp [Forest.attributesAt?]

/-- **An insertion does not change which of the old elements a locator admits.** -/
theorem admits_moved_iff (h : l.MeansAll) :
    l.Admits (forest.insertAt new index parent) (moved index new.length parent p)
      ↔ l.Admits forest p := by
  obtain ⟨level, containers⟩ := l
  induction containers generalizing level p with
  | nil =>
    unfold Admits
    rw [meets_iff, meets_iff, Forest.attributesAt?_insertAt]
    exact and_congr_right fun _ => ⟨fun _ => nofun, fun _ => nofun⟩
  | cons container outer ih =>
    unfold Admits
    rw [meets_iff, meets_iff, Forest.attributesAt?_insertAt]
    refine and_congr_right fun _ => forall₂_congr fun c hc => ?_
    have hall := h.container hc
    obtain rfl := Option.some.inj hc
    rw [find_of_meansAll hall, find_of_meansAll hall]
    constructor
    · intro hup
      obtain ⟨q, hq, hqp⟩ := hup
      -- A container of an old element is not new: otherwise the element would be, too.
      have hold : ¬ IsNew index new.length parent q := fun hnew =>
        not_isNew_moved (hnew.of_isPrefix hqp.1)
      obtain ⟨q, rfl⟩ := exists_moved_eq hold
      rw [mem_admitted, ih container hall] at hq
      exact ⟨q, mem_admitted.mpr hq, isAbove_moved_iff.mp hqp⟩
    · intro hup
      obtain ⟨q, hq, hqp⟩ := hup
      refine ⟨moved index new.length parent q, ?_, isAbove_moved_iff.mpr hqp⟩
      rw [mem_admitted, ih container hall]
      exact mem_admitted.mp hq

/-- Of what is found after an insertion, the old elements are those that were found before. -/
theorem filter_find_insertAt (h : l.MeansAll) (forest new : Forest) (index : Nat)
    (parent : Position) :
    (l.find (forest.insertAt new index parent)).filter (¬ IsNew index new.length parent ·)
      = (l.find forest).map (moved index new.length parent) := by
  rw [find_of_meansAll h, find_of_meansAll h, admitted, admitted, List.filter_comm,
    Forest.positions_insertAt, List.filter_map]
  refine congrArg (List.map _) (List.filter_congr fun p _ => ?_)
  exact decide_eq_decide.mpr (admits_moved_iff h)

end Inserting

/-- **Inserted elements do not disturb a search.** If no level of a locator picks an occurrence,
then of the elements that were there before an insertion the locator means the same ones as before,
in the same order, and all else that it means is in the new trees. The positions of the old elements
are told by `moved`: it lists all of them in their order, each with the attributes that it had. -/
theorem find_insertAt (l : Locator) (forest new : Forest) (index : Nat) (parent : Position)
    (all : l.MeansAll) :
    let grown := forest.insertAt new index parent
    let moved := Position.moved index new.length parent
    let isOld : Position → Bool := fun p => ¬ IsNew index new.length parent p
    (grown.positions.filter isOld = forest.positions.map moved
        ∧ ∀ p, grown.attributesAt? (moved p) = forest.attributesAt? p)
      ∧ (l.find grown).filter isOld = (l.find forest).map moved
      ∧ (∀ p, moved p ∈ l.find grown ↔ p ∈ l.find forest)
      ∧ (∀ q ∈ l.find grown, q ∉ (l.find forest).map moved →
        ∃ j < new.length, ∃ p, q = parent ++ (index + j) :: p
          ∧ grown.at? q = new.at? (j :: p)) := by
  intro grown moved isOld
  have hfind : (l.find grown).filter isOld = (l.find forest).map moved :=
    filter_find_insertAt all forest new index parent
  refine ⟨⟨Forest.positions_insertAt forest new index parent,
    Forest.attributesAt?_insertAt forest new index parent⟩, hfind, fun p => ?_, fun q hq hnot => ?_⟩
  · rw [find_of_meansAll all, find_of_meansAll all, mem_admitted, mem_admitted]
    exact admits_moved_iff all
  · rw [← hfind, List.mem_filter, decide_eq_true_iff] at hnot
    -- What is found now and was not found before is none of the old elements.
    have hnew : IsNew index new.length parent q := by_contra fun hold => hnot ⟨hq, hold⟩
    obtain ⟨j, hj, p, rfl⟩ := isNew_iff.mp hnew
    obtain ⟨x, hx⟩ := Forest.mem_positions.mp (Admits.of_mem_find hq).mem_positions
    exact ⟨j, hj, p, rfl, hx.trans (Forest.at?_insertAt_new hj hx).symm⟩

/-- A pane and a button come in before the second of two panes; a button in the new pane is found
in addition. -/
theorem find_insertAt_second_pane :
    let button : Element := .ofKind "Button"
    let pane (inside : List Element) : Element := .node { kind := some "Pane" } inside
    let window (inside : List Element) : Element := .node { kind := some "Window" } inside
    let forest : Forest := [window [pane [button], pane [button, button]]]
    let new : Forest := [pane [pane [button]], button]
    let l : Locator := ⟨⟨[.kind "Button"], none⟩, [⟨[.kind "Pane"], none⟩]⟩
    l.MeansAll
      ∧ l.find forest = [[0, 0, 0], [0, 1, 0], [0, 1, 1]]
      ∧ l.find (forest.insertAt new 1 [0]) = [[0, 0, 0], [0, 1, 0, 0], [0, 3, 0], [0, 3, 1]]
      ∧ (l.find (forest.insertAt new 1 [0])).filter (¬ IsNew 1 2 [0] ·)
        = (l.find forest).map (moved 1 2 [0]) :=
  ⟨by decide, by decide, by decide, (find_insertAt _ _ [_, _] 1 [0] (by decide)).2.1⟩

/-- Where an occurrence is picked, a new element can take the place of an old one. -/
example :
    let l : Locator := ⟨⟨[.kind "Button"], some 1⟩, []⟩
    let forest : Forest := [.ofKind "Button"]
    (l.find forest = [[0]] ∧ moved 0 1 [] [0] = [1])
      ∧ l.find (forest.insertAt [.ofKind "Button"] 0 []) = [[0]] := by
  decide

end Locator

end GuiTest
