import GuiTest.Proofs.Element.Position

/-!
# Changing one element

To change the attributes of the element at a position changes them there and nowhere else
(`Forest.attributesAt?_modifyAt`), so the forest has the same positions as before
(`Forest.positions_modifyAt`).
-/

namespace GuiTest

namespace Element

/-- Changes the element that a position leads to from an element. -/
def modifyAt (f : Element → Element) (e : Element) : Position → Element
  | [] => f e
  | i :: p => node e.attributes (Forest.modifyAt f e.children (i :: p))

end Element

namespace Forest

/-- The attributes of the element at a position. -/
def attributesAt? (forest : Forest) (p : Position) : Option Attributes :=
  (forest.at? p).map Element.attributes

theorem modifyAt_cons (f : Element → Element) (forest : Forest) (i : Nat) (p : Position) :
    forest.modifyAt f (i :: p) = forest.modify i fun e => e.modifyAt f p := by
  cases p <;> rfl

end Forest

namespace Element

/-- The attributes below an element that is changed, by induction on the way to the change. -/
theorem attributes_at?_modifyAt (g : Attributes → Attributes) (e : Element) (p q : Position) :
    ((e.modifyAt (modify g) p).at? q).map attributes =
      if q = p then ((e.at? q).map attributes).map g else (e.at? q).map attributes := by
  induction p generalizing e q with
  | nil =>
    obtain ⟨a, children⟩ := e
    cases q <;> rfl
  | cons i p ih =>
    obtain ⟨a, children⟩ := e
    cases q with
    | nil => rfl
    | cons j q =>
      show ((Forest.modifyAt (modify g) children (i :: p)).at? (j :: q)).map attributes = _
      rw [Forest.modifyAt_cons, Forest.at?_cons, List.getElem?_modify, at?, Forest.at?_cons]
      show _ = if _ then ((children[j]?.bind (·.at? q)).map attributes).map g else
        (children[j]?.bind (·.at? q)).map attributes
      cases children[j]? with
      | none => simp
      | some x =>
        by_cases hij : i = j
        · simp [hij, ih]
        · simp [hij, Ne.symm hij]

end Element

namespace Forest

/-- **A change at one position changes nothing elsewhere.** -/
theorem attributesAt?_modifyAt (g : Attributes → Attributes) (forest : Forest) (p q : Position) :
    (forest.modifyAt (Element.modify g) p).attributesAt? q =
      if q = p then (forest.attributesAt? q).map g else forest.attributesAt? q := by
  cases q with
  | nil =>
    -- No element is at the empty position, so there is nothing to change or to find.
    show none = if [] = p then Option.map g none else none
    rw [Option.map_none, ite_self]
  | cons j q =>
    cases p with
    | nil => rfl
    | cons i p => exact Element.attributes_at?_modifyAt g (.node {} forest) (i :: p) (j :: q)

/-- A change of attributes adds no element and takes none away. -/
theorem positions_modifyAt (g : Attributes → Attributes) (forest : Forest) (p : Position) :
    (forest.modifyAt (Element.modify g) p).positions = forest.positions := by
  have hmem (forest : Forest) (q : Position) :
      q ∈ forest.positions ↔ (forest.attributesAt? q).isSome := by
    rw [mem_positions, attributesAt?, Option.isSome_map, Option.isSome_iff_exists]
  refine List.Pairwise.eq_of_mem_iff (pairwise_positions _) (pairwise_positions _) fun q => ?_
  rw [hmem, hmem, attributesAt?_modifyAt]
  split
  · rw [Option.isSome_map]
  · rfl

end Forest

end GuiTest
