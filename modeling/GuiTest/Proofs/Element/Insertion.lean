import GuiTest.Proofs.Element.Change

/-!
# Inserting elements

New trees come in among the roots, or among the children of an element (`Forest.insertAt`). What was
there stays, but the later siblings of the new trees get other numbers, and with them all positions
that lead through these (`Position.moved`). A position in the new forest either leads into one of
the new trees (`Position.IsNew`) or is one of the old ones, moved; so the old elements are still
there, with their attributes and in their order (`Forest.positions_insertAt`).
-/

namespace GuiTest

namespace Position

/-- The new number of a sibling when `count` others come in before number `index`. -/
def shifted (index count j : Nat) : Nat := if j < index then j else j + count

/-- The new position of an element when `count` trees come in before number `index` among the
children of the element at `parent`, or among the roots if that is empty. -/
def moved (index count : Nat) : (parent p : Position) → Position
  | [], [] => []
  | [], j :: p => shifted index count j :: p
  | _ :: _, [] => []
  | i :: parent, j :: p => j :: if i = j then moved index count parent p else p

/-- The position leads to the trees that come in, or on into them. -/
def IsNew (index count : Nat) (parent p : Position) : Prop :=
  parent <+: p ∧ ∃ j ∈ p[parent.length]?, index ≤ j ∧ j < index + count

instance (index count : Nat) (parent p : Position) : Decidable (IsNew index count parent p) :=
  inferInstanceAs (Decidable (_ ∧ _))

section Moving

variable {index count i j k : Nat} {parent p q : Position}

theorem shifted_lt_shifted : shifted index count j < shifted index count k ↔ j < k := by
  unfold shifted
  split <;> split <;> omega

theorem shifted_inj : shifted index count j = shifted index count k ↔ j = k := by
  unfold shifted
  split <;> split <;> omega

/-! ### Positions that are moved -/

@[simp] theorem moved_nil : moved index count parent [] = [] := by
  cases parent <;> rfl

/-- What is inside of what is the same after the move. -/
theorem moved_isPrefix_iff :
    moved index count parent q <+: moved index count parent p ↔ q <+: p := by
  -- Indexes are compared one by one; only one of them moves, and in both alike.
  induction parent generalizing q p with
  | nil =>
    cases q with
    | nil => simp
    | cons j q =>
      cases p with
      | nil => simp [moved]
      | cons k p => rw [moved, moved, List.cons_prefix_cons, List.cons_prefix_cons, shifted_inj]
  | cons i parent ih =>
    cases q with
    | nil => simp
    | cons j q =>
      cases p with
      | nil => simp [moved]
      | cons k p =>
        rw [moved, moved, List.cons_prefix_cons, List.cons_prefix_cons]
        refine and_congr_right fun hjk => ?_
        subst hjk
        split
        next => exact ih
        next => exact Iff.rfl

/-- No two elements come to stand at one position. -/
theorem moved_inj : moved index count parent q = moved index count parent p ↔ q = p := by
  constructor
  · intro h
    have hqp : q <+: p := moved_isPrefix_iff.mp ⟨[], by rw [List.append_nil, h]⟩
    have hpq : p <+: q := moved_isPrefix_iff.mp ⟨[], by rw [List.append_nil, h]⟩
    exact hqp.eq_of_length_le hpq.length_le
  · exact fun h => h ▸ rfl

theorem isAbove_moved_iff :
    IsAbove (moved index count parent q) (moved index count parent p) ↔ IsAbove q p :=
  and_congr moved_isPrefix_iff (not_congr moved_inj)

/-- What comes first still comes first. -/
theorem moved_lt_moved (h : q < p) : moved index count parent q < moved index count parent p := by
  induction parent generalizing q p with
  | nil =>
    cases h with
    | nil => rw [moved_nil, moved]; exact List.nil_lt_cons _ _
    | rel hjk => exact List.Lex.rel (shifted_lt_shifted.mpr hjk)
    | cons hqp => exact List.Lex.cons hqp
  | cons i parent ih =>
    cases h with
    | nil => rw [moved_nil, moved]; exact List.nil_lt_cons _ _
    | rel hjk => exact List.Lex.rel hjk
    | cons hqp =>
      refine List.Lex.cons ?_
      split
      next => exact ih hqp
      next => exact hqp

/-! ### New positions -/

/-- What is new stands in one of the places that were made for new children. -/
theorem isNew_iff :
    IsNew index count parent p ↔ ∃ j < count, ∃ r, p = parent ++ (index + j) :: r := by
  constructor
  · intro h
    obtain ⟨⟨r, rfl⟩, j, hj, hle, hlt⟩ := h
    rw [List.getElem?_append_right (Nat.le_refl _), Nat.sub_self] at hj
    cases r with
    | nil => cases hj
    | cons k r =>
      cases hj
      exact ⟨j - index, by omega, r, by rw [Nat.add_sub_cancel' hle]⟩
  · intro h
    obtain ⟨j, hj, r, rfl⟩ := h
    refine ⟨List.prefix_append _ _, index + j, ?_, by omega, by omega⟩
    rw [List.getElem?_append_right (Nat.le_refl _), Nat.sub_self]
    rfl

theorem isNew_nil_cons : IsNew index count [] (j :: p) ↔ index ≤ j ∧ j < index + count := by
  simp [IsNew]

theorem isNew_cons_cons :
    IsNew index count (i :: parent) (j :: p) ↔ i = j ∧ IsNew index count parent p := by
  simp [IsNew, List.cons_prefix_cons, and_assoc]

theorem not_isNew_nil : ¬ IsNew index count parent [] := by
  simp [IsNew]

/-- What is inside of a new tree is new. -/
theorem IsNew.of_isPrefix (h : IsNew index count parent q) (hqp : q <+: p) :
    IsNew index count parent p := by
  rw [isNew_iff] at h ⊢
  obtain ⟨j, hj, r, rfl⟩ := h
  obtain ⟨t, rfl⟩ := hqp
  exact ⟨j, hj, r ++ t, by rw [List.append_assoc, List.cons_append]⟩

/-- No old element comes to stand where something is new. -/
theorem not_isNew_moved : ¬ IsNew index count parent (moved index count parent p) := by
  induction parent generalizing p with
  | nil =>
    cases p with
    | nil => exact not_isNew_nil
    | cons j p =>
      rw [moved, isNew_nil_cons, shifted]
      split <;> omega
  | cons i parent ih =>
    cases p with
    | nil => exact not_isNew_nil
    | cons j p =>
      rw [moved, isNew_cons_cons]
      intro h
      obtain ⟨hij, h⟩ := h
      rw [if_pos hij] at h
      exact ih h

/-- A position that is not new is an old one, moved. -/
theorem exists_moved_eq (h : ¬ IsNew index count parent p) :
    ∃ q, moved index count parent q = p := by
  induction parent generalizing p with
  | nil =>
    cases p with
    | nil => exact ⟨[], rfl⟩
    | cons j p =>
      rw [isNew_nil_cons] at h
      by_cases hj : j < index
      · exact ⟨j :: p, by rw [moved, shifted, if_pos hj]⟩
      · -- A later sibling had its number before the new trees came in.
        refine ⟨(j - count) :: p, ?_⟩
        rw [moved, shifted, if_neg (by omega), Nat.sub_add_cancel (by omega)]
  | cons i parent ih =>
    cases p with
    | nil => exact ⟨[], rfl⟩
    | cons j p =>
      by_cases hij : i = j
      · obtain ⟨q, hq⟩ := ih fun hnew => h (isNew_cons_cons.mpr ⟨hij, hnew⟩)
        exact ⟨j :: q, by rw [moved, if_pos hij, hq]⟩
      · exact ⟨j :: p, by rw [moved, if_neg hij]⟩

end Moving

end Position

open Position

namespace Forest

/-- Puts new trees before number `index` among the children of the element at `parent`, or among the
roots if that is empty. If there is no such place, nothing is put anywhere. -/
def insertAt (forest new : Forest) (index : Nat) : (parent : Position) → Forest
  | [] => if index ≤ forest.length then forest.take index ++ new ++ forest.drop index else forest
  | i :: parent =>
    forest.modify i fun e => .node e.attributes (insertAt e.children new index parent)

/-- A sibling is found under its new number. -/
theorem getElem?_insertAt_shifted (forest new : Forest) (index j : Nat) :
    (forest.insertAt new index [])[shifted index new.length j]? = forest[j]? := by
  unfold insertAt shifted
  split
  next hle =>
    have hlength : (forest.take index).length = index := List.length_take_of_le hle
    split
    next hlt =>
      rw [List.append_assoc, List.getElem?_append_left (by omega), List.getElem?_take_of_lt hlt]
    next hge =>
      rw [List.getElem?_append_right (by rw [List.length_append]; omega), List.getElem?_drop,
        List.length_append]
      congr 1
      omega
  next hgt =>
    split
    next => rfl
    next hge =>
      -- There is no place with this number, and no sibling with it either.
      rw [List.getElem?_eq_none (by omega), List.getElem?_eq_none (by omega)]

/-- What stands among siblings under a new number is one of the new trees. -/
theorem getElem?_insertAt_new {forest new : Forest} {index j : Nat} {e : Element}
    (hj : j < new.length) (h : (forest.insertAt new index [])[index + j]? = some e) :
    new[j]? = some e := by
  unfold insertAt at h
  split at h
  next hle =>
    have hlength : (forest.take index).length = index := List.length_take_of_le hle
    rw [List.append_assoc, List.getElem?_append_right (by omega), hlength, Nat.add_sub_cancel_left,
      List.getElem?_append_left hj] at h
    exact h
  next hgt =>
    rw [List.getElem?_eq_none (by omega)] at h
    cases h

end Forest

namespace Element

/-- Puts new trees below an element, or among its children if `parent` is empty. -/
def insertAt (e : Element) (new : Forest) (index : Nat) (parent : Position) : Element :=
  node e.attributes (e.children.insertAt new index parent)

/-- The attributes below an element where trees come in, by induction on the way to their place. -/
theorem attributes_at?_insertAt (e : Element) (new : Forest) (index : Nat) (parent p : Position) :
    ((e.insertAt new index parent).at? (moved index new.length parent p)).map attributes
      = (e.at? p).map attributes := by
  induction parent generalizing e p with
  | nil =>
    cases p with
    | nil => rfl
    | cons j p =>
      show (Forest.at? (e.children.insertAt new index []) (_ :: p)).map attributes
        = (e.children.at? (j :: p)).map attributes
      rw [Forest.at?_cons, Forest.at?_cons, Forest.getElem?_insertAt_shifted]
  | cons i parent ih =>
    cases p with
    | nil => rfl
    | cons j p =>
      show (Forest.at? (e.children.modify i (·.insertAt new index parent)) (j :: _)).map attributes
        = (e.children.at? (j :: p)).map attributes
      rw [Forest.at?_cons, Forest.at?_cons, List.getElem?_modify]
      cases e.children[j]? with
      | none => rfl
      | some x =>
        by_cases hij : i = j
        · simp [hij, ih]
        · simp [hij]

/-- What stands in such a place is what was inserted. -/
theorem at?_insertAt_new {e x : Element} {new : Forest} {index j : Nat} {parent p : Position}
    (hj : j < new.length)
    (h : (e.insertAt new index parent).at? (parent ++ (index + j) :: p) = some x) :
    new.at? (j :: p) = some x := by
  induction parent generalizing e with
  | nil =>
    change Forest.at? (e.children.insertAt new index []) ((index + j) :: p) = some x at h
    rw [Forest.at?_cons] at h ⊢
    obtain ⟨y, hy, hx⟩ := Option.bind_eq_some_iff.mp h
    rw [Forest.getElem?_insertAt_new hj hy]
    exact hx
  | cons i parent ih =>
    change Forest.at? (e.children.modify i (·.insertAt new index parent)) (i :: _) = some x at h
    rw [Forest.at?_cons, List.getElem?_modify] at h
    cases hy : e.children[i]? with
    | none =>
      rw [hy] at h
      cases h
    | some y =>
      rw [hy] at h
      exact ih (e := y) (by simpa using h)

end Element

namespace Forest

/-- **The old elements keep their attributes.** -/
theorem attributesAt?_insertAt (forest new : Forest) (index : Nat) (parent p : Position) :
    (forest.insertAt new index parent).attributesAt? (moved index new.length parent p)
      = forest.attributesAt? p := by
  cases p with
  | nil =>
    rw [moved_nil]
    rfl
  | cons j p =>
    -- A forest is searched like an element with these children.
    have hnode := Element.attributes_at?_insertAt (.node {} forest) new index parent (j :: p)
    cases parent <;> exact hnode

/-- What is found at a new position is found in the new trees. -/
theorem at?_insertAt_new {forest new : Forest} {index j : Nat} {parent p : Position} {x : Element}
    (hj : j < new.length)
    (h : (forest.insertAt new index parent).at? (parent ++ (index + j) :: p) = some x) :
    new.at? (j :: p) = some x := by
  have hnode : ((Element.node {} forest).insertAt new index parent).at?
      (parent ++ (index + j) :: p) = some x := by
    cases parent <;> exact h
  exact Element.at?_insertAt_new hj hnode

/-- **The old elements are all there, and in their order.** -/
theorem positions_insertAt (forest new : Forest) (index : Nat) (parent : Position) :
    (forest.insertAt new index parent).positions.filter (¬ IsNew index new.length parent ·)
      = forest.positions.map (moved index new.length parent) := by
  have hmem (forest : Forest) (p : Position) :
      p ∈ forest.positions ↔ (forest.attributesAt? p).isSome := by
    rw [mem_positions, attributesAt?, Option.isSome_map, Option.isSome_iff_exists]
  refine List.Pairwise.eq_of_mem_iff
    ((pairwise_positions _).sublist List.filter_sublist)
    ((pairwise_positions forest).map _ fun _ _ => moved_lt_moved) fun p => ?_
  rw [List.mem_filter, decide_eq_true_iff, List.mem_map]
  constructor
  · intro h
    obtain ⟨hp, hold⟩ := h
    obtain ⟨q, rfl⟩ := exists_moved_eq hold
    rw [hmem, attributesAt?_insertAt] at hp
    exact ⟨q, (hmem forest q).mpr hp, rfl⟩
  · intro h
    obtain ⟨q, hq, rfl⟩ := h
    rw [hmem, attributesAt?_insertAt]
    exact ⟨(hmem forest q).mp hq, not_isNew_moved⟩

end Forest

end GuiTest
