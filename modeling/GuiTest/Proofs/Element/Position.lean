import Mathlib.Data.List.Sort
import GuiTest.Element.Basic

/-!
# Positions in document order

Document order is the lexicographic order of positions: a position comes before all that it leads
to, and these before all that its later siblings lead to. `Forest.entries` lists exactly the
elements of a forest (`Forest.mem_entries`), each once and in this order
(`Forest.pairwise_positions`). `Position.IsAbove` is the relation between an element and what lies
strictly inside of it. Two positions in document order either lie within each other, or all that
is inside of the first comes before all that is inside of the second (`Position.append_lt_append`).
The walk to an element that is referred to ends at that element, if it is in the forest, and at no
other (`Forest.pathTo?_eq_some_iff`).
-/

namespace GuiTest

namespace Position

/-- The element at `q` strictly contains the one at `p`. -/
def IsAbove (q p : Position) : Prop := q <+: p ∧ q ≠ p

instance (q p : Position) : Decidable (IsAbove q p) := inferInstanceAs (Decidable (_ ∧ _))

/-- A position is above another if it is a proper beginning of it. -/
theorem isAbove_iff {q p : Position} : IsAbove q p ↔ ∃ r, r ≠ [] ∧ p = q ++ r := by
  constructor
  · rintro ⟨⟨r, rfl⟩, hne⟩
    exact ⟨r, fun h => hne (by rw [h, List.append_nil]), rfl⟩
  · rintro ⟨r, hr, rfl⟩
    refine ⟨List.prefix_append q r, fun h => hr ?_⟩
    simpa using h

/-- What is above something is above all below that. -/
theorem IsAbove.trans {q s p : Position} (h : IsAbove q s) (h' : IsAbove s p) : IsAbove q p := by
  obtain ⟨u, hu, rfl⟩ := isAbove_iff.mp h
  obtain ⟨v, -, rfl⟩ := isAbove_iff.mp h'
  exact isAbove_iff.mpr ⟨u ++ v, by simp [hu], List.append_assoc ..⟩

/-- Positions below one element come in the order of their rests. -/
theorem append_lt_append_left (s : Position) {u v : Position} (h : u < v) : s ++ u < s ++ v := by
  induction s with
  | nil => exact h
  | cons i s ih => exact List.Lex.cons ih

/-- All that is inside of an earlier element comes before all that is inside of a later one, unless
the later one itself is inside of the earlier. -/
theorem append_lt_append {s t : Position} (h : s < t) (hout : ¬ s <+: t) (u v : Position) :
    s ++ u < t ++ v := by
  induction h with
  | nil => exact absurd (List.nil_prefix) hout
  | cons _ ih => exact List.Lex.cons (ih fun hp => hout (List.cons_prefix_cons.mpr ⟨rfl, hp⟩))
  | rel hij => exact List.Lex.rel hij

end Position

namespace Element

/-! ## What a forest holds -/

/-- The element that a position leads to from an element, which leads nowhere if it is empty. -/
def at? (e : Element) : Position → Option Element
  | [] => some e
  | i :: p => Forest.at? e.children (i :: p)

end Element

namespace Forest

/-- The first number of a position picks a tree. -/
theorem at?_cons (forest : Forest) (i : Nat) (p : Position) :
    forest.at? (i :: p) = forest[i]?.bind (·.at? p) := by
  cases p with
  | nil =>
    rw [at?]
    cases forest[i]? <;> rfl
  | cons j p =>
    rw [at?]
    · cases forest[i]? <;> rfl
    · exact nofun

/-- A way can be cut: first to an element, then on from there. -/
theorem at?_append (forest : Forest) {s r : Position} (hs : s ≠ []) (hr : r ≠ []) :
    forest.at? (s ++ r) = (forest.at? s).bind fun e => Forest.at? e.children r := by
  induction s generalizing forest with
  | nil => exact absurd rfl hs
  | cons i s ih =>
    rw [List.cons_append, at?_cons, at?_cons]
    cases forest[i]? with
    | none => rfl
    | some e =>
      obtain ⟨j, r, rfl⟩ := List.exists_cons_of_ne_nil hr
      cases s with
      | nil => rfl
      | cons k s => exact ih e.children (List.cons_ne_nil k s)

end Forest

namespace Element

mutual

/-- The entries of an element are the elements at its positions. -/
theorem mem_entries : ∀ (e : Element) {p : Position} {x : Element},
    (p, x) ∈ e.entries ↔ e.at? p = some x
  | node a cs, p, x => by
    rw [entries, List.mem_cons]
    cases p with
    | nil =>
      have hroot : ([], x) ∉ entriesFrom 0 cs := by
        intro h
        obtain ⟨j, q, hq, -⟩ := (mem_entriesFrom cs).mp h
        exact absurd hq (by simp)
      simp [at?, hroot, eq_comm]
    | cons i p =>
      simp only [Prod.mk.injEq, reduceCtorEq, false_and, false_or]
      rw [mem_entriesFrom cs, at?, Forest.at?_cons]
      simp [children]

/-- Those of elements in a row have the number of their tree in front. -/
theorem mem_entriesFrom : ∀ (es : List Element) {index : Nat} {p : Position} {x : Element},
    (p, x) ∈ entriesFrom index es ↔
      ∃ i q, p = (index + i) :: q ∧ es[i]?.bind (·.at? q) = some x
  | [], index, p, x => by simp [entriesFrom]
  | e :: rest, index, p, x => by
    rw [entriesFrom, List.mem_append, mem_entriesFrom rest]
    constructor
    · rintro (h | ⟨i, q, rfl, hx⟩)
      · obtain ⟨⟨q, y⟩, hy, heq⟩ := List.mem_map.mp h
        obtain ⟨rfl, rfl⟩ := Prod.mk.inj heq
        exact ⟨0, q, rfl, (mem_entries e).mp hy⟩
      · exact ⟨i + 1, q, by rw [show index + (i + 1) = index + 1 + i by omega], hx⟩
    · rintro ⟨i, q, rfl, hx⟩
      cases i with
      | zero => exact Or.inl (List.mem_map.mpr ⟨(q, x), (mem_entries e).mpr hx, rfl⟩)
      | succ i => exact Or.inr ⟨i, q, by rw [show index + (i + 1) = index + 1 + i by omega], hx⟩

end

mutual

/-- The entries of an element come in document order. -/
theorem pairwise_entries : ∀ (e : Element), (e.entries.map (·.1)).Pairwise (· < ·)
  | node a cs => by
    rw [entries, List.map_cons, List.pairwise_cons]
    refine ⟨?_, pairwise_entriesFrom cs 0⟩
    intro p hp
    obtain ⟨⟨q, x⟩, hx, rfl⟩ := List.mem_map.mp hp
    obtain ⟨i, r, rfl, -⟩ := (mem_entriesFrom cs).mp hx
    exact List.nil_lt_cons _ _

/-- So do those of elements in a row. -/
theorem pairwise_entriesFrom : ∀ (es : List Element) (index : Nat),
    ((entriesFrom index es).map (·.1)).Pairwise (· < ·)
  | [], index => by simp [entriesFrom]
  | e :: rest, index => by
    rw [entriesFrom, List.map_append, List.map_map, List.pairwise_append]
    refine ⟨?_, pairwise_entriesFrom rest (index + 1), ?_⟩
    · have hmap : (Prod.fst ∘ fun ((p, x) : Position × Element) => (index :: p, x))
          = (index :: ·) ∘ Prod.fst := rfl
      rw [hmap, ← List.map_map]
      exact (pairwise_entries e).map _ fun _ _ h => List.Lex.cons h
    · intro p hp q hq
      obtain ⟨⟨p, x⟩, -, rfl⟩ := List.mem_map.mp hp
      obtain ⟨⟨q, y⟩, hy, rfl⟩ := List.mem_map.mp hq
      obtain ⟨i, r, rfl, -⟩ := (mem_entriesFrom rest).mp hy
      exact List.Lex.rel (by omega)

end

end Element

namespace Forest

/-- The positions of all elements of a forest. -/
def positions (forest : Forest) : List Position := forest.entries.map (·.1)

/-- The entries of a forest are the elements at its positions. -/
theorem mem_entries {forest : Forest} {p : Position} {e : Element} :
    (p, e) ∈ forest.entries ↔ forest.at? p = some e := by
  rw [entries, Element.mem_entriesFrom]
  constructor
  · rintro ⟨i, q, rfl, he⟩
    rw [Nat.zero_add, at?_cons]
    exact he
  · intro h
    cases p with
    | nil => cases h
    | cons i q => exact ⟨i, q, by rw [Nat.zero_add], (at?_cons ..).symm.trans h⟩

theorem mem_positions {forest : Forest} {p : Position} :
    p ∈ forest.positions ↔ ∃ e, forest.at? p = some e := by
  simp only [positions, List.mem_map, Prod.exists, exists_and_right, exists_eq_right, mem_entries]

/-- **Document order.** The elements of a forest are listed in the order of their positions, so
each of them once. -/
theorem pairwise_positions (forest : Forest) : forest.positions.Pairwise (· < ·) :=
  Element.pairwise_entriesFrom forest 0

end Forest

/-! ## Walking to an element -/

namespace Element

mutual

/-- The walk from an element comes to what it is to come to if that lies in the element. -/
theorem pathFrom?_eq_some_iff : ∀ (e : Element) {target place path : Position},
    pathFrom? target place e = some path ↔ target = place ++ path ∧ ∃ x, e.at? path = some x
  | node a cs, target, place, path => by
    rw [pathFrom?]
    by_cases hhere : place = target
    · rw [if_pos hhere]
      constructor
      · rintro ⟨⟩
        exact ⟨by rw [hhere, List.append_nil], _, rfl⟩
      · rintro ⟨hpath, -⟩
        rw [hhere, List.self_eq_append_right] at hpath
        rw [hpath]
    · rw [if_neg hhere, pathAmong?_eq_some_iff cs]
      constructor
      · rintro ⟨i, q, rfl, htarget, x, hx⟩
        exact ⟨htarget, x, by rw [at?, Forest.at?_cons, Nat.zero_add]; exact hx⟩
      · rintro ⟨htarget, x, hx⟩
        cases path with
        | nil => exact absurd (by rw [htarget, List.append_nil]) hhere
        | cons i q =>
          rw [at?, Forest.at?_cons] at hx
          exact ⟨i, q, by rw [Nat.zero_add], htarget, x, hx⟩

/-- The walk among siblings takes the one in which the element lies, and passes those before it. -/
theorem pathAmong?_eq_some_iff :
    ∀ (es : List Element) {target parent path : Position} {index : Nat},
      pathAmong? target parent index es = some path ↔
      ∃ i q, path = (index + i) :: q ∧ target = parent ++ path
        ∧ ∃ x, es[i]?.bind (·.at? q) = some x
  | [], target, parent, path, index => by simp [pathAmong?]
  | e :: rest, target, parent, path, index => by
    have hstep (q : Position) : parent ++ index :: q = parent ++ [index] ++ q :=
      List.append_cons parent index q
    rw [pathAmong?]
    cases hfirst : pathFrom? target (parent ++ [index]) e with
    | some p =>
      obtain ⟨htarget, x, hx⟩ := (pathFrom?_eq_some_iff e).mp hfirst
      constructor
      · rintro ⟨⟩
        exact ⟨0, p, rfl, htarget.trans (hstep p).symm, x, hx⟩
      · rintro ⟨i, q, hpath, htarget', -⟩
        -- Two ways to the same element are one.
        rw [htarget, ← hstep, List.append_cancel_left_eq] at htarget'
        exact congrArg some htarget'
    | none =>
      dsimp only
      rw [pathAmong?_eq_some_iff rest]
      constructor
      · rintro ⟨i, q, hpath, htarget, hx⟩
        exact ⟨i + 1, q, by rw [hpath]; congr 1; omega, htarget, hx⟩
      · rintro ⟨i, q, hpath, htarget, hx⟩
        cases i with
        | zero =>
          rw [hpath, Nat.add_zero, hstep] at htarget
          cases hfirst.symm.trans ((pathFrom?_eq_some_iff e).mpr ⟨htarget, hx⟩)
        | succ i => exact ⟨i, q, by rw [hpath]; congr 1; omega, htarget, hx⟩

end

end Element

namespace Forest

/-- **The walk and the search agree.** The walk to an element that is referred to gives its
position, if it is in the forest; to what is not there is no way. -/
theorem pathTo?_eq_some_iff {forest : Forest} {target path : Position} :
    forest.pathTo? target = some path ↔ path = target ∧ ∃ e, forest.at? target = some e := by
  rw [pathTo?, Element.pathAmong?_eq_some_iff]
  constructor
  · rintro ⟨i, q, rfl, rfl, x, hx⟩
    exact ⟨rfl, x, by rw [List.nil_append, at?_cons, Nat.zero_add]; exact hx⟩
  · rintro ⟨rfl, e, he⟩
    cases path with
    | nil => cases he
    | cons i q =>
      rw [at?_cons] at he
      exact ⟨i, q, by rw [Nat.zero_add], rfl, e, he⟩

/-- **The walk to the element at a position comes to that position.** -/
theorem pathTo?_eq_some {forest : Forest} {p : Position} {e : Element} (h : forest.at? p = some e) :
    forest.pathTo? p = some p := pathTo?_eq_some_iff.mpr ⟨rfl, e, h⟩

end Forest

end GuiTest
