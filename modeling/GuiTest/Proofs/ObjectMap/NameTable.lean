import Mathlib.Data.List.Sort
import Mathlib.Data.String.Basic
import GuiTest.ObjectMap.NameTable

/-!
# The order of a table by name

Whatever is put into a table, its names stay in strictly ascending order (`IsSorted`). So each name
stands for one value, every member of the table is found in it (`IsSorted.get?_of_mem`), and the
names of two tables agree as soon as they are the same names (`IsSorted.names_eq`).
-/

namespace GuiTest.NameTable

variable {α β : Type} {s t : NameTable α} {name other : String} {a : α}

/-- The names of the table ascend strictly. -/
def IsSorted (t : NameTable α) : Prop := t.names.Pairwise (· < ·)

theorem get?_cons (x : String × α) (t : NameTable α) (name : String) :
    NameTable.get? (x :: t) name = if name = x.1 then some x.2 else t.get? name := rfl

/-- What is found is in the table. -/
theorem mem_of_get? (h : t.get? name = some a) : (name, a) ∈ t := by
  induction t with
  | nil => cases h
  | cons x t ih =>
    rw [get?_cons] at h
    split at h
    next heq =>
      cases h
      rw [heq]
      exact List.mem_cons_self
    next => exact List.mem_cons_of_mem x (ih h)

/-- The names of a table are those of its entries. -/
theorem mem_names_of_mem (h : (name, a) ∈ t) : name ∈ t.names :=
  List.mem_map_of_mem (f := Prod.fst) h

/-- So a name that is found is one of them. -/
theorem mem_names_of_get? (h : t.get? name = some a) : name ∈ t.names :=
  mem_names_of_mem (mem_of_get? h)

/-- And each of them is found. -/
theorem exists_get?_of_mem_names (h : name ∈ t.names) : ∃ a, t.get? name = some a := by
  induction t with
  | nil => cases h
  | cons x t ih =>
    rw [get?_cons]
    split
    next => exact ⟨x.2, rfl⟩
    next hne => exact ih ((List.mem_cons.mp h).resolve_left hne)

/-! ## Putting values in order -/

/-- Inserting adds one name. -/
theorem mem_names_insert :
    other ∈ (insert name a t).names ↔ other = name ∨ other ∈ t.names := by
  constructor
  · intro h
    obtain ⟨b, hb⟩ := exists_get?_of_mem_names h
    rw [get?_insert] at hb
    split at hb
    next heq => exact Or.inl heq
    next => exact Or.inr (mem_names_of_get? hb)
  · intro h
    have hfound : ∃ b, (insert name a t).get? other = some b := by
      rw [get?_insert]
      split
      next => exact ⟨a, rfl⟩
      next hne => exact exists_get?_of_mem_names (h.resolve_left hne)
    obtain ⟨b, hb⟩ := hfound
    exact mem_names_of_get? hb

/-- A table stays sorted when an entry is inserted. -/
theorem IsSorted.insert (h : IsSorted t) : IsSorted (insert name a t) := by
  induction t with
  | nil => exact List.pairwise_singleton _ name
  | cons x t ih =>
    obtain ⟨hhead, htail⟩ := List.pairwise_cons.mp h
    rw [NameTable.insert]
    split
    next heq => exact List.pairwise_cons.mpr ⟨by rwa [heq], htail⟩
    next hne =>
      split
      next hlt =>
        refine List.pairwise_cons.mpr ⟨fun n hn => ?_, h⟩
        rcases List.mem_cons.mp hn with rfl | hn
        · exact hlt
        · exact lt_trans hlt (hhead n hn)
      next hnlt =>
        -- The new name goes into the rest, whose names all come after the first.
        refine List.pairwise_cons.mpr ⟨fun n hn => ?_, ih htail⟩
        rcases mem_names_insert.mp hn with rfl | hn
        · exact lt_of_le_of_ne (not_lt.mp hnlt) (Ne.symm hne)
        · exact hhead n hn

/-- So every table that is made by inserting is sorted. -/
theorem isSorted_ofList (l : List (String × α)) : IsSorted (ofList l) := by
  have hfold : ∀ (l : List (String × α)) (t : NameTable α), IsSorted t →
      IsSorted (l.foldl (fun t x => NameTable.insert x.1 x.2 t) t) := by
    intro l
    induction l with
    | nil => exact fun _ ht => ht
    | cons x l ih => exact fun t ht => ih _ ht.insert
  exact hfold l [] List.Pairwise.nil

/-! ## Reading a table in order -/

/-- A member of a sorted table is found in it. -/
theorem IsSorted.get?_of_mem (h : IsSorted t) (ha : (name, a) ∈ t) : t.get? name = some a := by
  induction t with
  | nil => cases ha
  | cons x t ih =>
    obtain ⟨hhead, htail⟩ := List.pairwise_cons.mp h
    rw [get?_cons]
    rcases List.mem_cons.mp ha with rfl | ha
    · rw [if_pos rfl]
    · rw [if_neg (ne_of_gt (hhead name (mem_names_of_mem ha)))]
      exact ih htail ha

/-- Sorted tables with the same names have them in the same order. -/
theorem IsSorted.names_eq {u : NameTable β} (ht : IsSorted t) (hu : IsSorted u)
    (h : ∀ name, name ∈ t.names ↔ name ∈ u.names) : t.names = u.names :=
  List.Perm.eq_of_pairwise (fun _ _ _ _ hlt hgt => absurd hgt (lt_asymm hlt)) ht hu
    ((List.perm_ext_iff_of_nodup ht.nodup hu.nodup).mpr h)

/-- The names of the values that have a property. -/
theorem IsSorted.names_filter (h : IsSorted t) (p : α → Bool) :
    NameTable.names (t.filter fun x => p x.2) = t.names.filter fun n => (t.get? n).any p := by
  have hname : ∀ x ∈ t, p x.2 = (t.get? x.1).any p := fun x hx => by
    rw [h.get?_of_mem hx]
    rfl
  rw [names, names, List.filter_map, List.filter_congr hname]
  rfl

end GuiTest.NameTable
