import GuiTest.Files.Path
import GuiTest.Proofs.Text.Cutting

/-!
# The components of a path

What counts in a path are its components: the root, if it begins there, and its parts, apart from
empty ones and `.`. Joining the name of a single part to a path adds one component
(`components_join`), so what is joined to one directory under different names leads to different
places, wherever the directory is.
-/

namespace GuiTest

/-- The text is the name of a single part of a path, and no step to stay or to go up. -/
structure IsPart (name : String) : Prop where
  ne_empty : name ≠ ""
  no_separator : '/' ∉ name.toList
  ne_dot : name ≠ "."
  ne_dots : name ≠ ".."

namespace Path

/-- The parts of a text between separators, apart from empty ones and `.`. -/
def parts (cs : List Char) : List String :=
  ((Text.splitBy (· == '/') cs).map String.ofList).filter fun part => part ≠ "" ∧ part ≠ "."

/-- The components of a path. A path that begins at the root has it as the first one. -/
def components (p : Path) : List String :=
  (if isAbsolute p.text then ["/"] else []) ++ parts p.text.toList

/-- A file lies directly in a directory if its path is a single part more. -/
def LiesIn (dir file : Path) : Prop := ∃ name, IsPart name ∧ file = dir.join name

/-- A separator cuts a path in two, and each half has its own parts. -/
theorem parts_append_separator (xs ys : List Char) :
    parts (xs ++ '/' :: ys) = parts xs ++ parts ys := by
  rw [parts, Text.splitBy_append_separator rfl, List.map_append, List.filter_append]
  rfl

end Path

namespace IsPart

open GuiTest.Path

variable {name : String}

/-- A text without separators is the name of a part if it is not made of dots only. -/
theorem of_mem {c : Char} (hseparator : '/' ∉ name.toList) (hc : c ∈ name.toList) (hdot : c ≠ '.') :
    IsPart name where
  ne_empty := by
    rintro rfl
    exact absurd hc List.not_mem_nil
  no_separator := hseparator
  ne_dot := by
    rintro rfl
    exact hdot (List.mem_singleton.mp hc)
  ne_dots := by
    rintro rfl
    exact hdot (List.eq_of_mem_replicate (n := 2) hc)

variable (h : IsPart name)

include h

theorem not_isAbsolute : isAbsolute name = false := by
  rw [isAbsolute, beq_eq_false_iff_ne]
  exact fun hhead => h.no_separator (List.mem_of_head? hhead)

theorem parts_eq : parts name.toList = [name] := by
  rw [parts, Text.splitBy_of_forall (Text.beq_eq_false_of_mem h.no_separator), List.map_singleton,
    String.ofList_toList, List.filter_singleton]
  simp [h.ne_empty, h.ne_dot]

/-- A name that is a part is put behind the directory. -/
theorem join_eq (dir : Path) :
    dir.join name = { dir with text := String.ofList (separated dir.text.toList name.toList) } := by
  rw [join, h.not_isAbsolute]
  rfl

/-- It is one part more. -/
theorem parts_separated (dir : List Char) :
    parts (separated dir name.toList) = parts dir ++ [name] := by
  rw [separated]
  split
  next hends =>
    rcases hends with rfl | hlast
    · exact h.parts_eq
    · -- The separator that the directory ends with is the one that joins.
      obtain ⟨dir, rfl⟩ := List.getLast?_eq_some_iff.mp hlast
      rw [← List.append_cons, parts_append_separator, parts_append_separator, h.parts_eq]
      exact congrArg (· ++ [name]) (List.append_nil _).symm
  next => rw [parts_append_separator, h.parts_eq]

theorem isAbsolute_separated (dir : List Char) :
    isAbsolute (String.ofList (separated dir name.toList)) = isAbsolute (String.ofList dir) := by
  cases dir with
  | nil => exact (congrArg isAbsolute String.ofList_toList).trans h.not_isAbsolute
  | cons c dir =>
    rw [isAbsolute, isAbsolute, String.toList_ofList, String.toList_ofList, separated]
    split <;> rfl

/-- **Joining a part adds a component.** -/
theorem components_join (dir : Path) : (dir.join name).components = dir.components ++ [name] := by
  rw [h.join_eq, components, components, h.isAbsolute_separated, String.toList_ofList,
    h.parts_separated, String.ofList_toList, List.append_assoc]

end IsPart

end GuiTest
