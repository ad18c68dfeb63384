import GuiTest.Element.Basic

/-!
# Edits

Small changes of what an application shows, from which its reactions are put together. An edit acts
on the roots of a forest.
-/

namespace GuiTest

/-- A change of the roots. -/
inductive Edit where
  | clear
  | push (element : Element)
  | remove (kind : String)
  /-- Removes the roots of the element's kind, or adds it if there are none. -/
  | toggle (element : Element)
  /-- Adds `first` as long as it was applied fewer than `times` times, and `later` after that. -/
  | countdown (times : Nat) (first later : Element)
  /-- Sets or clears the text of one root. -/
  | setText (index : Nat) (text : Option String)

namespace Edit

/-- Removes the roots of a kind. -/
def withoutKind (kind : Option String) (forest : Forest) : Forest :=
  forest.filter fun e => e.attributes.kind != kind

/-- Applies an edit that was applied so often before. -/
def apply (before : Nat) (forest : Forest) : Edit → Forest
  | clear => []
  | push e => forest ++ [e]
  | remove kind => withoutKind (some kind) forest
  | toggle e =>
    if forest.any fun root => root.attributes.kind == e.attributes.kind then
      withoutKind e.attributes.kind forest
    else forest ++ [e]
  | countdown times first later => forest ++ [if before < times then first else later]
  | setText index text => forest.modify index fun e => e.modify fun a => { a with text }

/-- Applies edits one after the other. -/
def applyAll (edits : List Edit) (before : Nat) (forest : Forest) : Forest :=
  edits.foldl (apply before) forest

end Edit

end GuiTest
