import GuiTest.Locator.Basic

/-!
# Searching with locators

`Locator.find` gives the positions of the elements that a locator means, in document order. Without
a container the whole forest is searched; with one, what lies strictly below the elements that the
container means. Where those lie within each other, an element below both is found once.

The same element is told from one that looks alike by its position, which no other element has.
-/

namespace GuiTest.Locator

/-- The positions in a forest of the elements that meet the criteria of a level. -/
def matching (level : Level) (forest : Forest) : List Position :=
  (forest.entries.filter fun (_, e) => level.accepts e).map (·.1)

/-- The positions of what lies below an element and meets the criteria of a level. -/
def matchingBelow (level : Level) (forest : Forest) (scope : Position) : List Position :=
  match forest.at? scope with
  | some e => (matching level e.children).map (scope ++ ·)
  | none => []

/-- The positions of the elements that a level with these containers means. -/
def findLevel (forest : Forest) (level : Level) : List Level → List Position
  | [] => level.pick (matching level forest)
  | container :: outer =>
    level.pick
      ((findLevel forest container outer).flatMap (matchingBelow level forest)).eraseDups

/-- The positions of the elements that a locator means. -/
def find (l : Locator) (forest : Forest) : List Position := findLevel forest l.own l.containers

/-- The position of the first element that a locator means. -/
def locate? (l : Locator) (forest : Forest) : Option Position := (l.find forest).head?

/-- The first element that a locator means. -/
def findFirst? (l : Locator) (forest : Forest) : Option Element :=
  (l.locate? forest).bind forest.at?

end GuiTest.Locator
