import GuiTest.Element.Basic
import GuiTest.Locator.TextMatch
import GuiTest.Text.Blank

/-!
# Locators

A locator says which element of a forest is meant. Each of its levels has criteria, which must all
be met, and may pick one occurrence of those that meet them; the levels after the own one describe
what the element must be contained in, from the inside out.

Locators may be contained in one and the same locator. None of them ever changes, so it does not
show whether they share it, and each has its own copy of the levels; `Locator.container?` makes a
locator of those that describe the container.
-/

namespace GuiTest

/-- What a criterion is about. -/
inductive Aspect where
  | kind
  | text
  | name
  | id
  | className
  | cell
  deriving DecidableEq, Repr

/-- A condition on the attributes of an element. -/
inductive Criterion where
  | kind (kind : String)
  | text (expected : TextMatch)
  | name (name : String)
  | id (id : String)
  | className (className : String)
  | cell (row column : UInt32)
  deriving DecidableEq

namespace Criterion

/-- What the criterion is about. -/
def aspect : Criterion → Aspect
  | kind _ => .kind
  | text _ => .text
  | name _ => .name
  | id _ => .id
  | className _ => .className
  | cell _ _ => .cell

/-- Whether an element has the attributes. One that it lacks counts as the empty text. -/
def accepts : Criterion → Attributes → Bool
  | kind k, a => a.kind.getD "" == k
  | text m, a => m.accepts (a.text.getD "")
  | name n, a => a.name.getD "" == n
  | id i, a => a.id.getD "" == i
  | className c, a => a.className.getD "" == c
  | cell row column, a => a.row == some row && a.column == some column

/-- The criterion as it is shown. -/
def describe : Criterion → String
  | kind k => "type='" ++ k ++ "'"
  | text m => m.describe
  | name n => "name='" ++ n ++ "'"
  | id i => "id='" ++ i ++ "'"
  | className c => "class='" ++ c ++ "'"
  | cell row column => "cell=(" ++ toString row.toNat ++ "," ++ toString column.toNat ++ ")"

end Criterion

/-- One level of a locator: criteria, and which of the elements that meet them is meant, counted
from one, if not all are. -/
structure Level where
  criteria : List Criterion
  occurrence : Option UInt32
  deriving DecidableEq

namespace Level

/-- Whether an element meets all criteria. -/
def accepts (level : Level) (e : Element) : Bool :=
  level.criteria.all fun c => c.accepts e.attributes

/-- Picks the occurrence that is meant. -/
def pick {α : Type} (level : Level) (found : List α) : List α :=
  match level.occurrence with
  | some n => (found[n.toNat - 1]?).toList
  | none => found

/-- The level as it is shown. -/
def describe (level : Level) : String :=
  let parts := level.criteria.map Criterion.describe
    ++ (match level.occurrence with
        | some n => ["occurrence=" ++ toString n.toNat]
        | none => [])
  "\x7b" ++ Text.join " " parts ++ "\x7d"

end Level

/-- A locator: its own level and those of its containers, the innermost first. -/
structure Locator where
  own : Level
  containers : List Level
  deriving DecidableEq

namespace Locator

/-- The container, as a locator. -/
def container? (l : Locator) : Option Locator :=
  match l.containers with
  | [] => none
  | c :: outer => some ⟨c, outer⟩

/-- All levels, the own one first. -/
def levels (l : Locator) : List Level := l.own :: l.containers

/-- The number of containers. -/
def depth (l : Locator) : Nat := l.containers.length

/-- The locators of a list of levels, each with the containers that follow it. -/
def ofLevels : List Level → List Locator
  | [] => []
  | level :: outer => ⟨level, outer⟩ :: ofLevels outer

/-- The locators from the outermost container down to the locator itself. -/
def chain (l : Locator) : List Locator := (ofLevels l.levels).reverse

/-- The outermost container, or the locator itself if it has none. -/
def root (l : Locator) : Locator := ⟨l.containers.getLast?.getD l.own, []⟩

/-- The locator as it is shown, innermost level first. -/
def describe (l : Locator) : String := Text.join " in " (l.levels.map Level.describe)

/-- Replaces the criterion on the text. -/
def withText (l : Locator) (m : TextMatch) : Locator :=
  { l with own.criteria := l.own.criteria.filter (·.aspect ≠ .text) ++ [.text m] }

/-- Puts the locator into another container. -/
def within (l container : Locator) : Locator := { l with containers := container.levels }

end Locator

end GuiTest
