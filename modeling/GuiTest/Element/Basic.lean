/-!
# Elements of a user interface

An element has attributes and children; what an application shows is a forest of elements. A
`Position` is the list of child indexes that leads from the roots to an element. `Forest.entries`
lists all elements with their positions in document order, each before its children.

There is no memory here in which elements lie. A reference to an element of a forest is its
position, so that two references are to the same element exactly if the positions are equal, however
much the elements look alike. `Forest.pathTo?` goes from such a reference back to the child indexes,
by a walk that compares every element that it comes to with the one that is meant.
-/

namespace GuiTest

/-- The attributes of an element. `kind` is the sort of control, such as `Button`. -/
structure Attributes where
  kind : Option String := none
  text : Option String := none
  name : Option String := none
  id : Option String := none
  className : Option String := none
  enabled : Bool := true
  row : Option UInt32 := none
  column : Option UInt32 := none
  deriving DecidableEq, Repr

/-- An element with its children. -/
inductive Element where
  | node (attributes : Attributes) (children : List Element)
  deriving Repr

/-- What an application shows. -/
abbrev Forest := List Element

/-- Child indexes from the roots to an element. -/
abbrev Position := List Nat

namespace Element

/-- The attributes of an element. -/
def attributes : Element → Attributes
  | node a _ => a

/-- The children of an element. -/
def children : Element → Forest
  | node _ cs => cs

mutual

/-- Decides equality. -/
def decEq : (a b : Element) → Decidable (a = b)
  | node a cs, node b ds =>
    match decEqForest cs ds with
    | isTrue h =>
      if e : a = b then isTrue (by rw [e, h]) else isFalse fun eq => e (by injection eq)
    | isFalse h => isFalse fun eq => h (by injection eq)

/-- Decides equality of forests. -/
def decEqForest : (cs ds : List Element) → Decidable (cs = ds)
  | [], [] => isTrue rfl
  | [], _ :: _ => isFalse nofun
  | _ :: _, [] => isFalse nofun
  | c :: cs, d :: ds =>
    match decEq c d, decEqForest cs ds with
    | isTrue h, isTrue hs => isTrue (by rw [h, hs])
    | isFalse h, _ => isFalse fun eq => h (by injection eq)
    | _, isFalse hs => isFalse fun eq => hs (by injection eq)

end

instance : DecidableEq Element := decEq

/-- An enabled element of a kind, with no other attributes. -/
def ofKind (kind : String) : Element := node { kind := some kind } []

/-- Changes the attributes of an element. -/
def modify (f : Attributes → Attributes) : Element → Element
  | node a cs => node (f a) cs

/-- Adds children after those that are there. -/
def addChildren (new : Forest) : Element → Element
  | node a cs => node a (cs ++ new)

/-- A short description: the kind, with the text or else the name. -/
def describe (e : Element) : String :=
  let kind := e.attributes.kind.getD "Element"
  match e.attributes.text, e.attributes.name with
  | some text, _ => kind ++ " '" ++ text ++ "'"
  | none, some name => kind ++ " [" ++ name ++ "]"
  | none, none => kind

mutual

/-- The number of elements in the tree below and with an element. -/
def size : Element → Nat
  | node _ cs => 1 + sizeAll cs

/-- The number of elements in a forest. -/
def sizeAll : List Element → Nat
  | [] => 0
  | e :: rest => size e + sizeAll rest

end

mutual

/-- The elements of a tree in document order, with their positions from its root. -/
def entries : Element → List (Position × Element)
  | node a cs => ([], node a cs) :: entriesFrom 0 cs

/-- The elements of a forest whose first root has the given index. -/
def entriesFrom (index : Nat) : List Element → List (Position × Element)
  | [] => []
  | e :: rest => (entries e).map (fun (p, x) => (index :: p, x)) ++ entriesFrom (index + 1) rest

end

mutual

/-- The child indexes that lead from the element at `place` to the one at `target`, which may be
that element itself or lie inside of it. -/
def pathFrom? (target place : Position) : Element → Option Position
  | node _ children => if place = target then some [] else pathAmong? target place 0 children

/-- The same from a parent, among those of its children from the one with an index on. -/
def pathAmong? (target parent : Position) (index : Nat) : List Element → Option Position
  | [] => none
  | e :: rest =>
    match pathFrom? target (parent ++ [index]) e with
    | some path => some (index :: path)
    | none => pathAmong? target parent (index + 1) rest

end

end Element

namespace Forest

/-- All elements of a forest in document order, with their positions. -/
def entries (forest : Forest) : List (Position × Element) := Element.entriesFrom 0 forest

/-- The element at a position. No element is at the empty position. -/
def at? (forest : Forest) : Position → Option Element
  | [] => none
  | [i] => forest[i]?
  | i :: p =>
    match forest[i]? with
    | some e => at? e.children p
    | none => none

/-- The child indexes that lead to the element to which a reference is, found by a walk over all
elements in document order. -/
def pathTo? (forest : Forest) (target : Position) : Option Position :=
  Element.pathAmong? target [] 0 forest

/-- Changes the element at a position, if there is one. -/
def modifyAt (f : Element → Element) (forest : Forest) : Position → Forest
  | [] => forest
  | [i] => forest.modify i f
  | i :: p => forest.modify i fun e => .node e.attributes (modifyAt f e.children p)

end Forest

end GuiTest
