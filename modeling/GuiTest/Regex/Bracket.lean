import GuiTest.Regex.Escape

/-!
# Sets in brackets

A bracket lists characters, ranges, classes and further brackets, and joins such lists by `&&`
(members of both), `--` (of the first only) and `~~` (of exactly one), which all bind alike and
group to the left. Brackets that are still open are kept on a stack, so nesting is no recursion; how
deeply a set nests is counted.
-/

namespace GuiTest.Regex

/-- A set, and how deeply brackets, lists and operations nest in it. -/
structure NestedSet where
  set : CharSet
  depth : Nat

/-- The items of a list, together. -/
structure Items where
  count : Nat
  members : NestedSet

namespace Items

/-- No items. -/
def none : Items := ⟨0, CharSet.empty, 0⟩

/-- Adds an item. -/
def add (items : Items) (item : NestedSet) : Items :=
  ⟨items.count + 1, items.members.set.union item.set, max items.members.depth item.depth⟩

/-- Adds an item that does not nest. -/
def addSet (items : Items) (set : CharSet) : Items := items.add ⟨set, 0⟩

/-- The list as one set. It is a level of its own if it has two items or more. -/
def toSet (items : Items) : NestedSet :=
  if items.count < 2 then items.members else { items.members with depth := items.members.depth + 1 }

end Items

/-- The operations on sets. -/
inductive Operation where
  | both
  | firstOnly
  | exactlyOne

/-- The set that an operation makes. -/
def Operation.apply : Operation → CharSet → CharSet → CharSet
  | .both => CharSet.inter
  | .firstOnly => CharSet.diff
  | .exactlyOne => CharSet.symmDiff

/-- A bracket that is still open: what stands left of the last operator, and the items after it. -/
structure OpenBracket where
  negated : Bool
  left : Option (NestedSet × Operation)
  items : Items

namespace OpenBracket

/-- All that was read, as one set. Case is ignored before an operation is applied, not after. -/
def toSet (flags : Flags) (b : OpenBracket) : NestedSet :=
  match b.left with
  | none => b.items.toSet
  | some (left, operation) =>
    let right := b.items.toSet
    ⟨operation.apply (flags.folded left.set) (flags.folded right.set),
      max left.depth right.depth + 1⟩

/-- An operator was read. -/
def operator (flags : Flags) (b : OpenBracket) (operation : Operation) : OpenBracket :=
  { b with left := some (b.toSet flags, operation), items := .none }

/-- The bracket is closed. -/
def close? (flags : Flags) (b : OpenBracket) : Option NestedSet := do
  let inside := b.toSet flags
  return ⟨← flags.complement? b.negated (flags.folded inside.set), inside.depth + 1⟩

/-- Reads the caret of a complement. -/
def readCaret (flags : Flags) : List Char → Bool × List Char
  | '^' :: rest => (true, skip flags rest)
  | cs => (false, cs)

/-- Counts the minus signs, blanks between them apart. -/
def readMinus (flags : Flags) : Nat → List Char → Nat × List Char
  | limit + 1, '-' :: rest =>
    let (n, rest) := readMinus flags limit (skip flags rest)
    (n + 1, rest)
  | _, cs => (0, cs)

/-- The bracket that begins with so many minus signs, or with a closing bracket that stands for
itself. -/
def readFirst (flags : Flags) (negated : Bool) : Nat → List Char → OpenBracket × List Char
  | 0, ']' :: rest => (⟨negated, none, Items.none.addSet (CharSet.single ']')⟩, skip flags rest)
  | 0, cs => (⟨negated, none, Items.none⟩, cs)
  | n + 1, cs => (⟨negated, none, ⟨n + 1, CharSet.single '-', 0⟩⟩, cs)

/-- Reads the beginning of a bracket, after `[`. -/
def begin (flags : Flags) (cs : List Char) : OpenBracket × List Char :=
  let (negated, cs) := readCaret flags (skip flags cs)
  let (minus, cs) := readMinus flags cs.length cs
  readFirst flags negated minus cs

end OpenBracket

/-- Reads the name of a class of ASCII characters, after `[`: `:alpha:]`, or `:^alpha:]` for its
complement. What has another form is no class, but the beginning of a bracket. -/
def namedClass? : List Char → Option (Bool × CharSet × List Char)
  | ':' :: '^' :: rest => named true rest
  | ':' :: rest => named false rest
  | _ => none
where
  /-- The class of the name that ends at the next colon. -/
  named (negated : Bool) (cs : List Char) : Option (Bool × CharSet × List Char) :=
    match cs.dropWhile (· != ':') with
    | ':' :: ']' :: rest =>
      (CharSet.ascii? (String.ofList (cs.takeWhile (· != ':')))).map fun set => (negated, set, rest)
    | _ => none

/-- The set of a unit that stands alone in a bracket. Conditions have no place there, and without
Unicode only ASCII characters have. -/
def Atom.inBracket? (flags : Flags) : Atom → Option CharSet
  | .char c => if flags.unicode || c.toNat < 128 then some (CharSet.single c) else none
  | .set s => some s
  | .look _ => none

/-- Reads one unit in a bracket. -/
def bracketAtom? (flags : Flags) : List Char → Option (Atom × List Char)
  | [] => none
  | '\\' :: rest => escape? flags rest
  | c :: rest => some (.char c, rest)

/-- Whether a minus sign with this after it stands for itself. In verbose patterns blanks are passed
over, and the sign of a comment, but not the comment. -/
def minusIsLiteral (flags : Flags) (rest : List Char) : Bool :=
  match (if flags.verbose then afterBlanks rest else rest) with
  | c :: _ => c == ']' || c == '-'
  | [] => false
where
  /-- What comes after blanks and one comment sign. -/
  afterBlanks (cs : List Char) : List Char :=
    match cs.dropWhile Text.isBlank with
    | '#' :: rest => rest.dropWhile Text.isBlank
    | cs => cs

/-- The range between two units, which must be characters in order. -/
def range? (flags : Flags) : Atom → Atom → Option CharSet
  | .char a, .char b =>
    if a ≤ b ∧ (flags.unicode ∨ b.toNat < 128) then some (CharSet.range a b) else none
  | _, _ => none

/-- Reads what comes after a unit: the other end of a range, or nothing. -/
def itemAfter? (flags : Flags) (low : Atom) : List Char → Option (CharSet × List Char)
  | '-' :: after =>
    if minusIsLiteral flags after then (low.inBracket? flags).map fun set => (set, '-' :: after)
    else do
      let (high, rest) ← bracketAtom? flags (skip flags after)
      return (← range? flags low high, rest)
  | rest => (low.inBracket? flags).map fun set => (set, rest)

/-- Reads a unit or a range in a bracket. -/
def bracketItem? (flags : Flags) (cs : List Char) : Option (CharSet × List Char) := do
  let (low, rest) ← bracketAtom? flags cs
  itemAfter? flags low (skip flags rest)

/-- The operation that a character stands for if it is doubled. -/
def doubled? : Char → Option Operation
  | '&' => some .both
  | '-' => some .firstOnly
  | '~' => some .exactlyOne
  | _ => none

/-- Reads the rest of an operator, given its first character. -/
def operation? (c : Char) : List Char → Option (Operation × List Char)
  | [] => none
  | d :: rest => if d = c then (doubled? c).map fun operation => (operation, rest) else none

/-- What one piece of a bracket comes to: the set if the outermost bracket is closed, or else the
brackets that are open then, the innermost first. -/
abbrev AfterPiece := NestedSet ⊕ List OpenBracket

/-- The brackets that are open once a class has been read in the innermost one. -/
def classAdded? (flags : Flags) (b : OpenBracket) (outer : List OpenBracket) (negated : Bool)
    (set : CharSet) : Option AfterPiece :=
  (flags.complement? negated (flags.folded set)).map fun set =>
    .inr ({ b with items := b.items.addSet set } :: outer)

/-- The brackets that are open once the innermost one has been closed. -/
def closed? (flags : Flags) (b : OpenBracket) : List OpenBracket → Option AfterPiece
  | [] => (b.close? flags).map .inl
  | parent :: outer => (b.close? flags).map fun set =>
    .inr ({ parent with items := parent.items.add set } :: outer)

/-- Reads what an opening bracket within a bracket begins: a class, or a bracket of its own. -/
def openedPiece? (flags : Flags) (b : OpenBracket) (outer : List OpenBracket) (rest : List Char) :
    Option (AfterPiece × List Char) :=
  match namedClass? rest with
  | some (negated, set, rest) => (classAdded? flags b outer negated set).map fun a => (a, rest)
  | none =>
    let (inner, rest) := OpenBracket.begin flags rest
    some (.inr (inner :: b :: outer), rest)

/-- Reads an operator, or a unit or a range of units, given the first character. -/
def itemPiece? (flags : Flags) (b : OpenBracket) (outer : List OpenBracket) (c : Char)
    (rest : List Char) : Option (AfterPiece × List Char) :=
  match operation? c rest with
  | some (operation, rest) => some (.inr (b.operator flags operation :: outer), rest)
  | none => (bracketItem? flags (c :: rest)).map fun (set, rest) =>
    (.inr ({ b with items := b.items.addSet set } :: outer), rest)

/-- Reads one piece of a bracket, given its first character. -/
def bracketPiece? (flags : Flags) (b : OpenBracket) (outer : List OpenBracket) (c : Char)
    (rest : List Char) : Option (AfterPiece × List Char) :=
  if c = '[' then openedPiece? flags b outer rest
  else if c = ']' then (closed? flags b outer).map fun a => (a, rest)
  else itemPiece? flags b outer c rest

/-- Reads a bracket to its end. The first bracket of the stack is the innermost one; the number
bounds how many more pieces may be read. -/
def bracketRest? (flags : Flags) :
    Nat → List OpenBracket → List Char → Option (NestedSet × List Char)
  | limit + 1, b :: outer, cs =>
    match skip flags cs with
    | [] => none
    | c :: rest => do
      let (piece, rest) ← bracketPiece? flags b outer c rest
      match piece with
      | .inl set => return (set, rest)
      | .inr stack => bracketRest? flags limit stack rest
  | _, _, _ => none

/-- Reads a bracket, after `[`. -/
def bracket? (flags : Flags) (cs : List Char) : Option (NestedSet × List Char) :=
  let (b, rest) := OpenBracket.begin flags cs
  bracketRest? flags (cs.length + 1) [b] rest

end GuiTest.Regex
