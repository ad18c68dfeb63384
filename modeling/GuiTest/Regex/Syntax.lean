import GuiTest.Regex.Bracket
import GuiTest.Regex.Library

/-!
# Reading patterns

The pattern language: alternatives, groups, repetitions and units. Groups that are still open are
kept on a stack; one `step` reads one piece. Each part carries how deeply it nests and how many
states a machine for it has, both of which are limited.
-/

namespace GuiTest.Regex

/-- A part of a pattern. Nothing can be repeated that is not there: an empty part or a setting of
flags is not `repeatable`. -/
structure Part where
  pattern : Pattern
  depth : Nat
  states : Nat
  repeatable : Bool

namespace Part

/-- A part that matches everywhere and takes nothing. -/
def nothing : Part := ⟨.empty, 0, 0, false⟩

/-- The states for a unit: one for each byte of a character, and a rough number for a set, which
would have to be split into ranges of bytes to be counted. -/
def ofAtom (flags : Flags) (a : Atom) : Part :=
  let states :=
    match a with
    | .char c => if flags.ignoreCase then 1 else c.utf8Size
    | .set _ => if flags.unicode then 12 else 1
    | .look _ => 1
  ⟨a.pattern flags, 0, states, true⟩

/-- Parts one after the other, given the last first. -/
def sequence : List Part → Part
  | [] => nothing
  | [p] => p
  | parts =>
    ⟨(parts.map pattern).foldl (fun after p => .seq p after) .empty,
      (parts.map depth).foldl max 0 + 1, (parts.map states).foldl (· + ·) 0, true⟩

/-- Alternatives, given the last first. -/
def choice : List Part → Part
  | [] => nothing
  | [p] => p
  | p :: parts =>
    ⟨(parts.map pattern).foldl (fun later p => .alt p later) p.pattern,
      ((p :: parts).map depth).foldl max 0 + 1, ((p :: parts).map states).foldl (· + ·) 1, true⟩

/-- A group around a part. -/
def group (captures : Bool) (p : Part) : Part :=
  ⟨p.pattern, p.depth + 1, p.states + (if captures then 2 else 0), true⟩

/-- A repetition of a part. -/
def repeating (p : Part) (least : Nat) (most : Option Nat) : Part :=
  let copies := if p.pattern.takesNothing then 1 else max least (most.getD (max least 1))
  ⟨p.pattern.repeating least most, p.depth + 1, p.states * copies + (copies - least) + 1, true⟩

end Part

/-- The alternatives of a group that were read, the last first, and the parts of the present one. -/
structure Alternatives where
  earlier : List Part
  present : List Part

namespace Alternatives

/-- Nothing was read. -/
def start : Alternatives := ⟨[], []⟩

/-- Another part. -/
def add (a : Alternatives) (p : Part) : Alternatives := { a with present := p :: a.present }

/-- All alternatives as one part. -/
def part (a : Alternatives) : Part := Part.choice (Part.sequence a.present :: a.earlier)

end Alternatives

/-- A group that is still open: what was read before it, the flags to return to, and whether it
captures. -/
structure OpenGroup where
  before : Alternatives
  flags : Flags
  captures : Bool

/-- How far the reading is. -/
structure Progress where
  alternatives : Alternatives
  groups : List OpenGroup
  flags : Flags
  names : List (List Char)

namespace Progress

/-- Before the first character. -/
def start : Progress := ⟨.start, [], {}, []⟩

/-- Adds a part. -/
def add (p : Progress) (part : Part) : Progress :=
  { p with alternatives := p.alternatives.add part }

/-- Opens a group. -/
def openGroup (p : Progress) (captures : Bool) (flags : Flags) : Progress :=
  { p with
    alternatives := .start
    groups := ⟨p.alternatives, p.flags, captures⟩ :: p.groups
    flags := flags }

/-- Closes a group. -/
def closeGroup? (p : Progress) : Option Progress :=
  match p.groups with
  | [] => none
  | g :: outer =>
    some { p with
      alternatives := g.before.add (Part.group g.captures p.alternatives.part)
      groups := outer
      flags := g.flags }

/-- Repeats the last part. -/
def repeatLast? (p : Progress) (least : Nat) (most : Option Nat) : Option Progress :=
  match p.alternatives.present with
  | last :: before =>
    if last.repeatable then
      some { p with
        alternatives := { p.alternatives with present := last.repeating least most :: before } }
    else none
  | [] => none

/-- Whether a character may stand in the name of a group. -/
def isNameChar (first : Bool) (c : Char) : Bool :=
  c == '_' || Unicode.Property.alphabetic.holds c
    || (!first && (c == '.' || c == '[' || c == ']'
          || Unicode.Category.holds Unicode.Category.numbers c))

/-- Whether characters are the name of a group. -/
def isName : List Char → Bool
  | [] => false
  | c :: rest => isNameChar true c && rest.all (isNameChar false)

/-- Opens a group with a name, which no other group may have. -/
def openNamed? (p : Progress) (cs : List Char) : Option (Progress × List Char) :=
  match cs.dropWhile (· != '>') with
  | _ :: rest =>
    let name := cs.takeWhile (· != '>')
    if isName name ∧ name ∉ p.names then
      some ({ p with names := name :: p.names }.openGroup true p.flags, rest)
    else none
  | [] => none

/-- What flags after a question mark do: they open a group if a colon comes after them, and else
hold for the rest of the present one. -/
def useFlags? (p : Progress) : Flags × Char × Bool → Option Progress
  | (flags, ':', _) => some (p.openGroup false flags)
  | (flags, _, false) => some ({ p with flags := flags }.add Part.nothing)
  | _ => none

/-- Reads flags after a question mark and does what they say. -/
def flagGroup? (p : Progress) (cs : List Char) : Option (Progress × List Char) := do
  let (flags, last, empty, rest) ← p.flags.read? [] cs
  return (← p.useFlags? (flags, last, empty), rest)

/-- Reads what comes after the angle bracket of `(?<`. To look back is refused. -/
def openedByAngle? (p : Progress) : List Char → Option (Progress × List Char)
  | '=' :: _ => none
  | '!' :: _ => none
  | cs => p.openNamed? cs

/-- Reads what comes after the question mark of `(?`. To look ahead is refused. -/
def openedByQuestion? (p : Progress) : List Char → Option (Progress × List Char)
  | '=' :: _ => none
  | '!' :: _ => none
  | '<' :: rest => p.openedByAngle? rest
  | 'P' :: '<' :: rest => p.openNamed? rest
  | cs => p.flagGroup? cs

/-- Reads what comes after an opening parenthesis and the blanks behind it. -/
def opened? (p : Progress) : List Char → Option (Progress × List Char)
  | '?' :: rest => p.openedByQuestion? rest
  | rest => some (p.openGroup true p.flags, rest)

/-- Reads what follows an opening parenthesis. -/
def parenthesis? (p : Progress) (cs : List Char) : Option (Progress × List Char) :=
  p.opened? (skip p.flags cs)

/-- Skips the mark that makes a repetition prefer few or many. -/
def skipPreference : List Char → List Char
  | '?' :: rest => rest
  | cs => cs

/-- A number of 32 bits, with blanks around it. -/
def count? (cs : List Char) : Option Nat :=
  let digits := Text.trimChars cs
  let n := digits.foldl (fun n c => n * 10 + (c.toNat - '0'.toNat)) 0
  if digits ≠ [] ∧ digits.all Char.isDigit ∧ n < Nat.pow 2 32 then some n else none

/-- Reads the bounds between the braces of a repetition: a number, a number and a comma, or two
numbers of which the first is not the greater. -/
def bounds? (inside : List Char) : Option (Nat × Option Nat) :=
  match inside.dropWhile (· != ',') with
  | [] => (count? inside).map fun n => (n, some n)
  | _ :: upper => do
    let least ← count? (inside.takeWhile (· != ','))
    if upper = [] then return (least, none)
    else
      let most ← count? upper
      if least ≤ most then return (least, some most) else none

/-- Reads one piece, given its first character. -/
def step? (p : Progress) (c : Char) (rest : List Char) : Option (Progress × List Char) :=
  if c = '(' then p.parenthesis? rest
  else if c = ')' then p.closeGroup?.map fun p => (p, rest)
  else if c = '|' then
    let a := p.alternatives
    some ({ p with alternatives := ⟨Part.sequence a.present :: a.earlier, []⟩ }, rest)
  else if c = '[' then do
    let (set, rest) ← bracket? p.flags rest
    return (p.add ⟨.one set.set, set.depth, if p.flags.unicode then 12 else 1, true⟩, rest)
  else if c = '?' then (p.repeatLast? 0 (some 1)).map fun p => (p, skipPreference rest)
  else if c = '*' then (p.repeatLast? 0 none).map fun p => (p, skipPreference rest)
  else if c = '+' then (p.repeatLast? 1 none).map fun p => (p, skipPreference rest)
  else if c = '{' then do
    let (inside, rest) ← braced? p.flags.verbose rest
    let (least, most) ← bounds? inside
    return (← p.repeatLast? least most, skipPreference (skip p.flags rest))
  else do
    let (a, rest) ← atom? p.flags (c :: rest)
    return (p.add (Part.ofAtom p.flags a), rest)

/-- Reads to the end. The number bounds how many more pieces may be read. -/
def finish? : Nat → Progress → List Char → Option Part
  | limit + 1, p, cs =>
    match skip p.flags cs with
    | [] => if p.groups.isEmpty then some p.alternatives.part else none
    | c :: rest => do
      let (p, rest) ← p.step? c rest
      finish? limit p rest
  | 0, _, _ => none

end Progress

/-- The deepest nesting of groups, repetitions, lists and brackets. -/
def maxDepth : Nat := 250

/-- The number of states that a machine may have, at some 32 bytes each within ten megabytes. -/
def maxStates : Nat := 10 * Nat.pow 2 20 / 32

/-- Reads a pattern. -/
def read (cs : List Char) : Except Fault Pattern :=
  match Progress.start.finish? (cs.length + 1) cs with
  | none => .error .malformed
  | some part =>
    if maxDepth < part.depth then .error .malformed
    else if maxStates < part.states then .error .tooLarge
    else .ok part.pattern

/-- A library with these readers and this matcher. It stands in for the one that regular expressions
are compiled with, so that what is built on it can be run. It knows less: of the properties of
characters only general categories, scripts, script extensions and binary properties, so it refuses
`\p{Age:6.0}`; and it counts the states of a machine roughly, where the library measures what it
compiles. What is proved of regular expressions for whole texts is proved of every library that does
as documented. -/
def engine : Library where
  Expression := Pattern
  compile source := read source.toList
  isMatch p text := p.occursIn text.toList

end GuiTest.Regex
