import GuiTest.Regex.CharSet

/-!
# Patterns and what they match

`Pattern.Spans text p i j` says that `p` matches the part of the text from position `i` to position
`j`, where positions are the gaps between characters, from `0` to the length of the text.
`Pattern.ends` computes, from the positions where a match may begin, all positions where it may end;
no pattern makes it go back, so the work is bounded by the size of the pattern times the square of
the length of the text.
-/

namespace GuiTest.Regex

/-- The neighbours of a position in a text. -/
structure Gap where
  before : Option Char
  after : Option Char

namespace Gap

/-- The gaps of a text, given the character before it. -/
def listFrom (before : Option Char) : List Char → List Gap
  | [] => [⟨before, none⟩]
  | c :: rest => ⟨before, some c⟩ :: listFrom (some c) rest

/-- The gaps of a text. -/
def list (text : List Char) : List Gap := listFrom none text

end Gap

/-- A condition on a position. -/
inductive Look where
  | textStart
  | textEnd
  /-- Begin or end of a line. With `carriage`, a carriage return ends a line too, but a line feed
  after it belongs to the same end. -/
  | lineStart (carriage : Bool)
  | lineEnd (carriage : Bool)
  /-- Conditions on whether the neighbours are `word` characters. -/
  | boundary (word : CharSet)
  | notBoundary (word : CharSet)
  | wordStart (word : CharSet)
  | wordEnd (word : CharSet)
  | wordStartHalf (word : CharSet)
  | wordEndHalf (word : CharSet)

/-- Whether the condition holds at a position. -/
def Look.holds : Look → Gap → Bool
  | textStart, g => g.before.isNone
  | textEnd, g => g.after.isNone
  | lineStart false, g => g.before.all (· == '\n')
  | lineStart true, g =>
    g.before.all fun c => c == '\n' || (c == '\r' && g.after != some '\n')
  | lineEnd false, g => g.after.all (· == '\n')
  | lineEnd true, g => g.after.all fun c => c == '\r' || (c == '\n' && g.before != some '\r')
  | boundary word, g => g.before.any word != g.after.any word
  | notBoundary word, g => g.before.any word == g.after.any word
  | wordStart word, g => !g.before.any word && g.after.any word
  | wordEnd word, g => g.before.any word && !g.after.any word
  | wordStartHalf word, g => !g.before.any word
  | wordEndHalf word, g => !g.after.any word

/-- A pattern. `repeated p least most` matches at least `least` times `p` in a row, and at most
`most` times if that is given. -/
inductive Pattern where
  | empty
  | one (set : CharSet)
  | look (condition : Look)
  | seq (p q : Pattern)
  | alt (p q : Pattern)
  | repeated (p : Pattern) (least : Nat) (most : Option Nat)

namespace Pattern

/-- The pattern matches the text between two positions. -/
inductive Spans (text : List Char) : Pattern → Nat → Nat → Prop where
  | empty {i : Nat} : i ≤ text.length → Spans text .empty i i
  | one {set : CharSet} {i : Nat} {c : Char} :
      text[i]? = some c → set c = true → Spans text (.one set) i (i + 1)
  | look {condition : Look} {i : Nat} {g : Gap} :
      (Gap.list text)[i]? = some g → condition.holds g = true → Spans text (.look condition) i i
  | seq {p q : Pattern} {i j k : Nat} :
      Spans text p i j → Spans text q j k → Spans text (.seq p q) i k
  | left {p q : Pattern} {i j : Nat} : Spans text p i j → Spans text (.alt p q) i j
  | right {p q : Pattern} {i j : Nat} : Spans text q i j → Spans text (.alt p q) i j
  | stop {p : Pattern} {most : Option Nat} {i : Nat} :
      i ≤ text.length → Spans text (.repeated p 0 most) i i
  | more {p : Pattern} {least : Nat} {most : Option Nat} {i j k : Nat} :
      most ≠ some 0 → Spans text p i j →
      Spans text (.repeated p (least - 1) (most.map (· - 1))) j k →
      Spans text (.repeated p least most) i k

/-- A set of positions of a text, one truth value per position. -/
abbrev Positions := List Bool

/-- The positions in either set. -/
def Positions.union (s t : Positions) : Positions := List.zipWith (· || ·) s t

/-- Applies a step so often. -/
def Positions.times (step : Positions → Positions) : Nat → Positions → Positions
  | 0, s => s
  | k + 1, s => times step k (step s)

/-- Adds the positions that a step reaches, at most so often. It stops early when nothing is new. -/
def Positions.grow (step : Positions → Positions) : Nat → Positions → Positions
  | 0, s => s
  | k + 1, s =>
    let larger := s.union (step s)
    if larger = s then s else grow step k larger

/-- The positions where a match may end that begins at one of the given positions. -/
def ends (text : List Char) : Pattern → Positions → Positions
  | .empty, s => s
  | .one set, s => false :: List.zipWith (fun c b => b && set c) text s
  | .look condition, s => List.zipWith (fun g b => b && condition.holds g) (Gap.list text) s
  | .seq p q, s => ends text q (ends text p s)
  | .alt p q, s => (ends text p s).union (ends text q s)
  | .repeated p least most, s =>
    Positions.grow (ends text p) (match most with | none => text.length + 1 | some m => m - least)
      (Positions.times (ends text p) least s)

/-- Whether the pattern matches some part of the text. -/
def occursIn (p : Pattern) (text : List Char) : Bool :=
  (ends text p (List.replicate (text.length + 1) true)).any id

/-- Whether the pattern can match only where it takes no character. -/
def takesNothing : Pattern → Bool
  | .empty => true
  | .one _ => false
  | .look _ => true
  | .seq p q => takesNothing p && takesNothing q
  | .alt p q => takesNothing p && takesNothing q
  | .repeated p _ most => takesNothing p || most == some 0

/-- A repetition. To repeat what takes nothing more than once adds nothing. -/
def repeating (p : Pattern) (least : Nat) (most : Option Nat) : Pattern :=
  if takesNothing p then .repeated p (min least 1) (some (min (most.getD 1) 1))
  else .repeated p least most

end Pattern

end GuiTest.Regex
