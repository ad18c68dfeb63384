import GuiTest.Regex.Pattern

/-!
# Single places of a pattern

Flags, escapes and the other units of which patterns and bracketed sets are made. A pattern is read
from the left as a list of characters; every reader answers with what it read and what is left, or
with nothing if the pattern is malformed. In `verbose` patterns, blanks and comments between units
are skipped.
-/

namespace GuiTest.Regex

/-- How the rest of a group is to be read. -/
structure Flags where
  ignoreCase : Bool := false
  multiLine : Bool := false
  dotAll : Bool := false
  unicode : Bool := true
  verbose : Bool := false
  carriage : Bool := false

namespace Flags

/-- Sets the flag of a letter. The flag `U` exchanges short and long matches, which is no matter of
whether there is a match. -/
def set? (flags : Flags) (on : Bool) : Char → Option Flags
  | 'i' => some { flags with ignoreCase := on }
  | 'm' => some { flags with multiLine := on }
  | 's' => some { flags with dotAll := on }
  | 'u' => some { flags with unicode := on }
  | 'x' => some { flags with verbose := on }
  | 'R' => some { flags with carriage := on }
  | 'U' => some flags
  | _ => none

/-- Reads flag letters up to a colon or a closing parenthesis; a minus makes those after it take
flags back. No letter and no minus may come twice, and a minus must not come last. The answer says
which of the two ends was found and whether there were no letters at all. -/
def read? (seen : List Char) (flags : Flags) : List Char → Option (Flags × Char × Bool × List Char)
  | [] => none
  | c :: rest =>
    if c = ':' ∨ c = ')' then
      if seen.head? = some '-' then none else some (flags, c, seen.isEmpty, rest)
    else if c ∈ seen then none
    else if c = '-' then read? (c :: seen) flags rest
    else
      match flags.set? ('-' ∉ seen) c with
      | some flags => read? (c :: seen) flags rest
      | none => none

/-- The word characters that boundaries look for. -/
def word (flags : Flags) : CharSet := if flags.unicode then CharSet.word else CharSet.asciiWord

/-- Adds case variants to a set if case is ignored. -/
def folded (flags : Flags) (set : CharSet) : CharSet :=
  if flags.ignoreCase then (if flags.unicode then set.fold else set.foldAscii) else set

/-- The complement of a set, if that is wanted. Without Unicode it would hold bytes that are no
characters, and is refused. -/
def complement? (flags : Flags) (negated : Bool) (set : CharSet) : Option CharSet :=
  if negated then (if flags.unicode then some set.compl else none) else some set

end Flags

mutual

/-- Skips blanks and comments. -/
def skipBlanks : List Char → List Char
  | [] => []
  | c :: rest =>
    if Text.isBlank c then skipBlanks rest else if c = '#' then skipComment rest else c :: rest

/-- Skips a comment, which ends with its line, and what blanks and comments follow. -/
def skipComment : List Char → List Char
  | [] => []
  | c :: rest => if c = '\n' then skipBlanks rest else skipComment rest

end

/-- Skips blanks and comments where they do not count. -/
def skip (flags : Flags) (cs : List Char) : List Char :=
  if flags.verbose then skipBlanks cs else cs

mutual

/-- What stands before the next closing brace; in verbose patterns without blanks and comments. -/
def braced? (verbose : Bool) : List Char → Option (List Char × List Char)
  | [] => none
  | c :: rest =>
    if c = '}' then some ([], rest)
    else if verbose && Text.isBlank c then braced? verbose rest
    else if verbose && c == '#' then bracedComment? verbose rest
    else (braced? verbose rest).map fun (inside, rest) => (c :: inside, rest)

/-- Skips a comment within braces. -/
def bracedComment? (verbose : Bool) : List Char → Option (List Char × List Char)
  | [] => none
  | c :: rest => if c = '\n' then braced? verbose rest else bracedComment? verbose rest

end

/-- The character with a number, if there is one. -/
def scalar? (n : Nat) : Option Char := if n.isValidChar then some (Char.ofNat n) else none

/-- The number that hexadecimal digits spell. There must be digits only, and at least one. -/
def hexNumber? : List Char → Option Nat
  | [] => none
  | digits => Text.hexNumber? digits

/-- Reads so many hexadecimal digits. -/
def hexDigits? (flags : Flags) : Nat → Nat → List Char → Option (Nat × List Char)
  | 0, n, cs => some (n, cs)
  | _ + 1, _, [] => none
  | k + 1, n, c :: rest => do
    hexDigits? flags k (n * 16 + (← Text.hexDigit? c)) (skip flags rest)

/-- One unit: a character, a set, or a condition. -/
inductive Atom where
  | char (c : Char)
  | set (s : CharSet)
  | look (condition : Look)

/-- The character whose number is in the braces. -/
def bracedUnit? (inside : List Char) : Option Atom := do
  return .char (← scalar? (← hexNumber? inside))

/-- The character with this number, which was spelt with so many digits. Without Unicode two digits
mean a byte, and one that is no ASCII character is refused. -/
def spelledUnit? (flags : Flags) (digits n : Nat) : Option Atom :=
  if digits = 2 ∧ !flags.unicode ∧ 0x7F < n then none else (scalar? n).map .char

/-- Reads the number of a character: so many digits, or any number of them in braces. -/
def hexUnit? (flags : Flags) (digits : Nat) : List Char → Option (Atom × List Char)
  | [] => none
  | '{' :: rest => do
    let (inside, rest) ← braced? flags.verbose rest
    return (← bracedUnit? inside, rest)
  | cs => do
    let (n, rest) ← hexDigits? flags digits 0 cs
    return (← spelledUnit? flags digits n, rest)

/-- Reads a character by its number. -/
def hexEscape? (flags : Flags) (digits : Nat) (cs : List Char) : Option (Atom × List Char) :=
  hexUnit? flags digits (skip flags cs)

/-- The unit that the set of a property makes. Without Unicode there are no properties. -/
def propertyAtom? (flags : Flags) (negated : Bool) (set : CharSet) : Option Atom :=
  if flags.unicode then (flags.complement? negated (flags.folded set)).map .set else none

/-- Reads the name of a property: one letter, or a name in braces. -/
def propertyUnit? (flags : Flags) (negated : Bool) : List Char → Option (Atom × List Char)
  | [] => none
  | '\\' :: _ => none
  | '{' :: rest => do
    let (inside, rest) ← braced? flags.verbose rest
    return (← (PropertyName.read? inside).bind (propertyAtom? flags negated), rest)
  | c :: rest =>
    ((PropertyName.set? (PropertyName.normalize [c])).bind (propertyAtom? flags negated)).map
      fun a => (a, rest)

/-- Reads a property. -/
def propertyEscape? (flags : Flags) (negated : Bool) (cs : List Char) :
    Option (Atom × List Char) := propertyUnit? flags negated (skip flags cs)

/-- The class of a letter, which is negated if the letter is a capital. -/
def classEscape? (flags : Flags) (c : Char) : Option CharSet :=
  let set? : Option CharSet :=
    match c.toLower with
    | 'd' => some (if flags.unicode then CharSet.digit else CharSet.asciiDigit)
    | 's' => some (if flags.unicode then CharSet.space else CharSet.asciiSpace)
    | 'w' => some flags.word
    | _ => none
  set?.bind (flags.complement? c.isUpper)

/-- The boundary that a name in braces stands for. -/
def boundaryNamed? (flags : Flags) (name : List Char) : Option Atom :=
  match String.ofList name with
  | "start" => some (.look (.wordStart flags.word))
  | "end" => some (.look (.wordEnd flags.word))
  | "start-half" => some (.look (.wordStartHalf flags.word))
  | "end-half" => some (.look (.wordEndHalf flags.word))
  | _ => none

/-- A word boundary may be followed by its kind in braces. Braces that do not begin with a letter or
a minus are left for a repetition. -/
def boundaryKind? (flags : Flags) : List Char → Option (Atom × List Char)
  | '{' :: rest =>
    match skip flags rest with
    | [] => none
    | c :: _ =>
      if c.isAlpha || c == '-' then do
        let (name, rest) ← braced? flags.verbose rest
        return (← boundaryNamed? flags name, rest)
      else some (.look (.boundary flags.word), '{' :: rest)
  | cs => some (.look (.boundary flags.word), cs)

/-- The character that a letter after a backslash stands for. -/
def controlEscape? : Char → Option Char
  | 'a' => some '\x07'
  | 'f' => some '\x0C'
  | 't' => some '\t'
  | 'n' => some '\n'
  | 'r' => some '\r'
  | 'v' => some '\x0B'
  | _ => none

/-- Reads what follows a backslash. ASCII characters other than letters, digits and angle brackets
stand for themselves; a digit would refer back to a group, which is refused. -/
def escape? (flags : Flags) : List Char → Option (Atom × List Char)
  | [] => none
  | c :: rest =>
    if c = 'x' then hexEscape? flags 2 rest
    else if c = 'u' then hexEscape? flags 4 rest
    else if c = 'U' then hexEscape? flags 8 rest
    else if c = 'p' ∨ c = 'P' then propertyEscape? flags (c == 'P') rest
    else if c.toLower ∈ ['d', 's', 'w'] then (classEscape? flags c).map fun s => (.set s, rest)
    else if c = 'A' then some (.look .textStart, rest)
    else if c = 'z' then some (.look .textEnd, rest)
    else if c = 'b' then boundaryKind? flags rest
    else if c = 'B' then some (.look (.notBoundary flags.word), rest)
    else if c = '<' then some (.look (.wordStart flags.word), rest)
    else if c = '>' then some (.look (.wordEnd flags.word), rest)
    else if c.toNat < 128 ∧ ¬c.isAlphanum then some (.char c, rest)
    else (controlEscape? c).map fun c => (.char c, rest)

/-- Reads one unit outside of brackets. A dot takes no line end unless it is to take all. -/
def atom? (flags : Flags) : List Char → Option (Atom × List Char)
  | [] => none
  | '\\' :: rest => escape? flags rest
  | '.' :: rest =>
    if !flags.unicode then none
    else if flags.dotAll then some (.set CharSet.full, rest)
    else some (.set fun c => !(c == '\n' || (flags.carriage && c == '\r')), rest)
  | '^' :: rest =>
    some (.look (if flags.multiLine then .lineStart flags.carriage else .textStart), rest)
  | '$' :: rest =>
    some (.look (if flags.multiLine then .lineEnd flags.carriage else .textEnd), rest)
  | c :: rest => some (.char c, rest)

/-- The pattern of one unit. -/
def Atom.pattern (flags : Flags) : Atom → Pattern
  | .char c => .one (flags.folded (CharSet.single c))
  | .set s => .one s
  | .look condition => .look condition

end GuiTest.Regex
