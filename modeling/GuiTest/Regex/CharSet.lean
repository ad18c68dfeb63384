import GuiTest.Text.Blank
import GuiTest.Unicode.Casing
import GuiTest.Unicode.Script

/-!
# Sets of characters

What one place of a pattern may take: a literal, a range, a class such as `\d` or `[:alpha:]`, a
property of the Unicode character database, and what is built from them. A set is its membership
test.
-/

namespace GuiTest.Regex

open Unicode

/-- A set of characters. -/
abbrev CharSet := Char → Bool

namespace CharSet

/-- No character. -/
def empty : CharSet := fun _ => false

/-- Every character. -/
def full : CharSet := fun _ => true

/-- One character. -/
def single (c : Char) : CharSet := fun d => d == c

/-- The characters between two others, ends included. -/
def range (low high : Char) : CharSet := fun c => low ≤ c && c ≤ high

/-- The members of either set. -/
def union (a b : CharSet) : CharSet := fun c => a c || b c

/-- The members of both sets. -/
def inter (a b : CharSet) : CharSet := fun c => a c && b c

/-- The members of the first set that are not in the second. -/
def diff (a b : CharSet) : CharSet := fun c => a c && !b c

/-- The members of exactly one of the sets. -/
def symmDiff (a b : CharSet) : CharSet := fun c => a c != b c

/-- The characters outside a set. -/
def compl (a : CharSet) : CharSet := fun c => !a c

/-- The members of a set with all their case variants. -/
def fold (a : CharSet) : CharSet := fun c => (Casing.variants c).any a

/-- The members of a set with the case variants of those that are ASCII letters. -/
def foldAscii (a : CharSet) : CharSet := fun c =>
  a c || (c.isUpper && a c.toLower) || (c.isLower && a c.toUpper)

/-- Decimal digits. -/
def digit : CharSet := Category.holds [.decimalNumber]

/-- White space. -/
def space : CharSet := Text.isBlank

/-- What words are made of: letters, marks, digits, connectors, and the two joiners. -/
def word : CharSet := fun c =>
  c.isAlphanum || Property.alphabetic.holds c
    || Category.holds (Category.marks ++ [.decimalNumber, .connectorPunctuation]) c
    || c == '\u200C' || c == '\u200D'

/-- The classes of ASCII characters that have names. -/
def ascii? : String → Option CharSet
  | "alnum" => some Char.isAlphanum
  | "alpha" => some Char.isAlpha
  | "ascii" => some (range '\x00' '\x7F')
  | "blank" => some fun c => c == '\t' || c == ' '
  | "cntrl" => some fun c => c ≤ '\x1F' || c == '\x7F'
  | "digit" => some Char.isDigit
  | "graph" => some (range '!' '~')
  | "lower" => some Char.isLower
  | "print" => some (range ' ' '~')
  | "punct" => some fun c => range '!' '~' c && !c.isAlphanum
  | "space" => some fun c => c == ' ' || range '\t' '\r' c
  | "upper" => some Char.isUpper
  | "word" => some fun c => c.isAlphanum || c == '_'
  | "xdigit" => some fun c => c.isDigit || range 'a' 'f' c || range 'A' 'F' c
  | _ => none

/-- Digits among the ASCII characters. -/
def asciiDigit : CharSet := Char.isDigit

/-- White space among the ASCII characters. -/
def asciiSpace : CharSet := fun c => c == ' ' || range '\t' '\r' c

/-- Word characters among the ASCII characters. -/
def asciiWord : CharSet := fun c => c.isAlphanum || c == '_'

end CharSet

namespace PropertyName

/-- The form in which names of properties and their values are compared: without a leading `is`, in
lower case, without blanks, `_`, `-` and whatever is not ASCII. The short name `isc` stays. -/
def normalize (name : List Char) : String :=
  match name with
  | i :: s :: rest =>
    if i.toLower = 'i' ∧ s.toLower = 's' then
      if kept rest = ['c'] then "isc" else String.ofList (kept rest)
    else String.ofList (kept name)
  | _ => String.ofList (kept name)
where
  /-- The characters that count. -/
  kept (cs : List Char) : List Char :=
    cs.filterMap fun c =>
      if c = ' ' ∨ c = '_' ∨ c = '-' ∨ 128 ≤ c.toNat then none else some c.toLower

/-- A general category, by its name or that of a group. -/
def category? : String → Option CharSet
  | "any" => some CharSet.full
  | "assigned" => some fun c => !Category.holds [.unassigned] c
  | "ascii" => some (CharSet.range '\x00' '\x7F')
  | name => (Category.ofName? name).map Category.holds

/-- The characters with a property that has a name of its own: a binary property, a general category
or a script. Three names that could be either are categories. -/
def set? (name : String) : Option CharSet :=
  let binary := if name ∈ ["cf", "sc", "lc"] then none else Property.ofName? name
  match binary with
  | some property => some property.holds
  | none =>
    match category? name with
    | some set => some set
    | none => (Script.ofName? name).map fun script => script.own.covers

/-- The characters for which a property has a value. -/
def valueSet? (name value : String) : Option CharSet :=
  if name ∈ ["gc", "generalcategory"] then category? value
  else if name ∈ ["sc", "script"] then (Script.ofName? value).map fun script => script.own.covers
  else if name ∈ ["scx", "scriptextensions"] then
    (Script.ofName? value).map fun script => script.extended.covers
  else none

/-- Reads what stands between the braces of a property: a name, or a name and a value with `!=`, `:`
or `=` between them. Which of the three it is makes no difference. -/
def read? (inside : List Char) : Option CharSet :=
  match splitAtUnequal inside with
  | some (name, value) => valueSet? (normalize name) (normalize value)
  | none =>
    match splitAt ':' inside with
    | some (name, value) => valueSet? (normalize name) (normalize value)
    | none =>
      match splitAt '=' inside with
      | some (name, value) => valueSet? (normalize name) (normalize value)
      | none => set? (normalize inside)
where
  /-- What stands before and after the first `!=`. -/
  splitAtUnequal : List Char → Option (List Char × List Char)
    | '!' :: '=' :: rest => some ([], rest)
    | c :: rest => (splitAtUnequal rest).map fun (a, b) => (c :: a, b)
    | [] => none
  /-- What stands before and after the first separator. -/
  splitAt (separator : Char) : List Char → Option (List Char × List Char)
    | c :: rest =>
      if c = separator then some ([], rest)
      else (splitAt separator rest).map fun (a, b) => (c :: a, b)
    | [] => none

end PropertyName

end GuiTest.Regex
