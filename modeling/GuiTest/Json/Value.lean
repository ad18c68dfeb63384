/-!
# JSON values

Values as they are written: numbers keep their digits, objects keep the order and repetition of
their members, and a string literal that escapes half of a surrogate pair is kept as a string
without text. What a reader of records may ignore is so still told apart from what it may not.
-/

namespace GuiTest.Json

/-- A number literal. `whole` holds the digits before the point, `fraction` those after it, and
`exponent` the sign (true for minus) and the digits of the power of ten. -/
structure Number where
  negative : Bool
  whole : List Char
  fraction : List Char
  exponent : Option (Bool × List Char)
  deriving DecidableEq, Repr

/-- A JSON value. A string or member name is `none` if it has no text. -/
inductive Value where
  | null
  | bool (b : Bool)
  | number (n : Number)
  | string (text : Option String)
  | array (items : List Value)
  | object (members : List (Option String × Value))
  deriving Repr

namespace Number

/-- The value of a decimal digit. -/
def digitValue (c : Char) : Nat := c.toNat - '0'.toNat

/-- The number that decimal digits spell. -/
def ofDigits (digits : List Char) : Nat := digits.foldl (fun n c => n * 10 + digitValue c) 0

/-- The literal of a natural number. -/
def ofNat (n : Nat) : Number := ⟨false, Nat.toDigits 10 n, [], none⟩

/-- The natural number that a literal without sign, fraction and exponent denotes. -/
def toNat? : Number → Option Nat
  | ⟨false, whole, [], none⟩ => some (ofDigits whole)
  | _ => none

/-- The leading digits that fit in 64 bits, as a number, and the digits left over. -/
def leading64 (n : Nat) : List Char → Nat × List Char
  | [] => (n, [])
  | c :: rest =>
    if n * 10 + digitValue c < Nat.pow 2 64 then leading64 (n * 10 + digitValue c) rest
    else (n, c :: rest)

/-- The nearest number with at most 53 significant binary digits; a tie goes to the even one. -/
def round53 (n : Nat) : Nat :=
  if n < Nat.pow 2 53 then n
  else
    let unit := Nat.pow 2 (n.log2 - 52)
    let q := n / unit
    let r := n % unit
    (if unit < 2 * r ∨ (unit = 2 * r ∧ q % 2 = 1) then q + 1 else q) * unit

/-- The power of ten by which the kept digits are to be multiplied. Digits before the point that do
not fit count towards it, those after the point are dropped. -/
def scale (n : Number) : Nat × Int :=
  let (kept, left) := leading64 0 n.whole
  let (significand, dropped) := leading64 kept n.fraction
  let places : Int := left.length - (n.fraction.length - dropped.length : Nat)
  let power : Int :=
    match n.exponent with
    | none => 0
    | some (true, digits) => -(ofDigits digits : Int)
    | some (false, digits) => ofDigits digits
  (significand, places + power)

/-- Whether the value of the literal is within the range of double precision. -/
def isFinite (n : Number) : Bool :=
  let (significand, power) := n.scale
  significand == 0 || power < 0
    || (power ≤ 308
        && round53 significand * round53 (Nat.pow 10 power.toNat) < Nat.pow 2 1024 - Nat.pow 2 970)

end Number

namespace Value

/-- A string with a text. -/
def text (s : String) : Value := .string (some s)

/-- A natural number. -/
def nat (n : Nat) : Value := .number (.ofNat n)

/-- A text, or null. -/
def optionalText : Option String → Value
  | some s => text s
  | none => null

/-- A number, or null. -/
def optionalNat : Option Nat → Value
  | some n => nat n
  | none => null

/-- A list of texts. -/
def texts (l : List String) : Value := .array (l.map text)

/-- An object with the given member names. -/
def record (members : List (String × Value)) : Value :=
  .object (members.map fun (name, v) => (some name, v))

mutual

/-- Puts the members of every object in the order of their names. -/
def sorted : Value → Value
  | .array items => .array (sortedItems items)
  | .object members =>
    .object ((sortedMembers members).mergeSort fun a b => (a.1.getD "") ≤ (b.1.getD ""))
  | v => v

/-- Sorts the objects within the items of an array. -/
def sortedItems : List Value → List Value
  | [] => []
  | v :: rest => sorted v :: sortedItems rest

/-- Sorts the objects within the members of an object, but not the members themselves. -/
def sortedMembers : List (Option String × Value) → List (Option String × Value)
  | [] => []
  | (name, v) :: rest => (name, sorted v) :: sortedMembers rest

end

end Value

end GuiTest.Json
