import GuiTest.Json.Value
import GuiTest.Text.Hexadecimal

/-!
# JSON tokens

`tokens?` cuts a text into tokens, or refuses it. A scanner hands back what it leaves over; that
this is shorter than what it was given (`readToken?_length`) makes the cutting end.
-/

namespace GuiTest.Json

/-- A token: a bracket, a separator, a string literal, or another literal with its value. -/
inductive Token where
  | openArray
  | closeArray
  | openObject
  | closeObject
  | comma
  | colon
  | string (text : Option String)
  | literal (v : Value)
  deriving Repr

/-- The blanks that JSON allows between tokens. -/
def isBlank (c : Char) : Bool := c == ' ' || c == '\n' || c == '\t' || c == '\r'

/-- The number of four hexadecimal digits. -/
def hex4? (a b c d : Char) : Option Nat := Text.hexNumber? [a, b, c, d]

/-- The character of a one-letter escape. -/
def escaped? : Char → Option Char
  | '"' => some '"'
  | '\\' => some '\\'
  | '/' => some '/'
  | 'b' => some '\x08'
  | 'f' => some '\x0C'
  | 'n' => some '\n'
  | 'r' => some '\r'
  | 't' => some '\t'
  | _ => none

/-- The first half of a surrogate pair. -/
def isHigh (u : Nat) : Bool := 0xD800 ≤ u && u < 0xDC00

/-- The second half of a surrogate pair. -/
def isLow (u : Nat) : Bool := 0xDC00 ≤ u && u < 0xE000

/-- The character of a surrogate pair. -/
def pairChar (high low : Nat) : Char :=
  Char.ofNat (0x10000 + (high - 0xD800) * 0x400 + (low - 0xDC00))

/-- A part of a string literal: a character, or half of a surrogate pair given by an escape. -/
inductive Piece where
  | char (c : Char)
  | half (u : Nat)

/-- The part that an escape with four digits gives. -/
def Piece.ofUnit (u : Nat) : Piece :=
  if isHigh u || isLow u then .half u else .char (Char.ofNat u)

/-- The characters of a string literal, if each half of a pair stands with its other half. -/
def joinHalves? : List Piece → Option (List Char)
  | [] => some []
  | .char c :: rest => (joinHalves? rest).map (c :: ·)
  | .half u :: .half v :: rest =>
    if isHigh u && isLow v then (joinHalves? rest).map (pairChar u v :: ·) else none
  | .half _ :: _ => none

/-- The parts of a string literal after its opening quote, and what follows its closing one. -/
def pieces? : List Char → Option (List Piece × List Char)
  | [] => none
  | '"' :: rest => some ([], rest)
  | '\\' :: 'u' :: a :: b :: c :: d :: rest =>
    match hex4? a b c d with
    | none => none
    | some u => (pieces? rest).map fun (ps, left) => (Piece.ofUnit u :: ps, left)
  | '\\' :: e :: rest =>
    match escaped? e with
    | none => none
    | some c => (pieces? rest).map fun (ps, left) => (.char c :: ps, left)
  | c :: rest =>
    if c.toNat < 0x20 ∨ c = '\\' then none
    else (pieces? rest).map fun (ps, left) => (.char c :: ps, left)

/-- One or more digits. -/
def digits? (cs : List Char) : Option (List Char × List Char) :=
  if cs.takeWhile Char.isDigit = [] then none
  else some (cs.takeWhile Char.isDigit, cs.dropWhile Char.isDigit)

/-- The digits before the point: a zero alone, or digits that do not start with one. -/
def whole? : List Char → Option (List Char × List Char)
  | '0' :: rest => some (['0'], rest)
  | cs => digits? cs

/-- The digits after the point, if there is one. -/
def fraction? : List Char → Option (List Char × List Char)
  | '.' :: rest => digits? rest
  | cs => some ([], cs)

/-- The power of ten, if there is one. -/
def exponent? : List Char → Option (Option (Bool × List Char) × List Char)
  | c :: rest =>
    if c = 'e' ∨ c = 'E' then
      match rest with
      | '-' :: rest => (digits? rest).map fun (run, left) => (some (true, run), left)
      | '+' :: rest => (digits? rest).map fun (run, left) => (some (false, run), left)
      | rest => (digits? rest).map fun (run, left) => (some (false, run), left)
    else some (none, c :: rest)
  | [] => some (none, [])

/-- A number without its sign. -/
def unsigned? (negative : Bool) (cs : List Char) : Option (Number × List Char) := do
  let (whole, cs) ← whole? cs
  let (fraction, cs) ← fraction? cs
  let (exponent, cs) ← exponent? cs
  return (⟨negative, whole, fraction, exponent⟩, cs)

/-- A number literal. -/
def number? : List Char → Option (Number × List Char)
  | '-' :: rest => unsigned? true rest
  | cs => unsigned? false cs

/-- The token at the start of a text that does not start with a blank. -/
def readToken? : List Char → Option (Token × List Char)
  | '[' :: rest => some (.openArray, rest)
  | ']' :: rest => some (.closeArray, rest)
  | '{' :: rest => some (.openObject, rest)
  | '}' :: rest => some (.closeObject, rest)
  | ',' :: rest => some (.comma, rest)
  | ':' :: rest => some (.colon, rest)
  | '"' :: rest =>
    (pieces? rest).map fun (ps, left) => (.string ((joinHalves? ps).map String.ofList), left)
  | 'n' :: 'u' :: 'l' :: 'l' :: rest => some (.literal .null, rest)
  | 't' :: 'r' :: 'u' :: 'e' :: rest => some (.literal (.bool true), rest)
  | 'f' :: 'a' :: 'l' :: 's' :: 'e' :: rest => some (.literal (.bool false), rest)
  | cs => (number? cs).map fun (n, left) => (.literal (.number n), left)

/-- A string literal takes at least its closing quote. -/
theorem pieces?_length {cs : List Char} {r : List Piece × List Char} (h : pieces? cs = some r) :
    r.2.length < cs.length := by
  fun_induction pieces? cs generalizing r with
  | case1 => cases h
  | case2 => cases h; simp
  | case3 => cases h
  | case4 a b c d rest u _ ih =>
    obtain ⟨q, hq, rfl⟩ := Option.map_eq_some_iff.1 h
    have := ih hq
    simp only [List.length_cons]
    omega
  | case5 => cases h
  | case6 e rest _ c _ ih =>
    obtain ⟨q, hq, rfl⟩ := Option.map_eq_some_iff.1 h
    have := ih hq
    simp only [List.length_cons]
    omega
  | case7 => cases h
  | case8 c rest _ _ _ _ ih =>
    obtain ⟨q, hq, rfl⟩ := Option.map_eq_some_iff.1 h
    have := ih hq
    simp only [List.length_cons]
    omega

/-- Digits are taken, and at least one. -/
theorem digits?_length {cs : List Char} {r : List Char × List Char} (h : digits? cs = some r) :
    r.2.length < cs.length := by
  have hsplit := congrArg List.length
    (List.takeWhile_append_dropWhile (p := Char.isDigit) (l := cs))
  unfold digits? at h
  split at h
  · cases h
  · rename_i hne
    cases h
    have := List.length_pos_iff.2 hne
    simp only [List.length_append] at hsplit
    simp only
    omega

/-- The digits before the point are at least one. -/
theorem whole?_length {cs : List Char} {r : List Char × List Char} (h : whole? cs = some r) :
    r.2.length < cs.length := by
  unfold whole? at h
  split at h
  · cases h; simp
  · exact digits?_length h

/-- There may be no digits after the point. -/
theorem fraction?_length {cs : List Char} {r : List Char × List Char}
    (h : fraction? cs = some r) : r.2.length ≤ cs.length := by
  unfold fraction? at h
  split at h
  · have := digits?_length h
    simp only [List.length_cons]
    omega
  · cases h; simp

/-- There may be no exponent. -/
theorem exponent?_length {cs : List Char} {r : Option (Bool × List Char) × List Char}
    (h : exponent? cs = some r) : r.2.length ≤ cs.length := by
  unfold exponent? at h
  split at h
  · rename_i c rest
    split at h
    · split at h <;>
      · obtain ⟨q, hq, rfl⟩ := Option.map_eq_some_iff.1 h
        have := digits?_length hq
        simp only [List.length_cons]
        omega
    · cases h; simp
  · cases h; simp

/-- A number takes at least its first digit. -/
theorem unsigned?_length {negative : Bool} {cs : List Char} {r : Number × List Char}
    (h : unsigned? negative cs = some r) : r.2.length < cs.length := by
  simp only [unsigned?, Option.bind_eq_bind, Option.bind_eq_some_iff, Option.pure_def,
    Option.some.injEq] at h
  obtain ⟨w, hw, f, hf, e, he, rfl⟩ := h
  have := whole?_length hw
  have := fraction?_length hf
  have := exponent?_length he
  simp only
  omega

/-- With its sign it takes no less. -/
theorem number?_length {cs : List Char} {r : Number × List Char} (h : number? cs = some r) :
    r.2.length < cs.length := by
  unfold number? at h
  split at h
  · have := unsigned?_length h
    simp only [List.length_cons]
    omega
  · exact unsigned?_length h

/-- Every token takes at least one character, so cutting comes to an end. -/
theorem readToken?_length {cs : List Char} {r : Token × List Char} (h : readToken? cs = some r) :
    r.2.length < cs.length := by
  unfold readToken? at h
  split at h
  case h_7 =>
    obtain ⟨q, hq, rfl⟩ := Option.map_eq_some_iff.1 h
    have := pieces?_length hq
    simp only [List.length_cons]
    omega
  case h_11 =>
    obtain ⟨q, hq, rfl⟩ := Option.map_eq_some_iff.1 h
    exact number?_length hq
  all_goals
    cases h
    simp only [List.length_cons]
    omega

theorem length_dropWhile_le (p : Char → Bool) (cs : List Char) :
    (cs.dropWhile p).length ≤ cs.length := (List.dropWhile_sublist p).length_le

/-- Cuts a text into tokens, leaving out the blanks between them. -/
def tokens? (cs : List Char) : Option (List Token) :=
  match _hs : cs.dropWhile isBlank with
  | [] => some []
  | c :: rest =>
    match _hr : readToken? (c :: rest) with
    | none => none
    | some (t, left) => (tokens? left).map (t :: ·)
termination_by cs.length
decreasing_by
  have h1 := readToken?_length _hr
  have h2 := length_dropWhile_le isBlank cs
  rw [_hs] at h2
  simp only at h1
  omega

end GuiTest.Json
