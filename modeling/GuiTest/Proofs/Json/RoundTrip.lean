import GuiTest.Json.Reader
import GuiTest.Proofs.Json.Token

/-!
# What is written is read back

Between a value and its text stand its tokens (`Value.tokens`). Both forms of a text are cut into
them, whatever blanks are between (`lexes_compactChars`, `lexes_prettyChars`), and the reader puts
the value together from them (`feed_tokens`). So a value is read back from each of its texts
(`parse?_write`), if its numbers are written as natural numbers, which are all that is ever written.
The text without blanks is then a single line (`newline_not_mem_compact`).
-/

namespace GuiTest.Json

/-! ## Cutting into tokens -/

/-- Cutting passes over the blanks, reads one token and goes on after it. -/
theorem tokens?_eq (cs : List Char) :
    tokens? cs = match cs.dropWhile isBlank with
      | [] => some []
      | c :: rest =>
        match readToken? (c :: rest) with
        | none => none
        | some (t, left) => (tokens? left).map (t :: ·) := by
  rw [tokens?]
  split
  next h => rw [h]
  next h =>
    rw [h]
    dsimp only
    split
    next hr => rw [hr]
    next hr => rw [hr]

/-- A blank before a token makes no difference. -/
theorem tokens?_blank {c : Char} (hc : isBlank c = true) (cs : List Char) :
    tokens? (c :: cs) = tokens? cs := by
  rw [tokens?_eq, tokens?_eq cs, List.dropWhile_cons_of_pos hc]

/-- Nor do several blanks. -/
theorem tokens?_blanks {blanks : List Char} (h : ∀ c ∈ blanks, isBlank c = true)
    (tail : List Char) : tokens? (blanks ++ tail) = tokens? tail := by
  induction blanks with
  | nil => rfl
  | cons c blanks ih =>
    obtain ⟨hc, hblanks⟩ := List.forall_mem_cons.mp h
    rw [List.cons_append, tokens?_blank hc, ih hblanks]

/-- A token that is read where no blank stands is the first one. -/
theorem tokens?_of_readToken? {c : Char} {rest left : List Char} {t : Token}
    (hc : isBlank c = false) (h : readToken? (c :: rest) = some (t, left)) :
    tokens? (c :: rest) = (tokens? left).map (t :: ·) := by
  rw [tokens?_eq, List.dropWhile_cons_of_neg (by rw [hc]; exact Bool.false_ne_true)]
  dsimp only
  rw [h]

/-- Characters are cut into tokens, whatever comes after them that may come there. -/
def Lexes (next : List Char → Prop) (cs : List Char) (ts : List Token) : Prop :=
  ∀ tail, next tail → tokens? (cs ++ tail) = (tokens? tail).map (ts ++ ·)

/-- Anything may come next. -/
def Anything (_ : List Char) : Prop := True

namespace Lexes

variable {next next' : List Char → Prop} {cs ds : List Char} {ts us : List Token}

theorem nil : Lexes next [] [] := by
  intro tail _
  cases h : tokens? tail <;> simp [h]

/-- Texts of tokens one after the other are cut into the tokens of both, if the second may come
after the first. -/
theorem append (hcs : Lexes next cs ts) (hds : Lexes next' ds us)
    (hnext : ∀ tail, next' tail → next (ds ++ tail)) : Lexes next' (cs ++ ds) (ts ++ us) := by
  intro tail htail
  rw [List.append_assoc, hcs _ (hnext tail htail), hds tail htail, Option.map_map]
  refine congrArg (Option.map · (tokens? tail)) (funext fun rest => ?_)
  exact (List.append_assoc ts us rest).symm

/-- What may be followed by anything can stand before all. -/
theorem before (hcs : Lexes Anything cs ts) (hds : Lexes next ds us) :
    Lexes next (cs ++ ds) (ts ++ us) := hcs.append hds fun _ _ => trivial

/-- What is skipped adds no tokens. -/
theorem skip (hcs : Lexes next cs ts) (hds : Lexes next' ds [])
    (hnext : ∀ tail, next' tail → next (ds ++ tail)) : Lexes next' (cs ++ ds) ts := by
  have h := hcs.append hds hnext
  rw [List.append_nil] at h
  exact h

/-- What is read as one token, whatever may come next, is cut into it. -/
theorem token {c : Char} {rest : List Char} {t : Token} (hc : isBlank c = false)
    (h : ∀ tail, next tail → readToken? (c :: (rest ++ tail)) = some (t, tail)) :
    Lexes next (c :: rest) [t] := by
  intro tail htail
  exact tokens?_of_readToken? hc (h tail htail)

/-- Blanks are cut into no tokens. -/
theorem blanks (hcs : ∀ c ∈ cs, isBlank c = true) : Lexes next cs [] := by
  intro tail _
  rw [tokens?_blanks hcs]
  cases tokens? tail <;> rfl

end Lexes

section Tokens

variable {next : List Char → Prop}

theorem lexes_openArray : Lexes next ['['] [.openArray] := .token rfl fun _ _ => rfl

theorem lexes_closeArray : Lexes next [']'] [.closeArray] := .token rfl fun _ _ => rfl

theorem lexes_openObject : Lexes next ['{'] [.openObject] := .token rfl fun _ _ => rfl

theorem lexes_closeObject : Lexes next ['}'] [.closeObject] := .token rfl fun _ _ => rfl

theorem lexes_comma : Lexes next [','] [.comma] := .token rfl fun _ _ => rfl

theorem lexes_colon : Lexes next [':'] [.colon] := .token rfl fun _ _ => rfl

theorem lexes_null : Lexes next ['n', 'u', 'l', 'l'] [.literal .null] := .token rfl fun _ _ => rfl

theorem lexes_true : Lexes next ['t', 'r', 'u', 'e'] [.literal (.bool true)] :=
  .token rfl fun _ _ => rfl

theorem lexes_false : Lexes next ['f', 'a', 'l', 's', 'e'] [.literal (.bool false)] :=
  .token rfl fun _ _ => rfl

/-- A string is written as the token that it is read as. -/
theorem lexes_stringLiteral (text : Option String) :
    Lexes next (stringLiteral text) [.string text] := by
  intro tail _
  have hread := readToken?_stringLiteral text tail
  cases text with
  | none => exact tokens?_of_readToken? rfl hread
  | some s => exact tokens?_of_readToken? rfl hread

end Tokens

/-- A number does not begin with a blank. -/
theorem isBlank_of_isDigit {c : Char} (h : c.isDigit = true) : isBlank c = false := by
  have hne {d : Char} (hd : d.isDigit = false) : (c == d) = false := by
    rw [beq_eq_false_iff_ne]
    intro heq
    rw [heq, hd] at h
    cases h
  rw [isBlank, hne (by decide), hne (by decide), hne (by decide), hne (by decide)]
  rfl

/-- A natural number is written as the token that it is read as, if it stops there. -/
theorem lexes_ofNat (n : Nat) :
    Lexes Stops (Number.ofNat n).literal [.literal (.number (.ofNat n))] := by
  intro tail htail
  have hread := readToken?_ofNat n htail
  rw [literal_ofNat] at hread ⊢
  cases hdigits : Nat.toDigits 10 n with
  | nil => exact absurd hdigits Nat.toDigits_ne_nil
  | cons c digits =>
    have hc : c.isDigit = true := isDigit_of_mem_toDigits c (by rw [hdigits]; simp)
    rw [hdigits] at hread
    exact tokens?_of_readToken? (isBlank_of_isDigit hc) hread

/-! ## The tokens of a value -/

namespace Value

mutual

/-- The numbers in a value are literals of natural numbers. -/
def Natural : Value → Prop
  | .number n => ∃ k, n = .ofNat k
  | .array items => AllNatural items
  | .object members => MembersNatural members
  | _ => True

/-- So they are in all items. -/
def AllNatural : List Value → Prop
  | [] => True
  | v :: rest => Natural v ∧ AllNatural rest

/-- So they are in all members. -/
def MembersNatural : List (Option String × Value) → Prop
  | [] => True
  | (_, v) :: rest => Natural v ∧ MembersNatural rest

end

mutual

/-- The tokens of a value. -/
def tokens : Value → List Token
  | .string text => [.string text]
  | .array items => .openArray :: itemTokens items ++ [.closeArray]
  | .object members => .openObject :: memberTokens members ++ [.closeObject]
  | v => [.literal v]

/-- The tokens of the items of an array. -/
def itemTokens : List Value → List Token
  | [] => []
  | v :: rest => tokens v ++ moreItems rest

/-- The tokens of the members of an object. -/
def memberTokens : List (Option String × Value) → List Token
  | [] => []
  | (name, v) :: rest => .string name :: .colon :: tokens v ++ moreMembers rest

/-- The tokens of the items after the first. -/
def moreItems : List Value → List Token
  | [] => []
  | v :: rest => .comma :: tokens v ++ moreItems rest

/-- The tokens of the members after the first. -/
def moreMembers : List (Option String × Value) → List Token
  | [] => []
  | (name, v) :: rest => .comma :: .string name :: .colon :: tokens v ++ moreMembers rest

end

end Value

/-- Any number that is written is a natural number. -/
theorem lexes_number {n : Number} (h : (Value.number n).Natural) :
    Lexes Stops n.literal [.literal (.number n)] := by
  obtain ⟨k, hk⟩ := h
  rw [hk]
  exact lexes_ofNat k

/-- A number stops before what belongs to no number. -/
theorem stops_cons {c : Char} (tail : List Char)
    (hc : c.isDigit = false ∧ c ≠ '.' ∧ c ≠ 'e' ∧ c ≠ 'E') : Stops (c :: tail) := by
  intro d hd
  cases hd
  exact hc

theorem stops_nil : Stops [] := by
  intro c hc
  cases hc

/-! ## Texts without blanks -/

section Compact

open Value

mutual

theorem lexes_compactChars : ∀ v : Value, v.Natural → Lexes Stops v.compactChars v.tokens
  | .null, _ => lexes_null
  | .bool true, _ => lexes_true
  | .bool false, _ => lexes_false
  | .number _, h => lexes_number h
  | .string text, _ => lexes_stringLiteral text
  | .array items, h => by
    rw [compactChars, tokens]
    exact (lexes_openArray.before (lexes_compactItems items h)).append lexes_closeArray
      fun tail _ => stops_cons tail (by decide)
  | .object members, h => by
    rw [compactChars, tokens]
    exact (lexes_openObject.before (lexes_compactMembers members h)).append lexes_closeObject
      fun tail _ => stops_cons tail (by decide)

/-- Items between commas are cut into their tokens. -/
theorem lexes_compactItems : ∀ items : List Value, AllNatural items →
    Lexes Stops (compactItems items) (itemTokens items)
  | [], _ => .nil
  | [v], h => by
    rw [compactItems, itemTokens, moreItems, List.append_nil]
    exact lexes_compactChars v h.1
  | v :: w :: rest, h => by
    exact (lexes_compactChars v h.1).append
      (lexes_comma.before (lexes_compactItems (w :: rest) h.2))
      fun tail _ => stops_cons _ (by decide)

/-- Members between commas are cut into their names, colons and values. -/
theorem lexes_compactMembers : ∀ members : List (Option String × Value), MembersNatural members →
    Lexes Stops (compactMembers members) (memberTokens members)
  | [], _ => .nil
  | [(name, v)], h => by
    rw [compactMembers, memberTokens, moreMembers, List.append_nil]
    exact (lexes_stringLiteral name).before (lexes_colon.before (lexes_compactChars v h.1))
  | (name, v) :: w :: rest, h => by
    exact ((lexes_stringLiteral name).before (lexes_colon.before
      (lexes_compactChars v h.1))).append
      (lexes_comma.before (lexes_compactMembers (w :: rest) h.2))
      fun tail _ => stops_cons _ (by decide)

end

end Compact

/-! ## Texts with one item a line -/

section Pretty

open Value

/-- The line end and the indentation between items are blanks. -/
theorem lexes_newLine {next : List Char → Prop} (level : Nat) : Lexes next (newLine level) [] := by
  refine .blanks fun c hc => ?_
  rcases List.mem_cons.mp hc with h | h
  · rw [h]
    rfl
  · rw [List.eq_of_mem_replicate h]
    rfl

theorem stops_newLine (level : Nat) (tail : List Char) : Stops (newLine level ++ tail) :=
  stops_cons _ (by decide)

theorem lexes_colonBlank {next : List Char → Prop} : Lexes next [':', ' '] [.colon] :=
  lexes_colon.before (.blanks fun c hc => by rw [List.mem_singleton.mp hc]; rfl)

/-- A number stops before the items that come next, or before what follows the last. -/
theorem stops_prettyItems {tail : List Char} (h : Stops tail) (level : Nat) (rest : List Value) :
    Stops (prettyItems level rest ++ tail) := by
  cases rest with
  | nil => exact h
  | cons v rest => exact stops_cons _ (by decide)

/-- The same before members. -/
theorem stops_prettyMembers {tail : List Char} (h : Stops tail) (level : Nat)
    (rest : List (Option String × Value)) : Stops (prettyMembers level rest ++ tail) := by
  cases rest with
  | nil => exact h
  | cons v rest => exact stops_cons _ (by decide)

mutual

theorem lexes_prettyChars (level : Nat) : ∀ v : Value, v.Natural →
    Lexes Stops (v.prettyChars level) v.tokens
  | .null, _ => lexes_null
  | .bool true, _ => lexes_true
  | .bool false, _ => lexes_false
  | .number _, h => lexes_number h
  | .string text, _ => lexes_stringLiteral text
  | .array [], _ => lexes_openArray.before lexes_closeArray
  | .array (v :: rest), h => by
    rw [prettyChars]
    -- The first item, the others, and the bracket on a line of its own.
    have hfirst := (lexes_openArray.before (lexes_newLine (level + 1))).before
      (lexes_prettyChars (level + 1) v h.1)
    have hitems := hfirst.append (lexes_prettyItems (level + 1) rest h.2)
      fun tail htail => stops_prettyItems htail (level + 1) rest
    exact (hitems.skip (lexes_newLine level) fun tail _ => stops_newLine level tail).before
      lexes_closeArray
  | .object [], _ => lexes_openObject.before lexes_closeObject
  | .object ((name, v) :: rest), h => by
    rw [prettyChars]
    have hfirst := (((lexes_openObject.before (lexes_newLine (level + 1))).before
      (lexes_stringLiteral name)).before lexes_colonBlank).before
      (lexes_prettyChars (level + 1) v h.1)
    have hmembers := hfirst.append (lexes_prettyMembers (level + 1) rest h.2)
      fun tail htail => stops_prettyMembers htail (level + 1) rest
    exact (hmembers.skip (lexes_newLine level) fun tail _ => stops_newLine level tail).before
      lexes_closeObject

/-- Items on lines of their own are cut into their tokens. -/
theorem lexes_prettyItems (level : Nat) : ∀ rest : List Value, AllNatural rest →
    Lexes Stops (prettyItems level rest) (moreItems rest)
  | [], _ => .nil
  | v :: rest, h => by
    rw [prettyItems, moreItems]
    have hfirst := (lexes_comma.before (lexes_newLine level)).before
      (lexes_prettyChars level v h.1)
    exact hfirst.append (lexes_prettyItems level rest h.2)
      fun tail htail => stops_prettyItems htail level rest

/-- So are members. -/
theorem lexes_prettyMembers (level : Nat) : ∀ rest : List (Option String × Value),
    MembersNatural rest → Lexes Stops (prettyMembers level rest) (moreMembers rest)
  | [], _ => .nil
  | (name, v) :: rest, h => by
    rw [prettyMembers, moreMembers]
    have hfirst := (((lexes_comma.before (lexes_newLine level)).before
      (lexes_stringLiteral name)).before lexes_colonBlank).before (lexes_prettyChars level v h.1)
    exact hfirst.append (lexes_prettyMembers level rest h.2)
      fun tail htail => stops_prettyMembers htail level rest

end

end Pretty

/-! ## Putting a value together from its tokens -/

namespace Progress

open Value

theorem feed_singleton (p : Progress) (t : Token) : p.feed [t] = p.step t := by
  rw [feed]
  cases p.step t <;> rfl

/-- No value begins with the end of an array, so the first item is read as any other. -/
theorem feed_firstItem (v : Value) (containers : List Open) (ts : List Token) :
    feed ⟨containers, .firstItem⟩ (v.tokens ++ ts)
      = feed ⟨containers, .value⟩ (v.tokens ++ ts) := by
  cases v <;> rfl

mutual

/-- **The tokens of a value complete it**, wherever a value may come. -/
theorem feed_tokens : ∀ (v : Value) (containers : List Open),
    feed ⟨containers, .value⟩ v.tokens = complete v containers
  | .null, _ => feed_singleton ..
  | .bool _, _ => feed_singleton ..
  | .number _, _ => feed_singleton ..
  | .string _, _ => feed_singleton ..
  | .array items, containers => feed_itemTokens items containers
  | .object members, containers => feed_memberTokens members containers

/-- The tokens of items, up to the bracket, complete the array. -/
theorem feed_itemTokens : ∀ (items : List Value) (containers : List Open),
    feed ⟨.items [] :: containers, .firstItem⟩ (itemTokens items ++ [.closeArray])
      = complete (.array items) containers
  | [], _ => feed_singleton ..
  | v :: rest, containers => by
    rw [itemTokens, List.append_assoc, feed_firstItem, feed_append, feed_tokens v]
    exact feed_moreItems rest [v] containers

/-- The same from the second item on, with those before it in reverse. -/
theorem feed_moreItems : ∀ (rest before : List Value) (containers : List Open),
    feed ⟨.items before :: containers, .separator⟩ (moreItems rest ++ [.closeArray])
      = complete (.array (before.reverse ++ rest)) containers
  | [], before, containers => by
    rw [List.append_nil]
    exact feed_singleton ..
  | v :: rest, before, containers => by
    -- After the comma the item is read; it then stands before those that are still to come.
    show feed ⟨.items before :: containers, .value⟩
      (v.tokens ++ moreItems rest ++ [.closeArray]) = _
    rw [List.append_assoc, feed_append, feed_tokens v]
    have hrest := feed_moreItems rest (v :: before) containers
    rw [List.reverse_cons, List.append_assoc] at hrest
    exact hrest

/-- The tokens of members, up to the brace, complete the object. -/
theorem feed_memberTokens : ∀ (members : List (Option String × Value)) (containers : List Open),
    feed ⟨.members [] :: containers, .firstName⟩ (memberTokens members ++ [.closeObject])
      = complete (.object members) containers
  | [], _ => feed_singleton ..
  | (name, v) :: rest, containers => by
    show feed ⟨.member [] name :: containers, .value⟩
      (v.tokens ++ moreMembers rest ++ [.closeObject]) = _
    rw [List.append_assoc, feed_append, feed_tokens v]
    exact feed_moreMembers rest [(name, v)] containers

/-- The same from the second member on. -/
theorem feed_moreMembers : ∀ (rest before : List (Option String × Value))
    (containers : List Open),
    feed ⟨.members before :: containers, .separator⟩ (moreMembers rest ++ [.closeObject])
      = complete (.object (before.reverse ++ rest)) containers
  | [], before, containers => by
    rw [List.append_nil]
    exact feed_singleton ..
  | (name, v) :: rest, before, containers => by
    show feed ⟨.member before name :: containers, .value⟩
      (v.tokens ++ moreMembers rest ++ [.closeObject]) = _
    rw [List.append_assoc, feed_append, feed_tokens v]
    have hrest := feed_moreMembers rest ((name, v) :: before) containers
    rw [List.reverse_cons, List.append_assoc] at hrest
    exact hrest

end

end Progress

/-! ## Texts -/

namespace Value

/-- A text that is cut into the tokens of a value is read as that value. -/
theorem parse?_of_lexes {v : Value} {cs : List Char} (h : Lexes Stops cs v.tokens) :
    parse? (String.ofList cs) = some v := by
  have htokens := h [] stops_nil
  rw [List.append_nil] at htokens
  have hend : tokens? [] = some [] := tokens?_eq []
  rw [parse?, String.toList_ofList, htokens, hend, Option.map_some, List.append_nil]
  show (Progress.start.feed v.tokens).bind Progress.result? = _
  rw [Progress.start, Progress.feed_tokens]
  rfl

/-- How a text is laid out: without blanks, or with one item a line. -/
inductive Layout where
  | compact
  | pretty

/-- The text of a value. -/
def write : Layout → Value → String
  | .compact, v => v.compact
  | .pretty, v => v.pretty

/-- **A value is read back from its texts.** -/
theorem parse?_write (layout : Layout) {v : Value} (hv : v.Natural) :
    parse? (v.write layout) = some v := by
  cases layout with
  | compact => exact parse?_of_lexes (lexes_compactChars v hv)
  | pretty => exact parse?_of_lexes (lexes_prettyChars 0 v hv)

end Value

/-! ## A text without blanks is one line -/

/-- A line feed is escaped. -/
theorem newline_not_mem_escapeChar (c : Char) : '\n' ∉ escapeChar c := by
  rcases escapeChar_cases c with ⟨e, hescape, -, he⟩ | ⟨hescape, hlt⟩ | ⟨hescape, -, hplain⟩
  · have hne : '\n' ≠ e := by
      rintro rfl
      cases he
    rw [hescape]
    simp [hne]
  · have hdigits : ∀ n < 0x20, '\n' ∉ hexByte n := by decide
    rw [hescape]
    simp [hdigits _ hlt]
  · have hne : '\n' ≠ c := by
      rintro rfl
      exact hplain (Or.inl (by decide))
    rw [hescape]
    simp [hne]

/-- So a string keeps to its line, quotes and all. -/
theorem newline_not_mem_stringLiteral (text : Option String) : '\n' ∉ stringLiteral text := by
  cases text with
  | none => decide
  | some s => simp [stringLiteral, newline_not_mem_escapeChar]

/-- Digits are no line feeds. -/
theorem newline_not_mem_ofNat (n : Nat) : '\n' ∉ (Number.ofNat n).literal := by
  rw [literal_ofNat]
  intro h
  have hdigit := isDigit_of_mem_toDigits _ h
  revert hdigit
  decide

namespace Value

mutual

theorem newline_not_mem_compactChars : ∀ v : Value, v.Natural → '\n' ∉ v.compactChars
  | .null, _ => by decide
  | .bool true, _ => by decide
  | .bool false, _ => by decide
  | .number _, h => by
    obtain ⟨k, rfl⟩ := h
    exact newline_not_mem_ofNat k
  | .string text, _ => newline_not_mem_stringLiteral text
  | .array items, h => by
    have hitems := newline_not_mem_compactItems items h
    simp [compactChars, hitems]
  | .object members, h => by
    have hmembers := newline_not_mem_compactMembers members h
    simp [compactChars, hmembers]

theorem newline_not_mem_compactItems : ∀ items : List Value, AllNatural items →
    '\n' ∉ compactItems items
  | [], _ => by decide
  | [v], h => newline_not_mem_compactChars v h.1
  | v :: w :: rest, h => by
    have hfirst := newline_not_mem_compactChars v h.1
    have hrest := newline_not_mem_compactItems (w :: rest) h.2
    simp [compactItems, hfirst, hrest]

theorem newline_not_mem_compactMembers : ∀ members : List (Option String × Value),
    MembersNatural members → '\n' ∉ compactMembers members
  | [], _ => by decide
  | [(name, v)], h => by
    have hname := newline_not_mem_stringLiteral name
    have hfirst := newline_not_mem_compactChars v h.1
    simp [compactMembers, hname, hfirst]
  | (name, v) :: w :: rest, h => by
    have hname := newline_not_mem_stringLiteral name
    have hfirst := newline_not_mem_compactChars v h.1
    have hrest := newline_not_mem_compactMembers (w :: rest) h.2
    simp [compactMembers, hname, hfirst, hrest]

end

/-- **A text without blanks is one line**, whatever the strings in it hold. -/
theorem newline_not_mem_compact {v : Value} (hv : v.Natural) : '\n' ∉ v.compact.toList := by
  rw [compact, String.toList_ofList]
  exact newline_not_mem_compactChars v hv

end Value

end GuiTest.Json
