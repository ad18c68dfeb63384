import GuiTest.Proofs.Json.RoundTrip
import Mathlib.Data.List.Chain
import Mathlib.Data.List.TakeWhile

/-!
# How tokens are spelled

The rules of JSON for a single token (`Spells`) and for tokens with blanks before, between and after
them (`SpellsAll`). What a text is cut into is spelled by it (`spellsAll_of_tokens?`). A text is cut
into the tokens that it spells, if no two numbers stand next to each other, which could be read as
one (`tokens?_of_spellsAll`). The digits of a natural number are those with which it is written
(`SpellsNumber.eq_ofNat`).
-/

namespace GuiTest.Json

/-! ## The rules -/

/-- One or more digits. -/
def IsDigits (cs : List Char) : Prop := cs ≠ [] ∧ ∀ c ∈ cs, c.isDigit = true

/-- Digits that do not begin with a zero, unless that is all there is. -/
def IsWhole (cs : List Char) : Prop := IsDigits cs ∧ (cs.head? = some '0' → cs = ['0'])

/-- The digits after the point, and how they are written with it. -/
inductive SpellsFraction : List Char → List Char → Prop where
  | none : SpellsFraction [] []
  | digits {cs : List Char} : IsDigits cs → SpellsFraction cs ('.' :: cs)

/-- A power of ten, and how it is written. -/
inductive SpellsExponent : Option (Bool × List Char) → List Char → Prop where
  | none : SpellsExponent none []
  | minus {e : Char} {cs : List Char} : e = 'e' ∨ e = 'E' → IsDigits cs →
    SpellsExponent (some (true, cs)) (e :: '-' :: cs)
  | plus {e : Char} {cs : List Char} : e = 'e' ∨ e = 'E' → IsDigits cs →
    SpellsExponent (some (false, cs)) (e :: '+' :: cs)
  | bare {e : Char} {cs : List Char} : e = 'e' ∨ e = 'E' → IsDigits cs →
    SpellsExponent (some (false, cs)) (e :: cs)

/-- A number without its sign, and how it is written. -/
inductive SpellsUnsigned (negative : Bool) : Number → List Char → Prop where
  | parts {whole fraction f e : List Char} {exponent : Option (Bool × List Char)} :
    IsWhole whole → SpellsFraction fraction f → SpellsExponent exponent e →
    SpellsUnsigned negative ⟨negative, whole, fraction, exponent⟩ (whole ++ (f ++ e))

/-- A number, and how it is written. -/
inductive SpellsNumber : Number → List Char → Prop where
  | positive {n : Number} {cs : List Char} : SpellsUnsigned false n cs → SpellsNumber n cs
  | negative {n : Number} {cs : List Char} : SpellsUnsigned true n cs → SpellsNumber n ('-' :: cs)

/-- A part of a string, and how it is written: as it is if it is neither a quote nor a backslash nor
a control character, by a letter, or by a number. -/
inductive SpellsPiece : Piece → List Char → Prop where
  | char {c : Char} : c ≠ '"' → c ≠ '\\' → 0x20 ≤ c.toNat → SpellsPiece (.char c) [c]
  | letter {e c : Char} : escaped? e = some c → SpellsPiece (.char c) ['\\', e]
  | unit {a b c d : Char} {u : Nat} : hex4? a b c d = some u →
    SpellsPiece (.ofUnit u) ['\\', 'u', a, b, c, d]

/-- The parts of a string, one after the other. -/
inductive SpellsPieces : List Piece → List Char → Prop where
  | nil : SpellsPieces [] []
  | cons {p : Piece} {ps : List Piece} {cs ds : List Char} :
    SpellsPiece p cs → SpellsPieces ps ds → SpellsPieces (p :: ps) (cs ++ ds)

/-- A token, and how it is written. -/
inductive Spells : Token → List Char → Prop where
  | openArray : Spells .openArray ['[']
  | closeArray : Spells .closeArray [']']
  | openObject : Spells .openObject ['{']
  | closeObject : Spells .closeObject ['}']
  | comma : Spells .comma [',']
  | colon : Spells .colon [':']
  | string {ps : List Piece} {cs : List Char} : SpellsPieces ps cs →
    Spells (.string ((joinHalves? ps).map String.ofList)) ('"' :: (cs ++ ['"']))
  | literalNull : Spells (.literal .null) ['n', 'u', 'l', 'l']
  | literalTrue : Spells (.literal (.bool true)) ['t', 'r', 'u', 'e']
  | literalFalse : Spells (.literal (.bool false)) ['f', 'a', 'l', 's', 'e']
  | number {n : Number} {cs : List Char} : SpellsNumber n cs → Spells (.literal (.number n)) cs

/-- Nothing but blanks. -/
def AreBlanks (cs : List Char) : Prop := ∀ c ∈ cs, isBlank c = true

/-- Tokens with blanks before, between and after them. -/
inductive SpellsAll : List Token → List Char → Prop where
  | nil {blanks : List Char} : AreBlanks blanks → SpellsAll [] blanks
  | cons {t : Token} {ts : List Token} {blanks cs rest : List Char} :
    AreBlanks blanks → Spells t cs → SpellsAll ts rest →
      SpellsAll (t :: ts) (blanks ++ (cs ++ rest))

/-! ## What is read is spelled -/

/-- What is read as digits is digits. -/
theorem digits?_sound {cs run left : List Char} (h : digits? cs = some (run, left)) :
    IsDigits run ∧ cs = run ++ left := by
  unfold digits? at h
  split at h
  next => cases h
  next hne =>
    cases h
    exact ⟨⟨hne, fun c hc => List.mem_takeWhile_imp hc⟩, List.takeWhile_append_dropWhile.symm⟩

/-- What is read before the point is a whole part. -/
theorem whole?_sound {cs run left : List Char} (h : whole? cs = some (run, left)) :
    IsWhole run ∧ cs = run ++ left := by
  unfold whole? at h
  split at h
  next rest =>
    cases h
    exact ⟨⟨⟨List.cons_ne_nil _ _, List.forall_mem_singleton.mpr rfl⟩, fun _ => rfl⟩, rfl⟩
  next hzero =>
    obtain ⟨hdigits, hsplit⟩ := digits?_sound h
    refine ⟨⟨hdigits, fun hhead => ?_⟩, hsplit⟩
    obtain ⟨rest, rfl⟩ := List.head?_eq_some_iff.mp hhead
    exact absurd hsplit (hzero _)

/-- What is read after it is a fraction. -/
theorem fraction?_sound {cs fraction left : List Char} (h : fraction? cs = some (fraction, left)) :
    ∃ f, SpellsFraction fraction f ∧ cs = f ++ left := by
  unfold fraction? at h
  split at h
  next rest =>
    obtain ⟨hdigits, rfl⟩ := digits?_sound h
    exact ⟨_, .digits hdigits, rfl⟩
  next =>
    cases h
    exact ⟨[], .none, rfl⟩

/-- The digits of a power, with its sign already read. -/
theorem power_sound {minus : Bool} {cs left : List Char} {exponent : Option (Bool × List Char)}
    (h : (digits? cs).map (fun (run, left) => (some (minus, run), left)) = some (exponent, left)) :
    ∃ run, IsDigits run ∧ exponent = some (minus, run) ∧ cs = run ++ left := by
  obtain ⟨⟨run, rest⟩, hrun, heq⟩ := Option.map_eq_some_iff.mp h
  cases heq
  obtain ⟨hdigits, hsplit⟩ := digits?_sound hrun
  exact ⟨run, hdigits, rfl, hsplit⟩

/-- What is read after that is an exponent. -/
theorem exponent?_sound {cs left : List Char} {exponent : Option (Bool × List Char)}
    (h : exponent? cs = some (exponent, left)) :
    ∃ e, SpellsExponent exponent e ∧ cs = e ++ left := by
  unfold exponent? at h
  split at h
  next c rest =>
    split at h
    next hc =>
      split at h
      next rest =>
        obtain ⟨run, hdigits, rfl, rfl⟩ := power_sound h
        exact ⟨_, .minus hc hdigits, rfl⟩
      next rest =>
        obtain ⟨run, hdigits, rfl, rfl⟩ := power_sound h
        exact ⟨_, .plus hc hdigits, rfl⟩
      next =>
        obtain ⟨run, hdigits, rfl, rfl⟩ := power_sound h
        exact ⟨_, .bare hc hdigits, rfl⟩
    next =>
      cases h
      exact ⟨[], .none, rfl⟩
  next =>
    cases h
    exact ⟨[], .none, rfl⟩

/-- Together they are a number without its sign. -/
theorem unsigned?_sound {negative : Bool} {cs left : List Char} {n : Number}
    (h : unsigned? negative cs = some (n, left)) :
    ∃ run, SpellsUnsigned negative n run ∧ cs = run ++ left := by
  simp only [unsigned?, Option.bind_eq_bind, Option.bind_eq_some_iff, Option.pure_def] at h
  obtain ⟨⟨whole, cs₁⟩, hwhole, ⟨fraction, cs₂⟩, hfraction, ⟨exponent, cs₃⟩, hexponent, heq⟩ := h
  cases heq
  obtain ⟨hw, rfl⟩ := whole?_sound hwhole
  obtain ⟨f, hf, rfl⟩ := fraction?_sound hfraction
  obtain ⟨e, he, rfl⟩ := exponent?_sound hexponent
  exact ⟨_, .parts hw hf he, by simp⟩

/-- With it they are a number. -/
theorem number?_sound {cs left : List Char} {n : Number} (h : number? cs = some (n, left)) :
    ∃ run, SpellsNumber n run ∧ cs = run ++ left := by
  unfold number? at h
  split at h
  next rest =>
    obtain ⟨run, hrun, rfl⟩ := unsigned?_sound h
    exact ⟨_, .negative hrun, rfl⟩
  next =>
    obtain ⟨run, hrun, rfl⟩ := unsigned?_sound h
    exact ⟨run, .positive hrun, rfl⟩

/-- If the rest of a string is spelled, so is the string with one more part. -/
theorem SpellsPiece.before {p : Piece} {ps : List Piece} {ds rest left : List Char}
    (hp : SpellsPiece p ds)
    (hrest : ∀ {qs}, pieces? rest = some (qs, left) →
      ∃ run, SpellsPieces qs run ∧ rest = run ++ '"' :: left)
    (h : (pieces? rest).map (fun (qs, left) => (p :: qs, left)) = some (ps, left)) :
    ∃ run, SpellsPieces ps run ∧ ds ++ rest = run ++ '"' :: left := by
  obtain ⟨⟨qs, left⟩, hqs, heq⟩ := Option.map_eq_some_iff.mp h
  cases heq
  obtain ⟨run, hrun, rfl⟩ := hrest hqs
  exact ⟨ds ++ run, .cons hp hrun, (List.append_assoc ..).symm⟩

/-- What is read of a string ends with its closing quote. -/
theorem pieces?_sound {cs left : List Char} {ps : List Piece} (h : pieces? cs = some (ps, left)) :
    ∃ run, SpellsPieces ps run ∧ cs = run ++ '"' :: left := by
  fun_induction pieces? cs generalizing ps with
  | case1 => cases h
  | case2 rest =>
    cases h
    exact ⟨[], .nil, rfl⟩
  | case3 => cases h
  | case4 a b c d rest u hu ih => exact SpellsPiece.before (.unit hu) ih h
  | case5 => cases h
  | case6 e rest hne c hc ih => exact SpellsPiece.before (.letter hc) ih h
  | case7 => cases h
  | case8 c rest hquote hunit hletter hplain ih =>
    rw [not_or, Nat.not_lt] at hplain
    exact SpellsPiece.before (.char hquote hplain.2 hplain.1) ih h

/-- **What is read as a token spells it.** -/
theorem readToken?_sound {cs left : List Char} {t : Token} (h : readToken? cs = some (t, left)) :
    ∃ run, Spells t run ∧ cs = run ++ left := by
  unfold readToken? at h
  split at h
  case h_7 =>
    obtain ⟨⟨ps, left⟩, hps, heq⟩ := Option.map_eq_some_iff.mp h
    cases heq
    obtain ⟨run, hrun, rfl⟩ := pieces?_sound hps
    exact ⟨_, .string hrun, by simp⟩
  case h_11 =>
    obtain ⟨⟨n, left⟩, hn, heq⟩ := Option.map_eq_some_iff.mp h
    cases heq
    obtain ⟨run, hrun, rfl⟩ := number?_sound hn
    exact ⟨run, .number hrun, rfl⟩
  all_goals
    cases h
    exact ⟨_, by constructor, rfl⟩

/-- **A text spells what it is cut into.** -/
theorem spellsAll_of_tokens? {cs : List Char} {ts : List Token} (h : tokens? cs = some ts) :
    SpellsAll ts cs := by
  induction hlength : cs.length using Nat.strongRecOn generalizing cs ts with
  | _ length ih =>
    have hblanks : AreBlanks (cs.takeWhile isBlank) := fun c hc => List.mem_takeWhile_imp hc
    have hsplit : cs.takeWhile isBlank ++ cs.dropWhile isBlank = cs :=
      List.takeWhile_append_dropWhile
    rw [tokens?_eq] at h
    rw [← hsplit]
    split at h
    next hdrop =>
      cases h
      rw [hdrop, List.append_nil]
      exact .nil hblanks
    next c rest hdrop =>
      split at h
      next => cases h
      next t left hread =>
        obtain ⟨us, hus, rfl⟩ := Option.map_eq_some_iff.mp h
        have hshorter : left.length < length := by
          have hread : left.length < (c :: rest).length := readToken?_length hread
          have hle := length_dropWhile_le isBlank cs
          rw [hdrop] at hle
          omega
        obtain ⟨run, hrun, hcs⟩ := readToken?_sound hread
        rw [hdrop, hcs]
        exact .cons hblanks hrun (ih _ hshorter hus rfl)

/-! ## What is spelled is read -/

/-- Digits begin with a digit. -/
theorem IsDigits.exists_cons {cs : List Char} (h : IsDigits cs) :
    ∃ c rest, cs = c :: rest ∧ c.isDigit = true := by
  obtain ⟨c, rest, rfl⟩ := List.exists_cons_of_ne_nil h.1
  exact ⟨c, rest, rfl, h.2 c List.mem_cons_self⟩

/-- A whole part is read as it is spelled. -/
theorem IsWhole.whole?_append {cs tail : List Char} (h : IsWhole cs)
    (hstop : ∀ c ∈ tail.head?, c.isDigit = false) : whole? (cs ++ tail) = some (cs, tail) := by
  by_cases hzero : cs.head? = some '0'
  · rw [h.2 hzero]
    rfl
  · obtain ⟨c, rest, rfl, -⟩ := h.1.exists_cons
    rw [whole?, digits?_append h.1.1 h.1.2 hstop]
    intro rest hrest
    exact hzero (congrArg some (List.cons.inj hrest).1)

/-- So is a fraction. -/
theorem SpellsFraction.fraction?_append {fraction f tail : List Char}
    (h : SpellsFraction fraction f)
    (hstop : ∀ c ∈ tail.head?, c.isDigit = false ∧ c ≠ '.') :
    fraction? (f ++ tail) = some (fraction, tail) := by
  cases h with
  | none =>
    rw [List.nil_append]
    unfold fraction?
    split
    next rest => exact absurd rfl (hstop '.' rfl).2
    next => rfl
  | digits hdigits => exact digits?_append hdigits.1 hdigits.2 fun c hc => (hstop c hc).1

/-- The point after the digits before it is none of them. -/
theorem SpellsFraction.head {fraction f tail : List Char} (h : SpellsFraction fraction f)
    (hstop : ∀ c ∈ tail.head?, c.isDigit = false) :
    ∀ c ∈ (f ++ tail).head?, c.isDigit = false := by
  cases h with
  | none => exact hstop
  | digits =>
    intro c hc
    cases hc
    rfl

/-- So is an exponent. -/
theorem SpellsExponent.exponent?_append {exponent : Option (Bool × List Char)} {e tail : List Char}
    (h : SpellsExponent exponent e) (hstop : Stops tail) :
    exponent? (e ++ tail) = some (exponent, tail) := by
  have hend : ∀ c ∈ tail.head?, c.isDigit = false := fun c hc => (hstop c hc).1
  cases h with
  | none => exact exponent?_of_stops hstop
  | @minus l cs he hdigits =>
    show (if l = 'e' ∨ l = 'E' then (digits? (cs ++ tail)).map _ else _) = _
    rw [if_pos he, digits?_append hdigits.1 hdigits.2 hend]
    rfl
  | @plus l cs he hdigits =>
    show (if l = 'e' ∨ l = 'E' then (digits? (cs ++ tail)).map _ else _) = _
    rw [if_pos he, digits?_append hdigits.1 hdigits.2 hend]
    rfl
  | bare he hdigits =>
    have hread := digits?_append hdigits.1 hdigits.2 hend
    obtain ⟨c, rest, rfl, hc⟩ := hdigits.exists_cons
    rw [List.cons_append] at hread
    unfold exponent?
    dsimp only [List.cons_append]
    rw [if_pos he]
    -- The first digit is no sign.
    split
    next hsign => exact absurd hc (by rw [(List.cons.inj hsign).1]; decide)
    next hsign => exact absurd hc (by rw [(List.cons.inj hsign).1]; decide)
    next =>
      rw [hread]
      rfl

/-- A letter after digits is none of them, and no point. -/
theorem SpellsExponent.head {exponent : Option (Bool × List Char)} {e tail : List Char}
    (h : SpellsExponent exponent e) (hstop : Stops tail) :
    ∀ c ∈ (e ++ tail).head?, c.isDigit = false ∧ c ≠ '.' := by
  have hletter {l : Char} (hl : l = 'e' ∨ l = 'E') : l.isDigit = false ∧ l ≠ '.' := by
    rcases hl with rfl | rfl <;> decide
  cases h with
  | none => exact fun c hc => ⟨(hstop c hc).1, (hstop c hc).2.1⟩
  | minus he | plus he | bare he =>
    intro c hc
    cases hc
    exact hletter he

/-- So are they together. -/
theorem SpellsUnsigned.unsigned?_append {negative : Bool} {n : Number} {cs tail : List Char}
    (h : SpellsUnsigned negative n cs) (hstop : Stops tail) :
    unsigned? negative (cs ++ tail) = some (n, tail) := by
  obtain ⟨hwhole, hfraction, hexponent⟩ := h
  have hafter := hexponent.head hstop
  rw [List.append_assoc, List.append_assoc, unsigned?,
    hwhole.whole?_append (hfraction.head fun c hc => (hafter c hc).1)]
  show (fraction? _).bind _ = _
  rw [hfraction.fraction?_append hafter]
  show (exponent? _).bind _ = _
  rw [hexponent.exponent?_append hstop]
  rfl

/-- A number without its sign begins with a digit. -/
theorem SpellsUnsigned.exists_cons {negative : Bool} {n : Number} {cs : List Char}
    (h : SpellsUnsigned negative n cs) : ∃ c rest, cs = c :: rest ∧ c.isDigit = true := by
  obtain ⟨hwhole, -, -⟩ := h
  obtain ⟨c, rest, rfl, hc⟩ := hwhole.1.exists_cons
  exact ⟨c, _, rfl, hc⟩

/-- A number is read as it is spelled, if nothing of a number comes after it. -/
theorem SpellsNumber.readToken?_append {n : Number} {cs tail : List Char} (h : SpellsNumber n cs)
    (hstop : Stops tail) : readToken? (cs ++ tail) = some (.literal (.number n), tail) := by
  cases h with
  | positive h =>
    have hread := h.unsigned?_append hstop
    obtain ⟨c, rest, rfl, hc⟩ := h.exists_cons
    rw [List.cons_append] at hread ⊢
    rw [readToken?_of_isDigit hc, hread]
    rfl
  | negative h =>
    show (unsigned? true (_ ++ tail)).map _ = _
    rw [h.unsigned?_append hstop]
    rfl

/-- A piece of a string is read as it is spelled. -/
theorem SpellsPiece.pieces?_append {p : Piece} {cs : List Char} (h : SpellsPiece p cs)
    (tail : List Char) :
    pieces? (cs ++ tail) = (pieces? tail).map fun (ps, left) => (p :: ps, left) := by
  cases h with
  | @char c hquote hback hplain =>
    have hc : ¬ (c.toNat < 0x20 ∨ c = '\\') := not_or.mpr ⟨Nat.not_lt.mpr hplain, hback⟩
    rw [List.cons_append, List.nil_append, pieces?, if_neg hc]
    · exact hquote
    · exact fun _ _ _ _ _ h _ => hback h
    · exact fun _ _ h _ => hback h
  | @letter e c hc =>
    rw [List.cons_append, List.cons_append, List.nil_append, pieces?, hc]
    intro _ _ _ _ _ he _
    rw [he] at hc
    cases hc
  | unit hu =>
    show pieces? ('\\' :: 'u' :: _ :: _ :: _ :: _ :: tail) = _
    rw [pieces?, hu]

/-- So are all of them, up to the quote. -/
theorem SpellsPieces.pieces?_append {ps : List Piece} {cs : List Char} (h : SpellsPieces ps cs)
    (tail : List Char) : pieces? (cs ++ '"' :: tail) = some (ps, tail) := by
  induction h with
  | nil => rfl
  | cons hp _ ih => rw [List.append_assoc, hp.pieces?_append, ih]; rfl

namespace Token

/-- Whether a token is neither a bracket nor a separator nor a string. -/
def isLiteral : Token → Bool
  | .literal _ => true
  | _ => false

end Token

/-- **A token is read from its spelling**, if no number can go on after it. -/
theorem Spells.readToken?_append {t : Token} {cs tail : List Char} (h : Spells t cs)
    (hstop : t.isLiteral = true → Stops tail) : readToken? (cs ++ tail) = some (t, tail) := by
  cases h with
  | string h =>
    rw [List.cons_append, List.append_assoc, readToken?]
    show (pieces? (_ ++ '"' :: tail)).map _ = _
    rw [h.pieces?_append]
    rfl
  | number h => exact h.readToken?_append (hstop rfl)
  | _ => rfl

/-- A spelling begins with a character that is no blank, and that no number goes on with unless it
is one of a literal. -/
theorem Spells.exists_cons {t : Token} {cs : List Char} (h : Spells t cs) :
    ∃ c rest, cs = c :: rest ∧ isBlank c = false
      ∧ (t.isLiteral = false → ∀ tail, Stops (c :: tail)) := by
  have hmark {c : Char} (hc : c.isDigit = false ∧ c ≠ '.' ∧ c ≠ 'e' ∧ c ≠ 'E') :
      t.isLiteral = false → ∀ tail, Stops (c :: tail) := fun _ tail => stops_cons tail hc
  cases h with
  | openArray | closeArray | openObject | closeObject | comma | colon | string =>
    exact ⟨_, _, rfl, rfl, hmark (by decide)⟩
  | literalNull | literalTrue | literalFalse => exact ⟨_, _, rfl, rfl, fun h => by cases h⟩
  | number h =>
    cases h with
    | positive h =>
      obtain ⟨c, rest, rfl, hc⟩ := h.exists_cons
      exact ⟨c, rest, rfl, isBlank_of_isDigit hc, fun h => by cases h⟩
    | negative h => exact ⟨'-', _, rfl, rfl, fun h => by cases h⟩

/-- One of two tokens is no literal, so they cannot be read as one. -/
def Apart (t u : Token) : Prop := t.isLiteral = false ∨ u.isLiteral = false

/-- A number stops before blanks. -/
theorem stops_of_areBlanks {blanks tail : List Char} (h : AreBlanks blanks) (htail : Stops tail) :
    Stops (blanks ++ tail) := by
  cases blanks with
  | nil => exact htail
  | cons c blanks =>
    have hc : isBlank c = true := h c List.mem_cons_self
    refine stops_cons _ ?_
    simp only [isBlank, Bool.or_eq_true, beq_iff_eq] at hc
    rcases hc with ((rfl | rfl) | rfl) | rfl <;> decide

/-- And before a token that is no literal. -/
theorem stops_of_spellsAll {ts : List Token} {cs : List Char} (h : SpellsAll ts cs)
    (hnext : ∀ t ∈ ts.head?, t.isLiteral = false) : Stops cs := by
  cases h with
  | nil hblanks =>
    have hstops := stops_of_areBlanks hblanks stops_nil
    rwa [List.append_nil] at hstops
  | cons hblanks ht =>
    obtain ⟨c, rest, rfl, -, hc⟩ := ht.exists_cons
    exact stops_of_areBlanks hblanks (hc (hnext _ rfl) _)

/-- **A text is cut into the tokens that it spells.** -/
theorem tokens?_of_spellsAll {ts : List Token} {cs : List Char} (h : SpellsAll ts cs)
    (hapart : ts.IsChain Apart) : tokens? cs = some ts := by
  induction h with
  | @nil blanks hblanks =>
    have hskip := tokens?_blanks hblanks []
    rw [List.append_nil] at hskip
    rw [hskip, tokens?_eq]
    rfl
  | @cons t ts blanks cs rest hblanks ht hrest ih =>
    obtain ⟨hnext, hothers⟩ := List.isChain_cons.mp hapart
    have hstop : t.isLiteral = true → Stops rest := fun hliteral =>
      stops_of_spellsAll hrest fun u hu => (hnext u hu).resolve_left (by rw [hliteral]; decide)
    have hread := ht.readToken?_append hstop
    obtain ⟨c, run, rfl, hc, -⟩ := ht.exists_cons
    rw [tokens?_blanks hblanks, List.cons_append] at *
    rw [tokens?_of_readToken? hc hread, ih hothers]
    rfl

/-! ## Natural numbers have one spelling -/

/-- One digit more is ten times the number and the digit. -/
theorem ofDigits_append (digits : List Char) (c : Char) :
    Number.ofDigits (digits ++ [c]) = Number.ofDigits digits * 10 + Number.digitValue c :=
  List.foldl_concat ..

/-- A digit is the one that its number is written with. -/
theorem digitChar_digitValue {c : Char} (hc : c.isDigit = true) :
    Number.digitValue c < 10 ∧ Nat.digitChar (Number.digitValue c) = c := by
  simp only [Char.isDigit, Bool.and_eq_true, decide_eq_true_eq] at hc
  have hlow : 48 ≤ c.toNat := UInt32.le_iff_toNat_le.mp hc.1
  have hhigh : c.toNat ≤ 57 := UInt32.le_iff_toNat_le.mp hc.2
  have hall : ∀ n < 10, Nat.digitChar n = Char.ofNat (n + 48) := by decide
  have hvalue : Number.digitValue c = c.toNat - 48 := rfl
  refine ⟨by omega, ?_⟩
  rw [hvalue, hall _ (by omega), Nat.sub_add_cancel hlow, Char.ofNat_toNat]

/-- Digits without a leading zero are those with which their number is written. -/
theorem toDigits_ofDigits {digits : List Char} (hdigits : IsDigits digits)
    (hhead : digits.head? ≠ some '0') :
    0 < Number.ofDigits digits ∧ Nat.toDigits 10 (Number.ofDigits digits) = digits := by
  obtain ⟨hne, hall⟩ := hdigits
  induction digits using List.reverseRecOn with
  | nil => exact absurd rfl hne
  | append_singleton digits c ih =>
    obtain ⟨hvalue, hchar⟩ := digitChar_digitValue (hall c (by simp))
    rw [ofDigits_append]
    -- What stands before the last digit is empty, or a number that does not begin with zero.
    by_cases hnil : digits = []
    · subst hnil
      have hzero : Number.ofDigits [] * 10 + Number.digitValue c = Number.digitValue c :=
        Nat.zero_add _
      have hpos : Number.digitValue c ≠ 0 := by
        intro h
        rw [h] at hchar
        rw [← hchar] at hhead
        exact hhead rfl
      rw [hzero, Nat.toDigits_of_lt_base hvalue, hchar]
      exact ⟨Nat.pos_of_ne_zero hpos, rfl⟩
    · rw [List.head?_append_of_ne_nil _ hnil] at hhead
      obtain ⟨hpos, hbefore⟩ := ih hhead hnil fun d hd => hall d (by simp [hd])
      have happend := Nat.toDigits_append_toDigits (b := 10) (by decide) hpos hvalue
      rw [hbefore, Nat.toDigits_of_lt_base hvalue, hchar, Nat.mul_comm] at happend
      exact ⟨by omega, happend.symm⟩

/-- **A number of a text that denotes a natural number is its literal.** -/
theorem SpellsNumber.eq_ofNat {n : Number} {cs : List Char} {k : Nat} (h : SpellsNumber n cs)
    (hk : n.toNat? = some k) : n = .ofNat k := by
  have hwhole : IsWhole n.whole := by
    cases h with
    | positive h | negative h =>
      obtain ⟨hwhole, -, -⟩ := h
      exact hwhole
  unfold Number.toNat? at hk
  split at hk
  next whole =>
    cases hk
    by_cases hzero : whole.head? = some '0'
    · obtain rfl : whole = ['0'] := hwhole.2 hzero
      rfl
    · rw [Number.ofNat, (toDigits_ofDigits hwhole.1 hzero).2]
  next => cases hk

end GuiTest.Json
