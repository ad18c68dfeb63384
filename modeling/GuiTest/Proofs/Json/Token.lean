import GuiTest.Json.Printer
import GuiTest.Json.Token
import Mathlib.Data.List.Basic

/-!
# Literals are read as they were written

A string literal is read as the string that it was written for: to escape a character is undone when
its part of the literal is read (`pieces?_escapeChar`). The literal of a natural number is read up
to the end of its digits, if what follows cannot continue a number (`readToken?_ofNat`), and it
denotes that number (`toNat?_ofNat`).
-/

namespace GuiTest.Json

/-! ## Strings -/

/-- The four digits of an escaped control character give its number. -/
theorem hex4?_hexByte :
    ∀ n < 0x20, hex4? '0' '0' (Nat.digitChar (n / 16 % 16)) (Nat.digitChar (n % 16)) = some n := by
  decide

/-- Control characters are no halves of pairs. -/
theorem ofUnit_of_lt {n : Nat} (h : n < 0x20) : Piece.ofUnit n = .char (Char.ofNat n) := by
  have hhigh : isHigh n = false := by
    rw [isHigh, Bool.and_eq_false_iff]
    exact Or.inl (decide_eq_false (by omega))
  have hlow : isLow n = false := by
    rw [isLow, Bool.and_eq_false_iff]
    exact Or.inl (decide_eq_false (by omega))
  rw [Piece.ofUnit, hhigh, hlow]
  rfl

/-- A character is written as an escape of one letter, by its number, or as it is. -/
theorem escapeChar_cases (c : Char) :
    (∃ e, escapeChar c = ['\\', e] ∧ e ≠ 'u' ∧ escaped? e = some c)
      ∨ (escapeChar c = '\\' :: 'u' :: '0' :: '0' :: hexByte c.toNat ∧ c.toNat < 0x20)
      ∨ (escapeChar c = [c] ∧ c ≠ '"' ∧ ¬ (c.toNat < 0x20 ∨ c = '\\')) := by
  unfold escapeChar
  split_ifs with hquote hback h8 hc hn hr ht hlt
  · exact Or.inl ⟨'"', rfl, by decide, by rw [hquote]; rfl⟩
  · exact Or.inl ⟨'\\', rfl, by decide, by rw [hback]; rfl⟩
  · exact Or.inl ⟨'b', rfl, by decide, by rw [h8]; rfl⟩
  · exact Or.inl ⟨'f', rfl, by decide, by rw [hc]; rfl⟩
  · exact Or.inl ⟨'n', rfl, by decide, by rw [hn]; rfl⟩
  · exact Or.inl ⟨'r', rfl, by decide, by rw [hr]; rfl⟩
  · exact Or.inl ⟨'t', rfl, by decide, by rw [ht]; rfl⟩
  · exact Or.inr (Or.inl ⟨rfl, hlt⟩)
  · exact Or.inr (Or.inr ⟨rfl, hquote, not_or.mpr ⟨hlt, hback⟩⟩)

/-- A character that was escaped is read as that character. -/
theorem pieces?_escapeChar (c : Char) (tail : List Char) :
    pieces? (escapeChar c ++ tail)
      = (pieces? tail).map fun (ps, left) => (.char c :: ps, left) := by
  rcases escapeChar_cases c with ⟨e, hescape, hu, he⟩ | ⟨hescape, hlt⟩ | ⟨hescape, hquote, hplain⟩
  · rw [hescape, List.cons_append, List.cons_append, List.nil_append, pieces?, he]
    exact fun _ _ _ _ _ h _ => hu h
  · rw [hescape, hexByte]
    show pieces? ('\\' :: 'u' :: '0' :: '0' :: _ :: _ :: tail) = _
    rw [pieces?, hex4?_hexByte _ hlt]
    show (pieces? tail).map (fun (ps, left) => (Piece.ofUnit c.toNat :: ps, left)) = _
    rw [ofUnit_of_lt hlt, Char.ofNat_toNat]
  · rw [hescape, List.cons_append, List.nil_append, pieces?, if_neg hplain]
    · exact hquote
    · exact fun _ _ _ _ _ h _ => hplain (Or.inr h)
    · exact fun _ _ h _ => hplain (Or.inr h)

/-- Escaped characters are read up to the quote that closes the literal. -/
theorem pieces?_flatMap_escapeChar (s tail : List Char) :
    pieces? (s.flatMap escapeChar ++ '"' :: tail) = some (s.map .char, tail) := by
  induction s with
  | nil => rfl
  | cons c s ih => rw [List.flatMap_cons, List.append_assoc, pieces?_escapeChar, ih]; rfl

/-- Where there are no halves, there is nothing to join. -/
theorem joinHalves?_map_char (s : List Char) : joinHalves? (s.map .char) = some s := by
  induction s with
  | nil => rfl
  | cons c s ih => rw [List.map_cons, joinHalves?, ih]; rfl

/-- **A string literal is read as the string that it was written for**, also one without text. -/
theorem readToken?_stringLiteral (text : Option String) (tail : List Char) :
    readToken? (stringLiteral text ++ tail) = some (.string text, tail) := by
  cases text with
  | none => rfl
  | some s =>
    have hliteral : stringLiteral (some s) ++ tail
        = '"' :: (s.toList.flatMap escapeChar ++ '"' :: tail) := by
      rw [stringLiteral, List.cons_append, List.cons_append, List.append_assoc]
      rfl
    rw [hliteral, readToken?, pieces?_flatMap_escapeChar]
    show some (Token.string ((joinHalves? (s.toList.map .char)).map String.ofList), tail) = _
    rw [joinHalves?_map_char, Option.map_some, String.ofList_toList]

/-! ## Natural numbers -/

/-- What follows does not continue a number. -/
def Stops (tail : List Char) : Prop :=
  ∀ c ∈ tail.head?, c.isDigit = false ∧ c ≠ '.' ∧ c ≠ 'e' ∧ c ≠ 'E'

/-- Digits are read up to the first character that is none. -/
theorem digits?_append {digits tail : List Char} (hne : digits ≠ [])
    (hdigits : ∀ c ∈ digits, c.isDigit = true) (hstop : ∀ c ∈ tail.head?, c.isDigit = false) :
    digits? (digits ++ tail) = some (digits, tail) := by
  have htake : tail.takeWhile Char.isDigit = [] := by
    cases tail with
    | nil => rfl
    | cons c tail =>
      rw [List.takeWhile_cons, hstop c rfl]
      rfl
  have hdrop : tail.dropWhile Char.isDigit = tail := by
    cases tail with
    | nil => rfl
    | cons c tail =>
      rw [List.dropWhile_cons, hstop c rfl]
      rfl
  rw [digits?, List.takeWhile_append_of_pos hdigits, List.dropWhile_append_of_pos hdigits, htake,
    hdrop, List.append_nil, if_neg hne]

/-- Only zero is written with a leading zero. -/
theorem head?_toDigits_ne {n : Nat} (hn : n ≠ 0) : (Nat.toDigits 10 n).head? ≠ some '0' := by
  induction n using Nat.strongRecOn with
  | _ n ih =>
    rw [Nat.toDigits_eq_if (by decide)]
    split_ifs with hlt
    · have hdigit : ∀ n < 10, n ≠ 0 → some (Nat.digitChar n) ≠ some '0' := by decide
      exact hdigit n hlt hn
    · rw [List.head?_append_of_ne_nil _ Nat.toDigits_ne_nil]
      exact ih (n / 10) (Nat.div_lt_self (by omega) (by decide)) (by omega)

theorem isDigit_of_mem_toDigits {n : Nat} : ∀ c ∈ Nat.toDigits 10 n, c.isDigit = true :=
  fun _ => Nat.isDigit_of_mem_toDigits (by decide) (by decide)

/-- A natural number has no zero in front, so its digits are read as one run. -/
theorem whole?_toDigits {n : Nat} {tail : List Char} (hstop : Stops tail) :
    whole? (Nat.toDigits 10 n ++ tail) = some (Nat.toDigits 10 n, tail) := by
  by_cases hn : n = 0
  · rw [hn]
    rfl
  · have hhead := head?_toDigits_ne hn
    have hdigits : digits? (Nat.toDigits 10 n ++ tail) = some (Nat.toDigits 10 n, tail) :=
      digits?_append Nat.toDigits_ne_nil isDigit_of_mem_toDigits fun c hc => (hstop c hc).1
    unfold whole?
    split
    next rest hrest =>
      have hsome := congrArg List.head? hrest
      rw [List.head?_append_of_ne_nil _ Nat.toDigits_ne_nil] at hsome
      exact absurd hsome hhead
    next => exact hdigits

/-- There is no fraction where the number stops. -/
theorem fraction?_of_stops {tail : List Char} (hstop : Stops tail) :
    fraction? tail = some ([], tail) := by
  unfold fraction?
  split
  next rest => exact absurd rfl (hstop '.' rfl).2.1
  next => rfl

/-- Nor is there an exponent. -/
theorem exponent?_of_stops {tail : List Char} (hstop : Stops tail) :
    exponent? tail = some (none, tail) := by
  cases tail with
  | nil => rfl
  | cons c tail =>
    obtain ⟨-, -, he, hE⟩ := hstop c rfl
    exact if_neg (not_or.mpr ⟨he, hE⟩)

/-- The digits of a natural number are read as that number. -/
theorem unsigned?_ofNat {n : Nat} {tail : List Char} (hstop : Stops tail) :
    unsigned? false (Nat.toDigits 10 n ++ tail) = some (.ofNat n, tail) := by
  rw [unsigned?, whole?_toDigits hstop]
  show (fraction? tail).bind _ = _
  rw [fraction?_of_stops hstop]
  show (exponent? tail).bind _ = _
  rw [exponent?_of_stops hstop]
  rfl

/-- What begins with a digit can only be a number. -/
theorem readToken?_of_isDigit {c : Char} (hc : c.isDigit = true) (tail : List Char) :
    readToken? (c :: tail)
      = (unsigned? false (c :: tail)).map fun (n, left) => (.literal (.number n), left) := by
  have hnot {d : Char} (hd : d.isDigit = false) : c ≠ d := by
    intro h
    rw [h, hd] at hc
    cases hc
  have hnumber : number? (c :: tail) = unsigned? false (c :: tail) := by
    unfold number?
    split
    next h => exact absurd (List.cons.inj h).1 (hnot (by decide))
    next => rfl
  unfold readToken?
  split
  case h_11 => rw [hnumber]
  all_goals
    next h => exact absurd (List.cons.inj h).1 (hnot (by decide))

theorem literal_ofNat (n : Nat) : (Number.ofNat n).literal = Nat.toDigits 10 n := by
  rw [Number.literal, Number.ofNat]
  exact (List.append_nil _).trans (List.append_nil _)

/-- **The literal of a natural number is read as that number.** -/
theorem readToken?_ofNat (n : Nat) {tail : List Char} (hstop : Stops tail) :
    readToken? ((Number.ofNat n).literal ++ tail)
      = some (.literal (.number (.ofNat n)), tail) := by
  rw [literal_ofNat]
  have hread := unsigned?_ofNat (n := n) hstop
  cases hdigits : Nat.toDigits 10 n with
  | nil => exact absurd hdigits Nat.toDigits_ne_nil
  | cons c digits =>
    have hc : c.isDigit = true := isDigit_of_mem_toDigits c (by rw [hdigits]; simp)
    rw [hdigits, List.cons_append] at hread
    rw [List.cons_append, readToken?_of_isDigit hc, hread]
    rfl

/-- **The literal of a natural number denotes it.** -/
theorem toNat?_ofNat (n : Nat) : (Number.ofNat n).toNat? = some n := by
  have hfold : Number.ofDigits (Nat.toDigits 10 n) = Nat.ofDigitChars 10 (Nat.toDigits 10 n) 0 := by
    rw [Number.ofDigits, Nat.ofDigitChars]
    refine congrArg (fun f => List.foldl f 0 _) (funext fun sofar => funext fun c => ?_)
    rw [Number.digitValue, Nat.mul_comm]
  show some (Number.ofDigits (Nat.toDigits 10 n)) = some n
  rw [hfold, Nat.ofDigitChars_toDigits (by decide) (by decide)]

end GuiTest.Json
