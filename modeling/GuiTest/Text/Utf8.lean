/-!
# Texts from bytes

Environment variables and files are bytes. `decode?` reads them as UTF-8, and is refused by any byte
that cannot stand where it does. `lossy` is for display: each longest beginning of a character that
goes wrong becomes one replacement character.
-/

namespace GuiTest.Text.Utf8

/-- A character of which some bytes are still owed: the bits so far, how many bytes are to come, and
the least and greatest value of the next one. -/
structure Begun where
  bits : Nat
  owed : Nat
  low : Nat
  high : Nat

/-- What the first byte of a character says. -/
inductive First where
  | whole (c : Char)
  | begun (b : Begun)
  | refused

/-- Reads the first byte of a character. The bounds of the second byte exclude overlong forms,
surrogates, and numbers past the last code point. -/
def first (b : Nat) : First :=
  if b < 0x80 then .whole (Char.ofNat b)
  else if b < 0xC2 then .refused
  else if b < 0xE0 then .begun ⟨b - 0xC0, 1, 0x80, 0xBF⟩
  else if b = 0xE0 then .begun ⟨0, 2, 0xA0, 0xBF⟩
  else if b = 0xED then .begun ⟨0xD, 2, 0x80, 0x9F⟩
  else if b < 0xF0 then .begun ⟨b - 0xE0, 2, 0x80, 0xBF⟩
  else if b = 0xF0 then .begun ⟨0, 3, 0x90, 0xBF⟩
  else if b < 0xF4 then .begun ⟨b - 0xF0, 3, 0x80, 0xBF⟩
  else if b = 0xF4 then .begun ⟨4, 3, 0x80, 0x8F⟩
  else .refused

/-- Reads bytes after those of a begun character. Every `none` in the answer is a longest beginning
that went wrong. -/
def scan : Option Begun → List UInt8 → List (Option Char)
  | none, [] => []
  | some _, [] => [none]
  | none, b :: rest =>
    match first b.toNat with
    | .whole c => some c :: scan none rest
    | .begun p => scan (some p) rest
    | .refused => none :: scan none rest
  | some p, b :: rest =>
    if p.low ≤ b.toNat ∧ b.toNat ≤ p.high then
      let bits := p.bits * 64 + (b.toNat - 0x80)
      if p.owed ≤ 1 then some (Char.ofNat bits) :: scan none rest
      else scan (some ⟨bits, p.owed - 1, 0x80, 0xBF⟩) rest
    else
      match first b.toNat with
      | .whole c => none :: some c :: scan none rest
      | .begun q => none :: scan (some q) rest
      | .refused => none :: none :: scan none rest

/-- The text that the bytes spell, if they are UTF-8. -/
def decode? (bytes : List UInt8) : Option String :=
  ((scan none bytes).mapM id).map String.ofList

/-- The text that the bytes spell, with replacement characters for what is not UTF-8. -/
def lossy (bytes : List UInt8) : String :=
  String.ofList ((scan none bytes).map fun c => c.getD '\uFFFD')

/-- Bytes that spell a text show as that text. -/
theorem lossy_of_decode? {bytes : List UInt8} {s : String} (h : decode? bytes = some s) :
    lossy bytes = s := by
  have key : ∀ (l : List (Option Char)) (cs : List Char), l.mapM id = some cs →
      l.map (fun c => c.getD '\uFFFD') = cs := by
    intro l
    induction l with
    | nil => intro cs h; simp_all
    | cons x l ih =>
      intro cs h
      cases x with
      | none => simp at h
      | some c =>
        simp only [List.mapM_cons, id_eq, Option.bind_eq_bind, Option.bind_some,
          Option.bind_eq_some_iff] at h
        obtain ⟨ds, hds, h⟩ := h
        cases h
        simp [ih ds hds]
  obtain ⟨cs, hcs, rfl⟩ := Option.map_eq_some_iff.1 h
  simp [lossy, key _ _ hcs]

end GuiTest.Text.Utf8
