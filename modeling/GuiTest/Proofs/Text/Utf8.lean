import GuiTest.Proofs.Text.ByteOrder
import GuiTest.Text.Utf8

/-!
# Bytes are read as the text whose bytes they are

The first byte of a character says how many follow and in which bounds the second one lies. In these
bounds, what the bytes spell is the number of a character and no shorter code spells it
(`first_three`, `first_four`). So a character is read from its code (`Code.scan_append`), nothing
but a code is read as one (`Reads.exists_code`), and bytes are read as a text if and only if they
are the bytes of it (`decode?_eq_some_iff`).
-/

namespace GuiTest.Text.Utf8

/-- A byte that goes on with a character. -/
def Tail (b : Nat) : Prop := 0x80 ≤ b ∧ b ≤ 0xBF

/-! ## First bytes -/

theorem first_one {a : Nat} (h : a < 0x80) : first a = .whole (Char.ofNat a) := by
  rw [first, if_pos h]

theorem first_refused {a : Nat} (h : (0x80 ≤ a ∧ a < 0xC2) ∨ 0xF4 < a) : first a = .refused := by
  unfold first
  split_ifs <;> first | rfl | omega

theorem first_two {a : Nat} (h : 0xC2 ≤ a ∧ a < 0xE0) :
    first a = .begun ⟨a - 0xC0, 1, 0x80, 0xBF⟩ := by
  rw [first, if_neg (by omega), if_neg (by omega), if_pos h.2]

/-- The bounds of the second byte of three exclude shorter codes and halves of surrogate pairs. -/
theorem first_three {a : Nat} (h : 0xE0 ≤ a ∧ a < 0xF0) :
    ∃ low high, first a = .begun ⟨a - 0xE0, 2, low, high⟩ ∧ ∀ b, low ≤ b ∧ b ≤ high ↔
      Tail b ∧ 0x20 ≤ (a - 0xE0) * 64 + (b - 0x80)
        ∧ ¬ (0x360 ≤ (a - 0xE0) * 64 + (b - 0x80) ∧ (a - 0xE0) * 64 + (b - 0x80) < 0x380) := by
  rw [first, if_neg (by omega), if_neg (by omega), if_neg (by omega)]
  simp only [Tail]
  by_cases hfirst : a = 0xE0
  · rw [if_pos hfirst]
    exact ⟨0xA0, 0xBF, by rw [hfirst], fun b => by omega⟩
  rw [if_neg hfirst]
  by_cases hhalves : a = 0xED
  · rw [if_pos hhalves]
    exact ⟨0x80, 0x9F, by rw [hhalves], fun b => by omega⟩
  · rw [if_neg hhalves, if_pos h.2]
    exact ⟨0x80, 0xBF, rfl, fun b => by omega⟩

/-- The bounds of the second byte of four exclude shorter codes and what is past the last
character. -/
theorem first_four {a : Nat} (h : 0xF0 ≤ a ∧ a ≤ 0xF4) :
    ∃ low high, first a = .begun ⟨a - 0xF0, 3, low, high⟩ ∧ ∀ b, low ≤ b ∧ b ≤ high ↔
      Tail b ∧ 0x10 ≤ (a - 0xF0) * 64 + (b - 0x80) ∧ (a - 0xF0) * 64 + (b - 0x80) < 0x110 := by
  rw [first, if_neg (by omega), if_neg (by omega), if_neg (by omega), if_neg (by omega),
    if_neg (by omega), if_neg (by omega)]
  simp only [Tail]
  by_cases hfirst : a = 0xF0
  · rw [if_pos hfirst]
    exact ⟨0x90, 0xBF, by rw [hfirst], fun b => by omega⟩
  rw [if_neg hfirst]
  by_cases hmiddle : a < 0xF4
  · rw [if_pos hmiddle]
    exact ⟨0x80, 0xBF, rfl, fun b => by omega⟩
  · have hlast : a = 0xF4 := by omega
    rw [if_neg hmiddle, if_pos hlast]
    exact ⟨0x80, 0x8F, by rw [hlast], fun b => by omega⟩

/-! ## Codes -/

/-- The bytes of the character with a number, by how many they are. -/
inductive Code : Nat → List UInt8 → Prop where
  | one (a : UInt8) : a.toNat < 0x80 → Code a.toNat [a]
  | two (a b : UInt8) : 0xC2 ≤ a.toNat ∧ a.toNat < 0xE0 → Tail b.toNat →
    Code ((a.toNat - 0xC0) * 64 + (b.toNat - 0x80)) [a, b]
  | three (a b c : UInt8) {n : Nat} : 0xE0 ≤ a.toNat ∧ a.toNat < 0xF0 → Tail b.toNat →
    (a.toNat - 0xE0) * 64 + (b.toNat - 0x80) = n → 0x20 ≤ n → ¬ (0x360 ≤ n ∧ n < 0x380) →
    Tail c.toNat → Code (n * 64 + (c.toNat - 0x80)) [a, b, c]
  | four (a b c d : UInt8) {n : Nat} : 0xF0 ≤ a.toNat ∧ a.toNat ≤ 0xF4 → Tail b.toNat →
    (a.toNat - 0xF0) * 64 + (b.toNat - 0x80) = n → 0x10 ≤ n → n < 0x110 →
    Tail c.toNat → Tail d.toNat →
    Code ((n * 64 + (c.toNat - 0x80)) * 64 + (d.toNat - 0x80)) [a, b, c, d]

/-- What a code spells is the number of a character. -/
theorem Code.isValidChar {v : Nat} {bytes : List UInt8} (h : Code v bytes) : v.isValidChar := by
  simp only [Nat.isValidChar]
  cases h with
  | one => omega
  | two => simp only [Tail] at *; omega
  | three => simp only [Tail] at *; omega
  | four => simp only [Tail] at *; omega

/-- A byte is told by its number. -/
theorem byte_eq {a : UInt8} {n : Nat} (h : a.toNat = n) : a = UInt8.ofNat n := by
  rw [← h, UInt8.ofNat_toNat]

/-- A character has one code. -/
theorem Code.eq_code {v : Nat} {bytes : List UInt8} (h : Code v bytes) : bytes = code v := by
  simp only [code]
  cases h with
  | one a ha => rw [if_pos (by omega), UInt8.ofNat_toNat]
  | two a b ha hb =>
    simp only [Tail] at hb
    rw [if_neg (by omega), if_pos (by omega)]
    simp only [List.cons.injEq, and_true]
    exact ⟨byte_eq (by omega), byte_eq (by omega)⟩
  | three a b c ha hb hn hlow hhalves hc =>
    simp only [Tail] at hb hc
    rw [if_neg (by omega), if_neg (by omega), if_pos (by omega)]
    simp only [List.cons.injEq, and_true]
    exact ⟨byte_eq (by omega), byte_eq (by omega), byte_eq (by omega)⟩
  | four a b c d ha hb hn hlow hhigh hc hd =>
    simp only [Tail] at hb hc hd
    rw [if_neg (by omega), if_neg (by omega), if_neg (by omega)]
    simp only [List.cons.injEq, and_true]
    exact ⟨byte_eq (by omega), byte_eq (by omega), byte_eq (by omega), byte_eq (by omega)⟩

theorem exists_byte {n : Nat} (h : n < 256) : ∃ a : UInt8, UInt8.ofNat n = a ∧ a.toNat = n :=
  ⟨_, rfl, UInt8.toNat_ofNat_of_lt' h⟩

/-- Every character has its code. -/
theorem code_of_isValidChar {v : Nat} (h : v.isValidChar) : Code v (code v) := by
  simp only [Nat.isValidChar] at h
  simp only [code]
  -- Each byte is taken by its number, so that only arithmetic is left.
  split_ifs with hone htwo hthree
  · obtain ⟨a, hfirst, ha⟩ := exists_byte (show v < 256 by omega)
    rw [hfirst, ← ha]
    exact .one a (by omega)
  · obtain ⟨a, hfirst, ha⟩ := exists_byte (show v / 64 % 32 + 0xc0 < 256 by omega)
    obtain ⟨b, hsecond, hb⟩ := exists_byte (show v % 64 + 0x80 < 256 by omega)
    have hcode : Code ((a.toNat - 0xC0) * 64 + (b.toNat - 0x80)) [a, b] :=
      .two a b (by omega) ⟨by omega, by omega⟩
    have hv : (a.toNat - 0xC0) * 64 + (b.toNat - 0x80) = v := by omega
    rwa [hfirst, hsecond, ← hv]
  · obtain ⟨a, hfirst, ha⟩ := exists_byte (show v / 4096 % 16 + 0xe0 < 256 by omega)
    obtain ⟨b, hsecond, hb⟩ := exists_byte (show v / 64 % 64 + 0x80 < 256 by omega)
    obtain ⟨c, hthird, hc⟩ := exists_byte (show v % 64 + 0x80 < 256 by omega)
    have hn : (a.toNat - 0xE0) * 64 + (b.toNat - 0x80) = v / 64 := by omega
    have hcode : Code (v / 64 * 64 + (c.toNat - 0x80)) [a, b, c] :=
      .three a b c (by omega) ⟨by omega, by omega⟩ hn (by omega) (by omega) ⟨by omega, by omega⟩
    have hv : v / 64 * 64 + (c.toNat - 0x80) = v := by omega
    rw [hv] at hcode
    rwa [hfirst, hsecond, hthird]
  · obtain ⟨a, hfirst, ha⟩ := exists_byte (show v / 262144 % 8 + 0xf0 < 256 by omega)
    obtain ⟨b, hsecond, hb⟩ := exists_byte (show v / 4096 % 64 + 0x80 < 256 by omega)
    obtain ⟨c, hthird, hc⟩ := exists_byte (show v / 64 % 64 + 0x80 < 256 by omega)
    obtain ⟨d, hfourth, hd⟩ := exists_byte (show v % 64 + 0x80 < 256 by omega)
    have hn : (a.toNat - 0xF0) * 64 + (b.toNat - 0x80) = v / 4096 := by omega
    have hcode : Code ((v / 4096 * 64 + (c.toNat - 0x80)) * 64 + (d.toNat - 0x80)) [a, b, c, d] :=
      .four a b c d (by omega) ⟨by omega, by omega⟩ hn (by omega) (by omega)
        ⟨by omega, by omega⟩ ⟨by omega, by omega⟩
    have hv : (v / 4096 * 64 + (c.toNat - 0x80)) * 64 + (d.toNat - 0x80) = v := by omega
    rw [hv] at hcode
    rwa [hfirst, hsecond, hthird, hfourth]

/-! ## Reading a character -/

theorem scan_first {a : UInt8} {c : Char} (h : first a.toNat = .whole c) (rest : List UInt8) :
    scan none (a :: rest) = some c :: scan none rest := by
  rw [scan, h]

theorem scan_begun {a : UInt8} {p : Begun} (h : first a.toNat = .begun p) (rest : List UInt8) :
    scan none (a :: rest) = scan (some p) rest := by
  rw [scan, h]

theorem scan_last {bits low high : Nat} {b : UInt8} (h : low ≤ b.toNat ∧ b.toNat ≤ high)
    (rest : List UInt8) :
    scan (some ⟨bits, 1, low, high⟩) (b :: rest)
      = some (Char.ofNat (bits * 64 + (b.toNat - 0x80))) :: scan none rest := by
  rw [scan, if_pos h]
  rfl

theorem scan_more {bits owed low high : Nat} {b : UInt8} (h : low ≤ b.toNat ∧ b.toNat ≤ high)
    (rest : List UInt8) :
    scan (some ⟨bits, owed + 2, low, high⟩) (b :: rest)
      = scan (some ⟨bits * 64 + (b.toNat - 0x80), owed + 1, 0x80, 0xBF⟩) rest := by
  rw [scan, if_pos h]
  exact if_neg (by simp)

/-- **A character is read from its code**, whatever follows. -/
theorem Code.scan_append {v : Nat} {bytes : List UInt8} (h : Code v bytes) (rest : List UInt8) :
    scan none (bytes ++ rest) = some (Char.ofNat v) :: scan none rest := by
  cases h with
  | one a ha => exact scan_first (first_one ha) rest
  | two a b ha hb =>
    show scan none (a :: b :: rest) = _
    rw [scan_begun (first_two ha), scan_last hb]
  | three a b c ha hb hn hlow hhalves hc =>
    obtain ⟨low, high, hfirst, hbounds⟩ := first_three ha
    rw [← hn] at hlow hhalves
    show scan none (a :: b :: c :: rest) = _
    rw [scan_begun hfirst, scan_more ((hbounds _).mpr ⟨hb, hlow, hhalves⟩), scan_last hc, hn]
  | four a b c d ha hb hn hlow hhigh hc hd =>
    obtain ⟨low, high, hfirst, hbounds⟩ := first_four ha
    rw [← hn] at hlow hhigh
    show scan none (a :: b :: c :: d :: rest) = _
    rw [scan_begun hfirst, scan_more ((hbounds _).mpr ⟨hb, hlow, hhigh⟩), scan_more hc,
      scan_last hd, hn]

/-! ## Nothing else is read -/

/-- The bytes are read as these characters, and none goes wrong. -/
def Reads (p : Option Begun) (bytes : List UInt8) (cs : List Char) : Prop :=
  (scan p bytes).mapM id = some cs

/-- If no character of a list is missing, the first is not, nor is one of the rest. -/
theorem exists_of_mapM_cons {out : List (Option Char)} {c : Option Char} {cs : List Char}
    (h : (c :: out).mapM id = some cs) :
    ∃ d ds, c = some d ∧ out.mapM id = some ds ∧ cs = d :: ds := by
  rw [List.mapM_cons] at h
  obtain ⟨d, hd, h⟩ := Option.bind_eq_some_iff.mp h
  obtain ⟨ds, hds, h⟩ := Option.bind_eq_some_iff.mp h
  cases h
  exact ⟨d, ds, hd, hds, rfl⟩

/-- A begun character goes on with a byte within its bounds. -/
theorem Reads.bounds {p : Begun} {bytes : List UInt8} {cs : List Char}
    (h : Reads (some p) bytes cs) :
    ∃ b rest, bytes = b :: rest ∧ p.low ≤ b.toNat ∧ b.toNat ≤ p.high := by
  cases bytes with
  | nil =>
    obtain ⟨d, -, hd, -⟩ := exists_of_mapM_cons h
    cases hd
  | cons b rest =>
    by_cases hb : p.low ≤ b.toNat ∧ b.toNat ≤ p.high
    · exact ⟨b, rest, rfl, hb⟩
    · rw [Reads, scan, if_neg hb] at h
      split at h <;>
      · obtain ⟨d, -, hd, -⟩ := exists_of_mapM_cons h
        cases hd

/-- The last byte of a character is in its bounds and completes it. -/
theorem Reads.last {bits low high : Nat} {bytes : List UInt8} {cs : List Char}
    (h : Reads (some ⟨bits, 1, low, high⟩) bytes cs) :
    ∃ b left ds, bytes = b :: left ∧ (low ≤ b.toNat ∧ b.toNat ≤ high)
      ∧ cs = Char.ofNat (bits * 64 + (b.toNat - 0x80)) :: ds ∧ Reads none left ds := by
  obtain ⟨b, left, rfl, hb⟩ := h.bounds
  rw [Reads, scan_last hb] at h
  obtain ⟨d, ds, hd, hds, rfl⟩ := exists_of_mapM_cons h
  obtain rfl := Option.some.inj hd
  exact ⟨b, left, ds, rfl, hb, rfl, hds⟩

/-- A byte before the last one is in its bounds and adds its bits. -/
theorem Reads.more {bits owed low high : Nat} {bytes : List UInt8} {cs : List Char}
    (h : Reads (some ⟨bits, owed + 2, low, high⟩) bytes cs) :
    ∃ b left, bytes = b :: left ∧ (low ≤ b.toNat ∧ b.toNat ≤ high)
      ∧ Reads (some ⟨bits * 64 + (b.toNat - 0x80), owed + 1, 0x80, 0xBF⟩) left cs := by
  obtain ⟨b, left, rfl, hb⟩ := h.bounds
  rw [Reads, scan_more hb] at h
  exact ⟨b, left, rfl, hb, h⟩

/-- **What is read as a character is the code of it.** -/
theorem Reads.exists_code {a : UInt8} {rest : List UInt8} {cs : List Char}
    (h : Reads none (a :: rest) cs) :
    ∃ v bytes left ds, Code v bytes ∧ a :: rest = bytes ++ left ∧ cs = Char.ofNat v :: ds
      ∧ Reads none left ds := by
  -- The cases are the four lengths that a first byte announces, and those that it cannot.
  by_cases hone : a.toNat < 0x80
  · rw [Reads, scan_first (first_one hone)] at h
    obtain ⟨d, ds, hd, hds, rfl⟩ := exists_of_mapM_cons h
    cases hd
    exact ⟨_, [a], rest, ds, .one a hone, rfl, rfl, hds⟩
  by_cases hrefused : a.toNat < 0xC2 ∨ 0xF4 < a.toNat
  · rw [Reads, scan, first_refused (by omega)] at h
    obtain ⟨d, -, hd, -⟩ := exists_of_mapM_cons h
    cases hd
  by_cases htwo : a.toNat < 0xE0
  · have ha : 0xC2 ≤ a.toNat ∧ a.toNat < 0xE0 := by omega
    rw [Reads, scan_begun (first_two ha)] at h
    obtain ⟨b, left, ds, rfl, hb, rfl, hds⟩ := Reads.last h
    exact ⟨_, [a, b], left, ds, .two a b ha hb, rfl, rfl, hds⟩
  by_cases hthree : a.toNat < 0xF0
  · have ha : 0xE0 ≤ a.toNat ∧ a.toNat < 0xF0 := by omega
    obtain ⟨low, high, hfirst, hbounds⟩ := first_three ha
    rw [Reads, scan_begun hfirst] at h
    obtain ⟨b, more, rfl, hb, hmore⟩ := Reads.more h
    obtain ⟨c, left, ds, rfl, hc, rfl, hds⟩ := Reads.last hmore
    obtain ⟨htail, hlow, hhalves⟩ := (hbounds _).mp hb
    exact ⟨_, [a, b, c], left, ds, .three a b c ha htail rfl hlow hhalves hc, rfl, rfl, hds⟩
  · have ha : 0xF0 ≤ a.toNat ∧ a.toNat ≤ 0xF4 := by omega
    obtain ⟨low, high, hfirst, hbounds⟩ := first_four ha
    rw [Reads, scan_begun hfirst] at h
    obtain ⟨b, more, rfl, hb, hmore⟩ := Reads.more h
    obtain ⟨c, last, rfl, hc, hlast⟩ := Reads.more hmore
    obtain ⟨d, left, ds, rfl, hd, rfl, hds⟩ := Reads.last hlast
    obtain ⟨htail, hlow, hhigh⟩ := (hbounds _).mp hb
    exact ⟨_, [a, b, c, d], left, ds, .four a b c d ha htail rfl hlow hhigh hc hd, rfl, rfl, hds⟩

/-! ## Texts -/

/-- The code of a character is the one of its number. -/
theorem Code.utf8EncodeChar {v : Nat} {bytes : List UInt8} (h : Code v bytes) :
    String.utf8EncodeChar (Char.ofNat v) = bytes := by
  have hv : (Char.ofNat v).val.toNat = v := congrArg Char.toNat (dif_pos h.isValidChar)
  rw [utf8EncodeChar_eq, hv, h.eq_code]

/-- The bytes of a text are read as it. -/
theorem reads_flatMap (cs : List Char) : Reads none (cs.flatMap String.utf8EncodeChar) cs := by
  induction cs with
  | nil => rfl
  | cons c cs ih =>
    have hcode := code_of_isValidChar c.valid
    rw [← utf8EncodeChar_eq] at hcode
    rw [Reads, List.flatMap_cons, hcode.scan_append, List.mapM_cons, ih]
    exact congrArg (fun d => some (d :: cs)) (Char.ofNat_toNat c)

/-- Bytes are read as a text only if they are its bytes. -/
theorem Reads.eq_flatMap {bytes : List UInt8} {cs : List Char} (h : Reads none bytes cs) :
    bytes = cs.flatMap String.utf8EncodeChar := by
  induction hlength : bytes.length using Nat.strongRecOn generalizing bytes cs with
  | _ length ih =>
    cases bytes with
    | nil =>
      cases h
      rfl
    | cons a rest =>
      obtain ⟨v, code, left, ds, hcode, hbytes, rfl, hleft⟩ := h.exists_code
      have hshorter : left.length < length := by
        have hsplit := congrArg List.length hbytes
        rw [hlength, List.length_append] at hsplit
        have hpos : 0 < code.length := by cases hcode <;> exact Nat.succ_pos _
        omega
      rw [hbytes, List.flatMap_cons, hcode.utf8EncodeChar, ← ih _ hshorter hleft rfl]

/-- **Bytes are read as a text if and only if they are its bytes.** -/
theorem decode?_eq_some_iff {bytes : List UInt8} {s : String} :
    decode? bytes = some s ↔ bytes = Text.bytes s := by
  rw [decode?, Option.map_eq_some_iff, bytes_eq]
  constructor
  · rintro ⟨cs, hcs, rfl⟩
    rw [String.toList_ofList]
    exact Reads.eq_flatMap hcs
  · rintro rfl
    exact ⟨s.toList, reads_flatMap s.toList, String.ofList_toList⟩

end GuiTest.Text.Utf8
