import Mathlib.Data.List.Sort
import Mathlib.Data.String.Basic

/-!
# The order of texts by their bytes

Texts are compared character by character. Their UTF-8 bytes compare alike (`bytes_lt_iff`), so a
table by name is also in the order of the bytes of its names. For a single character this holds
because the first byte tells how long the code is and the others are digits, the highest first; so
the codes of two characters differ at a byte that both of them have (`differ_of_lt`).
-/

namespace GuiTest.Text

/-- The UTF-8 bytes of a text. -/
def bytes (s : String) : List UInt8 := s.toUTF8.data.toList

theorem bytes_eq (s : String) : bytes s = s.toList.flatMap String.utf8EncodeChar := by
  rw [bytes, String.toUTF8_eq_toByteArray, ← String.utf8Encode_toList, List.utf8Encode,
    List.data_toByteArray]

/-- Where the first difference is, both lists have a byte, and that of the first is less. -/
def Differ (x y : List UInt8) : Prop :=
  ∃ p a b u v, x = p ++ a :: u ∧ y = p ++ b :: v ∧ a < b

/-- The first bytes decide unless they are equal. Bytes compare as their numbers do. -/
theorem Differ.byte {a b : Nat} {u v : List UInt8} (hle : a ≤ b) (hb : b < 256)
    (h : a = b → Differ u v) : Differ (UInt8.ofNat a :: u) (UInt8.ofNat b :: v) := by
  rcases Nat.lt_or_eq_of_le hle with hlt | rfl
  · have hbyte := (UInt8.ofNat_lt_iff_lt (Nat.lt_trans hlt hb) hb).mpr hlt
    exact ⟨[], _, _, u, v, rfl, rfl, hbyte⟩
  · obtain ⟨p, c, d, u, v, rfl, rfl, hcd⟩ := h rfl
    exact ⟨UInt8.ofNat a :: p, c, d, u, v, rfl, rfl, hcd⟩

/-- What follows after the difference does not count. -/
theorem Differ.append_lt {x y : List UInt8} (h : Differ x y) (s t : List UInt8) :
    x ++ s < y ++ t := by
  obtain ⟨p, a, b, u, v, rfl, rfl, hlt⟩ := h
  rw [List.append_assoc, List.append_assoc]
  exact List.append_left_lt (List.Lex.rel hlt)

/-- The UTF-8 bytes of the character with a number. -/
def code (v : Nat) : List UInt8 :=
  if v ≤ 0x7f then [UInt8.ofNat v]
  else if v ≤ 0x7ff then [UInt8.ofNat (v / 64 % 32 + 0xc0), UInt8.ofNat (v % 64 + 0x80)]
  else if v ≤ 0xffff then
    [UInt8.ofNat (v / 4096 % 16 + 0xe0), UInt8.ofNat (v / 64 % 64 + 0x80),
      UInt8.ofNat (v % 64 + 0x80)]
  else
    [UInt8.ofNat (v / 262144 % 8 + 0xf0), UInt8.ofNat (v / 4096 % 64 + 0x80),
      UInt8.ofNat (v / 64 % 64 + 0x80), UInt8.ofNat (v % 64 + 0x80)]

theorem utf8EncodeChar_eq (c : Char) : String.utf8EncodeChar c = code c.val.toNat := rfl

/-- **The code of an earlier character** is less at a byte that both codes have. -/
theorem differ_of_lt {v w : Nat} (hlt : v < w) (hw : w < 0x110000) : Differ (code v) (code w) := by
  rw [code, code]
  split
  next =>
    -- A single byte is less than the first one of any longer code.
    split_ifs
    · exact .byte (by omega) (by omega) fun h => absurd h (by omega)
    · exact .byte (by omega) (by omega) fun h => absurd h (by omega)
    · exact .byte (by omega) (by omega) fun h => absurd h (by omega)
    · exact .byte (by omega) (by omega) fun h => absurd h (by omega)
  next =>
    rw [if_neg (show ¬ w ≤ 0x7f by omega)]
    split
    next =>
      split_ifs
      · exact .byte (by omega) (by omega) fun _ => .byte (by omega) (by omega) fun _ => by omega
      · exact .byte (by omega) (by omega) fun h => absurd h (by omega)
      · exact .byte (by omega) (by omega) fun h => absurd h (by omega)
    next =>
      rw [if_neg (show ¬ w ≤ 0x7ff by omega)]
      split
      next =>
        split_ifs
        · exact .byte (by omega) (by omega) fun _ => .byte (by omega) (by omega) fun _ =>
            .byte (by omega) (by omega) fun _ => by omega
        · exact .byte (by omega) (by omega) fun h => absurd h (by omega)
      next =>
        rw [if_neg (show ¬ w ≤ 0xffff by omega)]
        exact .byte (by omega) (by omega) fun _ => .byte (by omega) (by omega) fun _ =>
          .byte (by omega) (by omega) fun _ => .byte (by omega) (by omega) fun _ => by omega

/-- Characters in order have their bytes in order. -/
theorem flatMap_lt {cs ds : List Char} (h : cs < ds) :
    cs.flatMap String.utf8EncodeChar < ds.flatMap String.utf8EncodeChar := by
  induction h with
  | @nil d ds =>
    obtain ⟨b, u, hb⟩ := List.exists_cons_of_ne_nil (String.utf8EncodeChar_ne_nil (c := d))
    rw [List.flatMap_cons, hb]
    exact List.nil_lt_cons b _
  | cons _ ih => exact List.append_left_lt ih
  | @rel c cs d ds hcd =>
    have hd : d.val.toNat < 0x110000 := by
      have := d.valid
      simp only [UInt32.isValidChar, Nat.isValidChar] at this
      omega
    rw [List.flatMap_cons, List.flatMap_cons, utf8EncodeChar_eq, utf8EncodeChar_eq]
    exact (differ_of_lt hcd hd).append_lt _ _

/-- **Texts compare as their bytes do.** -/
theorem bytes_lt_iff (s t : String) : bytes s < bytes t ↔ s < t := by
  have hmono : ∀ {s t : String}, s < t → bytes s < bytes t := fun h => by
    rw [bytes_eq, bytes_eq]
    exact flatMap_lt (String.lt_iff_toList_lt.mp h)
  refine ⟨fun h => ?_, hmono⟩
  rcases lt_trichotomy s t with hlt | rfl | hgt
  · exact hlt
  · exact absurd h (List.lt_irrefl _)
  · exact absurd (hmono hgt) (List.lt_asymm h)

end GuiTest.Text
