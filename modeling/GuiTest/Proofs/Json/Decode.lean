import GuiTest.Json.Decode
import GuiTest.Proofs.Json.RoundTrip

/-!
# Records are read as they were written

A value nests as deeply as arrays and objects stand within each other in it (`Value.nesting`). What
is written `ReadsBack` if it is read to what it was written for, whenever as many levels may be
entered as it nests, and refused otherwise. A record of known members, each at most once, is taken
apart into its members (`ofMembers_record`), and the members of 32 and 64 bits are read as they were
written. Whatever reads back as a value does so from its texts (`ReadsBack.texts`).
-/

namespace GuiTest.Json

/-! ## Nesting -/

namespace Value

mutual

/-- How deeply arrays and objects stand within each other. -/
def nesting : Value → Nat
  | .array items => nestingOfItems items + 1
  | .object members => nestingOfMembers members + 1
  | _ => 0

/-- The deepest nesting of an item. -/
def nestingOfItems : List Value → Nat
  | [] => 0
  | v :: rest => max (nesting v) (nestingOfItems rest)

/-- The deepest nesting of a member. -/
def nestingOfMembers : List (Option String × Value) → Nat
  | [] => 0
  | (_, v) :: rest => max (nesting v) (nestingOfMembers rest)

end

/-- A list nests as deeply as the deepest of its items. -/
theorem nestingOfItems_le_iff {items : List Value} {depth : Nat} :
    nestingOfItems items ≤ depth ↔ ∀ v ∈ items, v.nesting ≤ depth := by
  induction items with
  | nil => simp [nestingOfItems]
  | cons v rest ih => rw [nestingOfItems, Nat.max_le, ih, List.forall_mem_cons]

/-- A record nests as deeply as the deepest of its members. -/
theorem nestingOfMembers_le_iff {members : List (Option String × Value)} {depth : Nat} :
    nestingOfMembers members ≤ depth ↔ ∀ m ∈ members, m.2.nesting ≤ depth := by
  induction members with
  | nil => simp [nestingOfMembers]
  | cons m rest ih =>
    obtain ⟨name, v⟩ := m
    rw [nestingOfMembers, Nat.max_le, ih, List.forall_mem_cons]

/-- And is a level of its own. -/
theorem nesting_record_le_iff {members : List (String × Value)} {depth : Nat} :
    (record members).nesting ≤ depth + 1 ↔ ∀ m ∈ members, m.2.nesting ≤ depth := by
  rw [record, nesting, Nat.succ_le_succ_iff, nestingOfMembers_le_iff]
  simp only [List.forall_mem_map]

theorem nesting_record_pos (members : List (String × Value)) : 0 < (record members).nesting := by
  rw [record, nesting]
  exact Nat.succ_pos _

/-- Numbers are asked of all items. -/
theorem allNatural_iff {items : List Value} : AllNatural items ↔ ∀ v ∈ items, v.Natural := by
  induction items with
  | nil => simp [AllNatural]
  | cons v rest ih => rw [AllNatural, ih, List.forall_mem_cons]

/-- And of all members. -/
theorem membersNatural_iff {members : List (Option String × Value)} :
    MembersNatural members ↔ ∀ m ∈ members, m.2.Natural := by
  induction members with
  | nil => simp [MembersNatural]
  | cons m rest ih =>
    obtain ⟨name, v⟩ := m
    rw [MembersNatural, ih, List.forall_mem_cons]

/-- A record is written with natural numbers if its members are. -/
theorem natural_record {members : List (String × Value)} (h : ∀ m ∈ members, m.2.Natural) :
    (record members).Natural := by
  rw [record, Natural, membersNatural_iff]
  simpa only [List.forall_mem_map] using h

/-- Neither an array nor an object, and no number but a natural one. -/
def Flat (v : Value) : Prop := v.nesting = 0 ∧ v.Natural

@[simp] theorem flat_text (s : String) : (text s).Flat := ⟨rfl, trivial⟩

@[simp] theorem flat_bool (b : Bool) : (bool b).Flat := ⟨rfl, trivial⟩

@[simp] theorem flat_nat (n : Nat) : (nat n).Flat := ⟨rfl, n, rfl⟩

@[simp] theorem flat_optionalText (o : Option String) : (optionalText o).Flat := by
  cases o <;> exact ⟨rfl, trivial⟩

theorem Flat.nesting_le {v : Value} (h : v.Flat) (depth : Nat) : v.nesting ≤ depth := by
  rw [h.1]
  exact Nat.zero_le depth

end Value

/-! ## Members -/

/-- A record of known members, each at most once, is taken apart into its members. -/
theorem ofMembers_record {names : List String} {strict : Bool} {members : List (String × Value)}
    (hknown : ∀ m ∈ members, m.1 ∈ names) (honce : (members.map (·.1)).Nodup) :
    Fields.ofMembers names strict (members.map fun (name, v) => (some name, v)) = some members := by
  induction members with
  | nil => rfl
  | cons m rest ih =>
    obtain ⟨name, v⟩ := m
    obtain ⟨hname, hrest⟩ := List.forall_mem_cons.mp hknown
    obtain ⟨hfresh, hdistinct⟩ := List.nodup_cons.mp honce
    rw [List.map_cons, Fields.ofMembers, ih hrest hdistinct]
    show (if name ∈ names then if name ∈ rest.map (·.1) then none else _ else _) = _
    rw [if_pos hname, if_neg hfresh]

/-- So is a record with some of the known members, in their order. -/
theorem ofRecord_record {names : List String} {strict : Bool} {members : List (String × Value)}
    (hnames : names.Nodup) (h : (members.map (·.1)).Sublist names) :
    Fields.ofRecord names strict (.record members) = some members :=
  ofMembers_record (fun _ hm => h.subset (List.mem_map_of_mem hm)) (hnames.sublist h)

namespace Decode

theorem optional_text (depth : Nat) (o : Option String) :
    optional text depth (.optionalText o) = some o := by
  cases o <;> rfl

/-- A natural number is read back if it is below the limit. -/
theorem natBelow_nat (limit depth : Nat) {n : Nat} (h : n < limit) :
    natBelow limit depth (.nat n) = some n := by
  rw [Value.nat, natBelow, toNat?_ofNat]
  exact if_pos h

/-- A number of 32 bits is always below its limit. -/
theorem uint32_nat (depth : Nat) (n : UInt32) : uint32 depth (.nat n.toNat) = some n := by
  rw [uint32, natBelow_nat _ depth n.toNat_lt, Option.map_some, UInt32.ofNat_toNat]

/-- So is one of 64 bits. -/
theorem uint64_nat (depth : Nat) (n : UInt64) : uint64 depth (.nat n.toNat) = some n := by
  rw [uint64, natBelow_nat _ depth n.toNat_lt, Option.map_some, UInt64.ofNat_toNat]

/-- The same for one that may be missing. -/
theorem optional_uint32 (depth : Nat) (n : UInt32) :
    optional uint32 depth (.nat n.toNat) = some (some n) := by
  have h := uint32_nat depth n
  rw [Value.nat] at h ⊢
  rw [optional, h]
  · rfl
  · exact fun h => by cases h

end Decode

/-! ## Reading back -/

section ReadsBack

variable {α : Type} {d : Decode α} {toJson : α → Value}

/-- What is written is read to what it was written for, if no deeper than may be entered, and
refused otherwise. -/
structure ReadsBack (d : Decode α) (toJson : α → Value) : Prop where
  natural : ∀ x, (toJson x).Natural
  decode : ∀ depth x, d depth (toJson x) = if (toJson x).nesting ≤ depth then some x else none

/-- One more item is read if it is not too deep and the others are not. -/
theorem mapM_cons_of_eq_ite {f : Value → Option α} {v : Value} {rest : List Value} {x : α}
    {xs : List α} {m n depth : Nat} (hv : f v = if m ≤ depth then some x else none)
    (hrest : rest.mapM f = if n ≤ depth then some xs else none) :
    (v :: rest).mapM f = if max m n ≤ depth then some (x :: xs) else none := by
  rw [List.mapM_cons, hv, hrest]
  by_cases hm : m ≤ depth
  · by_cases hn : n ≤ depth
    · rw [if_pos hm, if_pos hn, if_pos (Nat.max_le.mpr ⟨hm, hn⟩)]
      rfl
    · rw [if_pos hm, if_neg hn, if_neg fun h => hn (Nat.max_le.mp h).2]
      rfl
  · rw [if_neg hm, if_neg fun h => hm (Nat.max_le.mp h).1]
    rfl

/-- An array is one level deeper than its items. -/
theorem list_array {items : List Value} {xs : List α}
    (h : ∀ depth, items.mapM (d depth)
      = if Value.nestingOfItems items ≤ depth then some xs else none) (depth : Nat) :
    Decode.list d depth (.array items)
      = if (Value.array items).nesting ≤ depth then some xs else none := by
  cases depth with
  | zero => rfl
  | succ depth =>
    rw [Decode.list, h, Value.nesting]
    simp only [Nat.succ_le_succ_iff]

namespace ReadsBack

/-- A list is read back as deeply as it nests. -/
theorem mapM (h : ReadsBack d toJson) (depth : Nat) (xs : List α) :
    (xs.map toJson).mapM (d depth)
      = if Value.nestingOfItems (xs.map toJson) ≤ depth then some xs else none := by
  induction xs with
  | nil => rfl
  | cons x xs ih => exact mapM_cons_of_eq_ite (h.decode depth x) ih

/-- A list is read back if its items are. -/
theorem list (h : ReadsBack d toJson) :
    ReadsBack (Decode.list d) fun xs => .array (xs.map toJson) where
  natural xs := by
    rw [Value.Natural, Value.allNatural_iff, List.forall_mem_map]
    exact fun x _ => h.natural x
  decode depth xs := list_array (fun depth => h.mapM depth xs) depth

/-- A record is read back if it is read from its members. -/
theorem record {names : List String} {strict : Bool} {f : Fields → Nat → Option α}
    {members : α → List (String × Value)} (hnames : names.Nodup)
    (hsublist : ∀ x, ((members x).map (·.1)).Sublist names)
    (hnatural : ∀ x, ∀ m ∈ members x, m.2.Natural)
    (hf : ∀ depth x, f (members x) depth
      = if (Value.record (members x)).nesting ≤ depth + 1 then some x else none) :
    ReadsBack (Decode.record names strict f) fun x => .record (members x) where
  natural x := Value.natural_record (hnatural x)
  decode depth x := by
    cases depth with
    | zero =>
      have hpos := Value.nesting_record_pos (members x)
      rw [if_neg (by omega)]
      rfl
    | succ depth =>
      rw [Decode.record, ofRecord_record hnames (hsublist x)]
      exact hf depth x

/-- What reads back as a value reads back as a text. -/
theorem run_write (h : ReadsBack d toJson) (layout : Value.Layout) (x : α) :
    d.run ((toJson x).write layout)
      = if (toJson x).nesting ≤ maxNesting then some x else none := by
  rw [Decode.run, Value.parse?_write layout (h.natural x)]
  exact h.decode maxNesting x

end ReadsBack

/-- Whatever is written is read from its texts, unless it is nested too deep, and then it is
refused. So what is read from a text is what the text was written for, and is written as the same
text. -/
structure TextsReadBack (d : Decode α) (toJson : α → Value) : Prop where
  read : ∀ layout x, (toJson x).nesting ≤ maxNesting → d.run ((toJson x).write layout) = some x
  refused : ∀ layout x, maxNesting < (toJson x).nesting → d.run ((toJson x).write layout) = none
  same : ∀ layout x y, d.run ((toJson x).write layout) = some y →
    y = x ∧ (toJson y).write layout = (toJson x).write layout

/-- **What reads back as a value reads back from its texts.** -/
theorem ReadsBack.texts (h : ReadsBack d toJson) : TextsReadBack d toJson where
  read layout x hx := by rw [h.run_write, if_pos hx]
  refused layout x hx := by rw [h.run_write, if_neg (Nat.not_le.mpr hx)]
  same layout x y hy := by
    rw [h.run_write] at hy
    split at hy
    · cases hy
      exact ⟨rfl, rfl⟩
    · cases hy

/-- Each thing in a list that was read was read from an item. -/
theorem exists_of_mem_mapM {depth : Nat} {items : List Value} {xs : List α}
    (h : items.mapM (d depth) = some xs) : ∀ x ∈ xs, ∃ v, d depth v = some x := by
  induction items generalizing xs with
  | nil =>
    cases h
    exact fun x hx => absurd hx List.not_mem_nil
  | cons v rest ih =>
    rw [List.mapM_cons] at h
    obtain ⟨y, hy, hrest⟩ := Option.bind_eq_some_iff.mp h
    obtain ⟨ys, hys, hcons⟩ := Option.bind_eq_some_iff.mp hrest
    cases hcons
    exact List.forall_mem_cons.mpr ⟨⟨v, hy⟩, ih hys⟩

end ReadsBack

/-! ## Numbers of 64 bits are finite -/

namespace Number

/-- More digits make no smaller number. -/
theorem le_foldl_digitValue (digits : List Char) (n : Nat) :
    n ≤ digits.foldl (fun n c => n * 10 + digitValue c) n := by
  induction digits generalizing n with
  | nil => exact Nat.le_refl n
  | cons c digits ih => exact Nat.le_trans (by omega) (ih (n * 10 + digitValue c))

/-- All digits of a number of 64 bits are kept. -/
theorem leading64_of_lt (digits : List Char) (n : Nat)
    (h : digits.foldl (fun n c => n * 10 + digitValue c) n < Nat.pow 2 64) :
    leading64 n digits = (digits.foldl (fun n c => n * 10 + digitValue c) n, []) := by
  induction digits generalizing n with
  | nil => rfl
  | cons c digits ih =>
    have hfirst := Nat.lt_of_le_of_lt (le_foldl_digitValue digits (n * 10 + digitValue c)) h
    rw [leading64, if_pos hfirst, ih _ h]
    rfl

/-- A natural number of 64 bits is read without rounding. -/
theorem scale_ofNat {n : Nat} (h : n < Nat.pow 2 64) : (ofNat n).scale = (n, 0) := by
  have hdigits : ofDigits (Nat.toDigits 10 n) = n := Option.some.inj (toNat?_ofNat n)
  have hkept : leading64 0 (Nat.toDigits 10 n) = (n, []) := by
    rw [leading64_of_lt _ _ (by rw [← ofDigits, hdigits]; exact h), ← ofDigits, hdigits]
  rw [scale, ofNat, hkept]
  rfl

/-- To round adds less than a unit of the last place. -/
theorem round53_le (n : Nat) : round53 n ≤ 2 * n := by
  rw [round53]
  split
  · omega
  · rename_i hlarge
    have hn : n ≠ 0 := fun h => hlarge (by rw [h]; decide)
    have hunit : Nat.pow 2 (n.log2 - 52) ≤ n :=
      Nat.le_trans (Nat.pow_le_pow_right (by decide) (Nat.sub_le ..)) (Nat.log2_self_le hn)
    dsimp only
    -- It is rounded to a multiple of a unit that is no larger than the number.
    generalize Nat.pow 2 (n.log2 - 52) = unit at hunit
    have hq : n / unit * unit ≤ n := Nat.div_mul_le_self n unit
    split
    · rw [Nat.succ_mul]
      omega
    · omega

/-- **A natural number of 64 bits has a finite value.** -/
theorem isFinite_ofNat {n : Nat} (h : n < Nat.pow 2 64) : (ofNat n).isFinite = true := by
  have hround := round53_le n
  have hlimit : 2 * Nat.pow 2 64 ≤ Nat.pow 2 1024 - Nat.pow 2 970 := by decide +kernel
  have hlt : round53 n * round53 (Nat.pow 10 (0 : Int).toNat) < Nat.pow 2 1024 - Nat.pow 2 970 := by
    show round53 n * 1 < _
    omega
  rw [isFinite, scale_ofNat h]
  simp only [hlt, decide_true, Bool.and_true, Bool.or_eq_true]
  exact Or.inr (by decide)

end Number

namespace Value

/-- Members are plain if all names can be decoded and all values are plain. -/
theorem membersArePlain_iff {depth : Nat} {members : List (Option String × Value)} :
    membersArePlain depth members = true
      ↔ ∀ m ∈ members, m.1.isSome = true ∧ m.2.isPlain depth = true := by
  induction members with
  | nil => simp [membersArePlain]
  | cons m rest ih =>
    obtain ⟨name, v⟩ := m
    rw [membersArePlain, Bool.and_eq_true, Bool.and_eq_true, ih, List.forall_mem_cons]

theorem isPlain_nat (depth : Nat) {n : Nat} (h : n < Nat.pow 2 64) :
    (nat n).isPlain depth = true := Number.isFinite_ofNat h

end Value

end GuiTest.Json
