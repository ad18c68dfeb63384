import GuiTest.Proofs.Json.Decode
import GuiTest.Proofs.Json.Grammar

/-!
# Which values are records

A value is a record of some names if it is an object in which no such name comes twice, or an array
of no more items than there are names (`Value.IsRecord`). It holds another under a name as the
member of that name, or as the item at its place (`Value.Holds`). Just the records are taken apart
(`ofRecord_isSome_iff`), and what is then found under a known name is what the record holds under it
(`lookup_ofRecord`). In a value that was read from a text, a natural number is one that is written
as its literal (`natBelow_eq_some_iff`).
-/

namespace GuiTest.Json

namespace Value

/-- Whether a value may be a record of these names. Each name in an object is a text, and no known
name comes twice; an array has no items beyond those that are known. -/
inductive IsRecord (names : List String) : Value → Prop where
  | object {members : List (Option String × Value)} : (∀ m ∈ members, m.1.isSome = true) →
    ((members.filterMap (·.1)).filter (· ∈ names)).Nodup → IsRecord names (.object members)
  | array {items : List Value} : items.length ≤ names.length → IsRecord names (.array items)

/-- What a record holds under a name: a member of that name, or the item at its place. -/
inductive Holds (names : List String) : Value → String → Value → Prop where
  | member {members : List (Option String × Value)} {name : String} {w : Value} :
    (some name, w) ∈ members → Holds names (.object members) name w
  | item {items : List Value} {i : Nat} {name : String} {w : Value} :
    names[i]? = some name → items[i]? = some w → Holds names (.array items) name w

end Value

/-! ## Fields -/

namespace Fields

variable {names : List String}

/-- Where no name comes twice, what is found under a name is what is there under it. -/
theorem lookup_eq_some_iff_mem {fields : Fields} (h : (fields.map (·.1)).Nodup) {name : String}
    {w : Value} : fields.lookup name = some w ↔ (name, w) ∈ fields := by
  induction fields with
  | nil => simp
  | cons field fields ih =>
    obtain ⟨other, v⟩ := field
    obtain ⟨hfresh, hothers⟩ := List.nodup_cons.mp h
    by_cases hname : name = other
    · subst hname
      have habsent : (name, w) ∉ fields := fun hw => hfresh (List.mem_map.mpr ⟨_, hw, rfl⟩)
      simp [habsent, eq_comm]
    · have htest : (name == other) = false := beq_eq_false_iff_ne.mpr hname
      simp [List.lookup_cons, htest, hname, ih hothers]

/-- The members that are taken out of an object are those with known names, and they come once. -/
theorem ofMembers_sound {members : List (Option String × Value)} {fields : Fields}
    (h : ofMembers names false members = some fields) :
    (∀ m ∈ members, m.1.isSome = true) ∧ (fields.map (·.1)).Nodup
      ∧ fields.map (·.1) = (members.filterMap (·.1)).filter (· ∈ names)
      ∧ ∀ name ∈ names, ∀ w, (name, w) ∈ fields ↔ (some name, w) ∈ members := by
  induction members generalizing fields with
  | nil =>
    cases h
    simp
  | cons m members ih =>
    obtain ⟨name?, v⟩ := m
    cases name? with
    | none => cases h
    | some name =>
      obtain ⟨others, hothers, h⟩ := Option.bind_eq_some_iff.mp h
      obtain ⟨htexts, honce, hnames, hholds⟩ := ih hothers
      have htexts' : ∀ m ∈ (some name, v) :: members, m.1.isSome = true :=
        List.forall_mem_cons.mpr ⟨rfl, htexts⟩
      -- A name that is known must be new here; any other is passed over.
      split at h
      next hknown =>
        split at h
        next => cases h
        next hfresh =>
          cases h
          refine ⟨htexts', List.nodup_cons.mpr ⟨hfresh, honce⟩, ?_, fun known hmem w => ?_⟩
          · simp [hknown, hnames]
          · simp [hholds known hmem w]
      next hunknown =>
        cases h
        refine ⟨htexts', honce, ?_, fun known hmem w => ?_⟩
        · simp [hunknown, hnames]
        · have hne : known ≠ name := fun heq => hunknown (heq ▸ hmem)
          simp [hholds known hmem w, hne]

/-- An object whose names are texts, and whose known names come once, is taken apart. -/
theorem ofMembers_complete {members : List (Option String × Value)}
    (htexts : ∀ m ∈ members, m.1.isSome = true)
    (honce : ((members.filterMap (·.1)).filter (· ∈ names)).Nodup) :
    ∃ fields, ofMembers names false members = some fields := by
  induction members with
  | nil => exact ⟨[], rfl⟩
  | cons m members ih =>
    obtain ⟨name?, v⟩ := m
    obtain ⟨htext, hothers⟩ := List.forall_mem_cons.mp htexts
    cases name? with
    | none => cases htext
    | some name =>
      by_cases hknown : name ∈ names
      · have honce' : name ∉ (members.filterMap (·.1)).filter (· ∈ names)
            ∧ ((members.filterMap (·.1)).filter (· ∈ names)).Nodup := by
          simpa [hknown] using honce
        obtain ⟨fields, hfields⟩ := ih hothers honce'.2
        have hfresh : name ∉ fields.map (·.1) := by
          rw [(ofMembers_sound hfields).2.2.1]
          exact honce'.1
        refine ⟨(name, v) :: fields, ?_⟩
        rw [ofMembers, hfields]
        show (if name ∈ names then if name ∈ fields.map (·.1) then none else _ else _) = _
        rw [if_pos hknown, if_neg hfresh]
      · have honce' : ((members.filterMap (·.1)).filter (· ∈ names)).Nodup := by
          simpa [hknown] using honce
        obtain ⟨fields, hfields⟩ := ih hothers honce'
        refine ⟨fields, ?_⟩
        rw [ofMembers, hfields]
        show (if name ∈ names then _ else some fields) = _
        rw [if_neg hknown]

/-- **Just the records are taken apart.** -/
theorem ofRecord_isSome_iff {v : Value} :
    (∃ fields, ofRecord names false v = some fields) ↔ v.IsRecord names := by
  constructor
  · rintro ⟨fields, h⟩
    unfold ofRecord at h
    split at h
    next members =>
      obtain ⟨htexts, honce, hnames, -⟩ := ofMembers_sound h
      exact .object htexts (hnames ▸ honce)
    next items =>
      split at h
      next hlength => exact .array hlength
      next => cases h
    next => cases h
  · intro h
    cases h with
    | object htexts honce => exact ofMembers_complete htexts honce
    | array hlength => exact ⟨_, if_pos hlength⟩

/-- **What is found under a known name is what the record holds under it.** -/
theorem lookup_ofRecord {v : Value} {fields : Fields} (hnames : names.Nodup)
    (h : ofRecord names false v = some fields) {name : String} (hname : name ∈ names) {w : Value} :
    fields.lookup name = some w ↔ v.Holds names name w := by
  unfold ofRecord at h
  split at h
  next members =>
    obtain ⟨-, honce, -, hholds⟩ := ofMembers_sound h
    rw [lookup_eq_some_iff_mem honce, hholds name hname w]
    exact ⟨.member, fun h => by cases h with | member h => exact h⟩
  next items =>
    split at h
    next hlength =>
      cases h
      have honce : ((names.zip items).map (·.1)).Nodup := by
        rw [List.zip_eq_zip_take_min, List.map_fst_zip (by simp)]
        exact hnames.sublist (List.take_sublist _ _)
      rw [lookup_eq_some_iff_mem honce, List.mem_iff_getElem?]
      constructor
      · rintro ⟨i, hi⟩
        obtain ⟨hname, hitem⟩ := List.getElem?_zip_eq_some.mp hi
        exact .item hname hitem
      · intro h
        cases h with
        | item hname hitem => exact ⟨_, List.getElem?_zip_eq_some.mpr ⟨hname, hitem⟩⟩
    next => cases h
  next => cases h

section Optional

variable {α : Type} {d : Decode α} {toJson : α → Value} {v : Value} {fields : Fields}
  {name : String} {depth : Nat} {absent : α}

/-- **A member that may be absent** is read as what it was written for, or as what stands for its
absence, if what is held under its name is read from nothing but what is written for it. -/
theorem optional_ofRecord_iff (hnames : names.Nodup) (h : ofRecord names false v = some fields)
    (hname : name ∈ names)
    (hd : ∀ w, v.Holds names name w → ∀ x, d depth w = some x ↔ w = toJson x) {x : α} :
    fields.optional name d absent depth = some x
      ↔ (∀ w, v.Holds names name w → w = toJson x)
        ∧ ((∀ w, ¬ v.Holds names name w) → x = absent) := by
  have hlookup (w : Value) := lookup_ofRecord hnames h hname (w := w)
  unfold optional
  cases hfound : fields.lookup name with
  | none =>
    have hnone (w : Value) : ¬ v.Holds names name w := fun hw => by
      rw [← hlookup, hfound] at hw
      cases hw
    simp [hnone, eq_comm]
  | some w =>
    have hw : v.Holds names name w := (hlookup w).mp hfound
    have honly (w' : Value) (hw' : v.Holds names name w') : w' = w := by
      rw [← hlookup, hfound] at hw'
      exact (Option.some.inj hw').symm
    constructor
    · intro hx
      exact ⟨fun w' hw' => (honly w' hw').trans ((hd w hw x).mp hx),
        fun hnone => absurd hw (hnone w)⟩
    · intro hx
      exact (hd w hw x).mpr (hx.1 w hw)

/-- Such a member is read if what is held under its name was written for something. -/
theorem exists_optional_ofRecord (hnames : names.Nodup) (h : ofRecord names false v = some fields)
    (hname : name ∈ names)
    (hd : ∀ w, v.Holds names name w → ∃ x, d depth w = some x) :
    ∃ x, fields.optional name d absent depth = some x := by
  unfold optional
  cases hfound : fields.lookup name with
  | none => exact ⟨absent, rfl⟩
  | some w => exact hd w ((lookup_ofRecord hnames h hname).mp hfound)

end Optional

end Fields

/-! ## Natural numbers -/

namespace Value

/-- The tokens of an item are among those of the items. -/
theorem subset_moreItems {items : List Value} {w : Value} (hw : w ∈ items) :
    w.tokens ⊆ moreItems items := by
  induction items with
  | nil => cases hw
  | cons v items ih =>
    intro t ht
    rw [moreItems]
    rcases List.mem_cons.mp hw with rfl | hw
    · simp [ht]
    · simp [ih hw ht]

/-- The tokens of a value are among those of the members. -/
theorem subset_moreMembers {members : List (Option String × Value)} {m : Option String × Value}
    (hm : m ∈ members) : m.2.tokens ⊆ moreMembers members := by
  induction members with
  | nil => cases hm
  | cons other members ih =>
    intro t ht
    rw [moreMembers]
    rcases List.mem_cons.mp hm with rfl | hm
    · simp [ht]
    · simp [ih hm ht]

/-- The same with the first item. -/
theorem subset_itemTokens {items : List Value} {w : Value} (hw : w ∈ items) :
    w.tokens ⊆ itemTokens items := by
  intro t ht
  cases hw with
  | head => simp [itemTokens, ht]
  | tail _ hw => simp [itemTokens, subset_moreItems hw ht]

/-- The same with the first member. -/
theorem subset_memberTokens {members : List (Option String × Value)} {m : Option String × Value}
    (hm : m ∈ members) : m.2.tokens ⊆ memberTokens members := by
  intro t ht
  cases hm with
  | head => simp [memberTokens, ht]
  | tail _ hm => simp [memberTokens, subset_moreMembers hm ht]

/-- The tokens of what a record holds are among its own. -/
theorem Holds.subset {names : List String} {v w : Value} {name : String}
    (h : v.Holds names name w) : w.tokens ⊆ v.tokens := by
  intro t ht
  cases h with
  | member hm => simp [tokens, subset_memberTokens hm ht]
  | item _ hitem => simp [tokens, subset_itemTokens (List.mem_of_getElem? hitem) ht]

/-- What stands in a text and is read as a natural number is the literal of that number. -/
def Canonical (w : Value) : Prop :=
  ∀ n k, w = .number n → n.toNat? = some k → n = .ofNat k

/-- The numbers in a text are written as they must be. -/
theorem IsText.canonical {s : String} {names : List String} {v w : Value} {name : String}
    (h : v.IsText s) (hw : v.Holds names name w) : w.Canonical := by
  rintro n k rfl hk
  obtain ⟨run, hrun⟩ := SpellsAll.spells h _ (hw.subset List.mem_cons_self)
  cases hrun with
  | number hnumber => exact hnumber.eq_ofNat hk

end Value

namespace Decode

/-- **A number below a limit is read from its literal only.** -/
theorem natBelow_eq_some_iff {limit depth n : Nat} {w : Value} (hw : w.Canonical) :
    natBelow limit depth w = some n ↔ n < limit ∧ w = .nat n := by
  constructor
  · intro h
    cases w with
    | number m =>
      rw [natBelow] at h
      split at h
      next k hk =>
        split at h
        next hlt =>
          cases h
          exact ⟨hlt, congrArg Value.number (hw m n rfl hk)⟩
        next => cases h
      next => cases h
    | _ => cases h
  · rintro ⟨hlt, rfl⟩
    exact natBelow_nat limit depth hlt

/-- Of numbers that are written in one way, only the number itself is read as such. -/
theorem uint32_eq_some_iff {depth : Nat} {n : UInt32} {w : Value} (hw : w.Canonical) :
    uint32 depth w = some n ↔ w = .nat n.toNat := by
  rw [uint32, Option.map_eq_some_iff]
  constructor
  · rintro ⟨k, hk, rfl⟩
    obtain ⟨hlt, rfl⟩ := (natBelow_eq_some_iff hw).mp hk
    rw [UInt32.toNat_ofNat_of_lt' hlt]
  · rintro rfl
    exact ⟨n.toNat, natBelow_nat _ depth n.toNat_lt, UInt32.ofNat_toNat⟩

/-- The same with 64 bits. -/
theorem uint64_eq_some_iff {depth : Nat} {n : UInt64} {w : Value} (hw : w.Canonical) :
    uint64 depth w = some n ↔ w = .nat n.toNat := by
  rw [uint64, Option.map_eq_some_iff]
  constructor
  · rintro ⟨k, hk, rfl⟩
    obtain ⟨hlt, rfl⟩ := (natBelow_eq_some_iff hw).mp hk
    rw [UInt64.toNat_ofNat_of_lt' hlt]
  · rintro rfl
    exact ⟨n.toNat, natBelow_nat _ depth n.toNat_lt, UInt64.ofNat_toNat⟩

end Decode

end GuiTest.Json
