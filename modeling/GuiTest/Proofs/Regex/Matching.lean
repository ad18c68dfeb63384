import Mathlib.Data.List.Basic
import GuiTest.Regex.Pattern

/-!
# The matcher finds what a pattern spans

`ends` works on sets of positions, `Spans` relates two positions. `Follows` joins them: a step on
sets follows a relation on positions if it leads to exactly the positions that the relation reaches
from the set. Each constructor of a pattern keeps this (`ends_follows`); the one with an argument in
it is repetition, where the set grows until nothing is new. Every round that is not the last adds a
position, so as many rounds as there are positions reach all there is to reach (`grow_closed`).
-/

namespace GuiTest.Regex.Pattern

/-! ## Sets of positions -/

namespace Positions

variable {s t : Positions} {i : Nat}

/-- The position is in the set. -/
def Has (s : Positions) (i : Nat) : Prop := s[i]? = some true

theorem Has.lt_length (h : s.Has i) : i < s.length :=
  (List.getElem?_eq_some_iff.mp h).1

theorem has_replicate {n : Nat} : Has (List.replicate n true) i ↔ i < n := by
  simp [Has, List.getElem?_replicate]

theorem any_id_iff : s.any id = true ↔ ∃ i, s.Has i := by
  simp only [List.any_eq_true, id_eq, exists_eq_right, Has]
  exact List.mem_iff_getElem?

@[simp] theorem length_union (h : s.length = t.length) : (s.union t).length = s.length := by
  simp [union, h]

/-- The union has the positions of both. -/
theorem has_union (h : s.length = t.length) : (s.union t).Has i ↔ s.Has i ∨ t.Has i := by
  simp only [Has, union, List.getElem?_zipWith]
  by_cases hi : i < s.length
  · simp [List.getElem?_eq_getElem hi, List.getElem?_eq_getElem (h ▸ hi)]
  · simp [List.getElem?_eq_none (Nat.not_lt.mp hi), List.getElem?_eq_none (h ▸ Nat.not_lt.mp hi)]

theorem union_cons (a b : Bool) (s t : Positions) :
    union (a :: s) (b :: t) = (a || b) :: s.union t := rfl

theorem count_bit_le (a b : Bool) :
    (if (a || b) == false then 1 else 0) ≤ if a == false then 1 else 0 := by
  cases a <;> cases b <;> decide

/-- A union leaves out no more positions. -/
theorem count_union_le : ∀ {s t : Positions}, s.length = t.length →
    (union s t).count false ≤ s.count false
  | [], [], _ => Nat.le_refl _
  | a :: s, b :: t, h => by
    rw [union_cons, List.count_cons, List.count_cons]
    exact Nat.add_le_add (count_union_le (Nat.succ.inj h)) (count_bit_le a b)

/-- A union that is not the first set leaves out fewer positions. -/
theorem count_union_lt : ∀ {s t : Positions}, s.length = t.length → union s t ≠ s →
    (union s t).count false < s.count false
  | [], [], _, hne => absurd rfl hne
  | a :: s, b :: t, h, hne => by
    rw [union_cons, List.count_cons, List.count_cons]
    by_cases hst : union s t = s
    · -- Nothing is new in the rest, so it is the first position that is.
      have hbit : (a || b) ≠ a := fun he => hne (by rw [union_cons, he, hst])
      obtain ⟨rfl, rfl⟩ : a = false ∧ b = true := by
        revert hbit
        cases a <;> cases b <;> decide
      exact Nat.lt_succ_of_le (count_union_le (Nat.succ.inj h))
    · exact Nat.add_lt_add_of_lt_of_le (count_union_lt (Nat.succ.inj h) hst) (count_bit_le a b)

/-! ## Steps on sets and relations on positions -/

/-- So many steps of a relation. -/
inductive Steps (R : Nat → Nat → Prop) : Nat → Nat → Nat → Prop where
  | zero {i : Nat} : Steps R 0 i i
  | succ {k i j l : Nat} : R i j → Steps R k j l → Steps R (k + 1) i l

variable {step : Positions → Positions} {R : Nat → Nat → Prop} {n : Nat}

/-- So many steps and then so many are the sum of steps. -/
theorem steps_add_iff {a b i l : Nat} :
    Steps R (a + b) i l ↔ ∃ j, Steps R a i j ∧ Steps R b j l := by
  induction a generalizing i with
  | zero =>
    rw [Nat.zero_add]
    refine ⟨fun h => ⟨i, .zero, h⟩, ?_⟩
    rintro ⟨j, ⟨⟩, h⟩
    exact h
  | succ a ih =>
    rw [Nat.succ_add]
    constructor
    · rintro ⟨⟩
      rename_i j hij hjl
      obtain ⟨m, hjm, hml⟩ := ih.mp hjl
      exact ⟨m, .succ hij hjm, hml⟩
    · rintro ⟨m, ⟨⟩, hml⟩
      rename_i j hij hjm
      exact .succ hij (ih.mpr ⟨m, hjm, hml⟩)

/-- The step leads from every set of `n` positions to exactly those that the relation reaches. -/
def Follows (n : Nat) (step : Positions → Positions) (R : Nat → Nat → Prop) : Prop :=
  ∀ s : Positions, s.length = n →
    (step s).length = n ∧ ∀ j, (step s).Has j ↔ ∃ i, s.Has i ∧ R i j

/-- Only the positions below the length count for a relation that a step follows. -/
theorem Follows.congr {S : Nat → Nat → Prop} (h : Follows n step R)
    (hRS : ∀ i j, i < n → (R i j ↔ S i j)) : Follows n step S := by
  intro s hs
  obtain ⟨hlen, hhas⟩ := h s hs
  refine ⟨hlen, fun j => (hhas j).trans ⟨?_, ?_⟩⟩
  · rintro ⟨i, hi, hij⟩
    exact ⟨i, hi, (hRS i j (hs ▸ hi.lt_length)).mp hij⟩
  · rintro ⟨i, hi, hij⟩
    exact ⟨i, hi, (hRS i j (hs ▸ hi.lt_length)).mpr hij⟩

/-- One step after another follows one relation after the other. -/
theorem Follows.comp {step' : Positions → Positions} {R' : Nat → Nat → Prop}
    (h : Follows n step R) (h' : Follows n step' R') :
    Follows n (fun s => step' (step s)) (fun i k => ∃ j, R i j ∧ R' j k) := by
  intro s hs
  obtain ⟨hlen, hhas⟩ := h s hs
  obtain ⟨hlen', hhas'⟩ := h' _ hlen
  refine ⟨hlen', fun k => ?_⟩
  simp only [hhas', hhas]
  exact ⟨fun ⟨j, ⟨i, hi, hij⟩, hjk⟩ => ⟨i, hi, j, hij, hjk⟩,
    fun ⟨i, hi, j, hij, hjk⟩ => ⟨j, ⟨i, hi, hij⟩, hjk⟩⟩

/-- So many steps follow so many steps of the relation. -/
theorem Follows.times (h : Follows n step R) : ∀ k, Follows n (times step k) (Steps R k)
  | 0 => fun s hs => ⟨hs, fun j =>
    ⟨fun hj => ⟨j, hj, .zero⟩, by rintro ⟨i, hi, ⟨⟩⟩; exact hi⟩⟩
  | k + 1 => by
    intro s hs
    obtain ⟨hlen, hhas⟩ := h.comp (h.times k) s hs
    refine ⟨hlen, fun l => (hhas l).trans ⟨?_, ?_⟩⟩
    · rintro ⟨i, hi, j, hij, hjl⟩
      exact ⟨i, hi, .succ hij hjl⟩
    · rintro ⟨i, hi, ⟨⟩⟩
      exact ⟨i, hi, _, ‹_›, ‹_›⟩

/-- What the relation does not leave, it does not leave in any number of steps. -/
theorem Has.steps {k j : Nat} (hclosed : ∀ i j, s.Has i → R i j → s.Has j) (hi : s.Has i)
    (h : Steps R k i j) : s.Has j := by
  induction h with
  | zero => exact hi
  | succ hij _ ih => exact ih (hclosed _ _ hi hij)

/-- A set to which a step adds nothing is closed. -/
theorem Follows.closed_of_union_eq (h : Follows n step R) (hs : s.length = n)
    (heq : s.union (step s) = s) : ∀ i j, s.Has i → R i j → s.Has j := by
  intro i j hi hij
  obtain ⟨hlen, hhas⟩ := h s hs
  rw [← heq]
  exact (has_union (hs.trans hlen.symm)).mpr (.inr ((hhas j).mpr ⟨i, hi, hij⟩))

/-- The growing set has what up to so many steps reach. -/
theorem Follows.grow (h : Follows n step R) :
    ∀ k, Follows n (grow step k) (fun i j => ∃ m ≤ k, Steps R m i j)
  | 0 => fun s hs => ⟨hs, fun j => ⟨fun hj => ⟨j, hj, 0, Nat.le_refl 0, .zero⟩, by
      rintro ⟨i, hi, m, hm, hij⟩
      obtain rfl : m = 0 := Nat.le_zero.mp hm
      cases hij
      exact hi⟩⟩
  | k + 1 => by
    intro s hs
    obtain ⟨hlen, hhas⟩ := h s hs
    have hsame : s.length = (step s).length := hs.trans hlen.symm
    by_cases heq : s.union (step s) = s
    · -- The round adds nothing, so the set is closed and the rounds left out would add nothing.
      rw [show Positions.grow step (k + 1) s = s from if_pos heq]
      refine ⟨hs, fun j => ⟨fun hj => ⟨j, hj, 0, Nat.zero_le _, .zero⟩, ?_⟩⟩
      rintro ⟨i, hi, m, -, hij⟩
      exact hi.steps (h.closed_of_union_eq hs heq) hij
    · rw [show Positions.grow step (k + 1) s = Positions.grow step k (s.union (step s)) from
        if_neg heq]
      obtain ⟨hlen', hhas'⟩ := h.grow k _ ((length_union hsame).trans hs)
      refine ⟨hlen', fun l => (hhas' l).trans ⟨?_, ?_⟩⟩
      · rintro ⟨j, hj, m, hm, hjl⟩
        rcases (has_union hsame).mp hj with hj | hj
        · exact ⟨j, hj, m, by omega, hjl⟩
        · obtain ⟨i, hi, hij⟩ := (hhas j).mp hj
          exact ⟨i, hi, m + 1, by omega, .succ hij hjl⟩
      · rintro ⟨i, hi, m, hm, hil⟩
        cases hil with
        | zero => exact ⟨_, (has_union hsame).mpr (.inl hi), 0, Nat.zero_le _, .zero⟩
        | @succ m _ j _ hij hjl =>
          have hj : (step s).Has j := (hhas j).mpr ⟨i, hi, hij⟩
          exact ⟨j, (has_union hsame).mpr (.inr hj), m, by omega, hjl⟩

/-- With a round for each position that is not in the set yet, nothing is left to reach. -/
theorem Follows.grow_closed (h : Follows n step R) :
    ∀ {k : Nat} {s : Positions}, s.length = n → s.count false ≤ k →
      ∀ i j, (Positions.grow step k s).Has i → R i j → (Positions.grow step k s).Has j
  | 0, s, hs, hk => by
    -- No position is left out, so the one that is reached is in the set.
    intro i j hi hij
    obtain ⟨hlen, hhas⟩ := h s hs
    have hj : j < s.length := hs ▸ hlen ▸ ((hhas j).mpr ⟨i, hi, hij⟩).lt_length
    have hnone : false ∉ s := List.count_eq_zero.mp (Nat.le_zero.mp hk)
    have hmem : s[j] ≠ false := fun he => hnone (he ▸ List.getElem_mem hj)
    exact List.getElem?_eq_some_iff.mpr ⟨hj, (Bool.not_eq_false _).mp hmem⟩
  | k + 1, s, hs, hk => by
    have hsame : s.length = (step s).length := hs.trans (h s hs).1.symm
    by_cases heq : s.union (step s) = s
    · rw [show Positions.grow step (k + 1) s = s from if_pos heq]
      exact h.closed_of_union_eq hs heq
    · rw [show Positions.grow step (k + 1) s = Positions.grow step k (s.union (step s)) from
        if_neg heq]
      have := count_union_lt hsame heq
      exact h.grow_closed ((length_union hsame).trans hs) (by omega)

/-- As many rounds as there are positions reach all there is to reach. -/
theorem Follows.grow_all (h : Follows n step R) :
    Follows n (Positions.grow step n) (fun i j => ∃ m, Steps R m i j) := by
  intro s hs
  obtain ⟨hlen, hhas⟩ := h.grow n s hs
  refine ⟨hlen, fun j => (hhas j).trans ⟨?_, ?_⟩⟩
  · rintro ⟨i, hi, m, -, hij⟩
    exact ⟨i, hi, m, hij⟩
  · rintro ⟨i, hi, m, hij⟩
    have hi' : (Positions.grow step n s).Has i := (hhas i).mpr ⟨i, hi, 0, Nat.zero_le n, .zero⟩
    have hcount : s.count false ≤ n := hs ▸ List.count_le_length
    exact (hhas j).mp (hi'.steps (h.grow_closed hs hcount) hij)

/-- So many steps, and then as many as there may be. -/
theorem Follows.atLeast (h : Follows n step R) (least : Nat) :
    Follows n (fun s => Positions.grow step n (Positions.times step least s))
      fun i j => ∃ k, least ≤ k ∧ Steps R k i j := by
  refine ((h.times least).comp h.grow_all).congr fun i j _ => ⟨?_, ?_⟩
  · rintro ⟨l, hleast, m, hm⟩
    exact ⟨least + m, Nat.le_add_right _ _, steps_add_iff.mpr ⟨l, hleast, hm⟩⟩
  · rintro ⟨k, hk, hij⟩
    obtain ⟨m, rfl⟩ := Nat.exists_eq_add_of_le hk
    obtain ⟨l, hleast, hm⟩ := steps_add_iff.mp hij
    exact ⟨l, hleast, m, hm⟩

/-- So many steps, and then up to so many more. -/
theorem Follows.between (h : Follows n step R) {least most : Nat} (hle : least ≤ most) :
    Follows n (fun s => Positions.grow step (most - least) (Positions.times step least s))
      fun i j => ∃ k, least ≤ k ∧ k ≤ most ∧ Steps R k i j := by
  refine ((h.times least).comp (h.grow (most - least))).congr fun i j _ => ⟨?_, ?_⟩
  · rintro ⟨l, hleast, m, hbound, hm⟩
    exact ⟨least + m, Nat.le_add_right _ _, by omega, steps_add_iff.mpr ⟨l, hleast, hm⟩⟩
  · rintro ⟨k, hk, hbound, hij⟩
    obtain ⟨m, rfl⟩ := Nat.exists_eq_add_of_le hk
    obtain ⟨l, hleast, hm⟩ := steps_add_iff.mp hij
    exact ⟨l, hleast, m, by omega, hm⟩

end Positions

/-! ## What patterns span -/

variable {text : List Char} {p q : Pattern} {i j : Nat}

/-- No repetition of the pattern has a lower bound above its upper one. -/
def BoundsOrdered : Pattern → Prop
  | .empty | .one _ | .look _ => True
  | .seq p q | .alt p q => BoundsOrdered p ∧ BoundsOrdered q
  | .repeated p least most => BoundsOrdered p ∧ ∀ m ∈ most, least ≤ m

/-- A text has one gap more than characters. -/
theorem length_listFrom : ∀ (before : Option Char) (text : List Char),
    (Gap.listFrom before text).length = text.length + 1
  | _, [] => rfl
  | _, c :: rest => congrArg (· + 1) (length_listFrom (some c) rest)

/-- Matches lie within the text. -/
theorem Spans.le_length (h : p.Spans text i j) : i ≤ text.length ∧ j ≤ text.length := by
  induction h with
  | empty h | stop h => exact ⟨h, h⟩
  | one h _ =>
    have := (List.getElem?_eq_some_iff.mp h).1
    exact ⟨Nat.le_of_lt this, this⟩
  | look h _ =>
    have := (List.getElem?_eq_some_iff.mp h).1
    rw [Gap.list, length_listFrom] at this
    omega
  | left _ ih | right _ ih => exact ih
  | seq _ _ ih ih' | more _ _ _ ih ih' => exact ⟨ih.1, ih'.2⟩

/-- A repetition spans what so many matches in a row span, for a number within its bounds. -/
theorem spans_repeated_iff {least : Nat} {most : Option Nat} :
    (Pattern.repeated p least most).Spans text i j ↔
      i ≤ text.length ∧
        ∃ k, least ≤ k ∧ (∀ m ∈ most, k ≤ m) ∧ Positions.Steps (p.Spans text) k i j := by
  constructor
  · intro h
    refine ⟨h.le_length.1, ?_⟩
    -- Each round leaves smaller bounds for the rest, so these are not fixed.
    generalize hr : Pattern.repeated p least most = r at h
    induction h generalizing least most with
    | stop _ =>
      cases hr
      exact ⟨0, Nat.le_refl 0, fun m _ => Nat.zero_le m, .zero⟩
    | more hmost hfirst hrest _ ih =>
      cases hr
      obtain ⟨k, hleast, hk, hsteps⟩ := ih rfl
      refine ⟨k + 1, by omega, fun m hm => ?_, .succ hfirst hsteps⟩
      cases hm
      have := hk (m - 1) rfl
      have : m ≠ 0 := fun h0 => hmost (congrArg some h0)
      omega
    | _ => cases hr
  · rintro ⟨hi, k, hleast, hk, hsteps⟩
    induction hsteps generalizing least most with
    | zero =>
      obtain rfl : least = 0 := Nat.le_zero.mp hleast
      exact .stop hi
    | succ hfirst _ ih =>
      refine .more (fun h0 => absurd (hk 0 h0) (by omega)) hfirst
        (ih hfirst.le_length.2 (by omega) fun m hm => ?_)
      obtain ⟨m', hm', rfl⟩ := Option.map_eq_some_iff.mp hm
      have := hk m' hm'
      omega

/-! ## The ends of a text -/

/-- The neighbours of a gap are the characters before and after it. -/
theorem getElem?_listFrom (before : Option Char) (text : List Char) {i : Nat}
    (h : i ≤ text.length) :
    (Gap.listFrom before text)[i]? = some ⟨if i = 0 then before else text[i - 1]?, text[i]?⟩ := by
  induction text generalizing before i with
  | nil =>
    obtain rfl : i = 0 := Nat.le_zero.mp h
    rfl
  | cons c rest ih =>
    cases i with
    | zero => rfl
    | succ i =>
      rw [Gap.listFrom, List.getElem?_cons_succ, ih (some c) (Nat.le_of_succ_le_succ h)]
      cases i <;> rfl

/-- A condition takes nothing, and is asked of the neighbours. -/
theorem spans_look_iff {condition : Look} :
    (Pattern.look condition).Spans text i j ↔ i = j ∧ i ≤ text.length ∧
      condition.holds ⟨if i = 0 then none else text[i - 1]?, text[i]?⟩ = true := by
  constructor
  · intro h
    have hle := h.le_length.1
    cases h with
    | look hg hholds =>
      rw [Gap.list, getElem?_listFrom none text hle] at hg
      cases hg
      exact ⟨rfl, hle, hholds⟩
  · rintro ⟨rfl, hle, hholds⟩
    exact .look (getElem?_listFrom none text hle) hholds

/-- The beginning of a text is its first position. -/
theorem spans_textStart_iff : (Pattern.look .textStart).Spans text i j ↔ i = 0 ∧ j = 0 := by
  rw [spans_look_iff]
  constructor
  · rintro ⟨rfl, hle, hholds⟩
    have : i = 0 := by
      by_contra hne
      rw [Look.holds, if_neg hne, List.getElem?_eq_getElem (by omega)] at hholds
      cases hholds
    exact ⟨this, this⟩
  · rintro ⟨rfl, rfl⟩
    exact ⟨rfl, Nat.zero_le _, rfl⟩

/-- The end is its last. -/
theorem spans_textEnd_iff :
    (Pattern.look .textEnd).Spans text i j ↔ i = text.length ∧ j = text.length := by
  rw [spans_look_iff]
  constructor
  · rintro ⟨rfl, hle, hholds⟩
    have : i = text.length := by
      by_contra hne
      rw [Look.holds, List.getElem?_eq_getElem (show i < text.length by omega)] at hholds
      cases hholds
    exact ⟨this, this⟩
  · rintro ⟨rfl, rfl⟩
    exact ⟨rfl, Nat.le_refl _, by simp [Look.holds]⟩

/-! ## The matcher -/

open Positions in
/-- From the positions where a match may begin the matcher finds those where it may end. -/
theorem ends_follows (hp : p.BoundsOrdered) :
    Follows (text.length + 1) (ends text p) (p.Spans text) := by
  -- The matcher works on all positions at once, so each case is about sets of them.
  induction p with
  | empty =>
    intro s hs
    refine ⟨hs, fun j => ⟨fun hj => ⟨j, hj, .empty ?_⟩, ?_⟩⟩
    · exact Nat.le_of_lt_succ (Nat.lt_of_lt_of_eq hj.lt_length hs)
    · rintro ⟨i, hi, ⟨⟩⟩
      exact hi
  | one set =>
    intro s hs
    refine ⟨by simp [ends, hs], fun j => ⟨?_, ?_⟩⟩
    · intro hj
      cases j with
      | zero => cases hj
      | succ j =>
        obtain ⟨c, b, hc, hb, h⟩ := List.getElem?_zipWith_eq_some.mp hj
        obtain ⟨rfl, hset⟩ := Bool.and_eq_true_iff.mp h
        exact ⟨j, hb, .one hc hset⟩
    · rintro ⟨i, hi, hij⟩
      cases hij with
      | @one _ _ c hc hset =>
        exact List.getElem?_zipWith_eq_some.mpr ⟨c, true, hc, hi, hset⟩
  | look condition =>
    intro s hs
    refine ⟨by simp [ends, hs, Gap.list, length_listFrom], fun j => ⟨?_, ?_⟩⟩
    · intro hj
      obtain ⟨g, b, hg, hb, h⟩ := List.getElem?_zipWith_eq_some.mp hj
      obtain ⟨rfl, hholds⟩ := Bool.and_eq_true_iff.mp h
      exact ⟨j, hb, .look hg hholds⟩
    · rintro ⟨i, hi, hij⟩
      cases hij with
      | @look _ _ g hg hholds =>
        exact List.getElem?_zipWith_eq_some.mpr ⟨g, true, hg, hi, hholds⟩
  | seq p q ihp ihq =>
    refine ((ihp hp.1).comp (ihq hp.2)).congr fun i k _ => ⟨?_, ?_⟩
    · rintro ⟨j, hij, hjk⟩
      exact .seq hij hjk
    · rintro ⟨⟩
      exact ⟨_, ‹_›, ‹_›⟩
  | alt p q ihp ihq =>
    intro s hs
    obtain ⟨hplen, hphas⟩ := ihp hp.1 s hs
    obtain ⟨hqlen, hqhas⟩ := ihq hp.2 s hs
    have hsame := hplen.trans hqlen.symm
    refine ⟨(length_union hsame).trans hplen, fun j => ?_⟩
    rw [ends, has_union hsame, hphas, hqhas, ← exists_or]
    refine exists_congr fun i => ⟨?_, ?_⟩
    · rintro (⟨hi, h⟩ | ⟨hi, h⟩)
      · exact ⟨hi, .left h⟩
      · exact ⟨hi, .right h⟩
    · rintro ⟨hi, h | h⟩
      · exact .inl ⟨hi, ‹_›⟩
      · exact .inr ⟨hi, ‹_›⟩
  | repeated p least most ih =>
    -- Without a bound, rounds are made until the set of positions no longer grows.
    have hstep := ih hp.1
    cases most with
    | none =>
      refine (hstep.atLeast least).congr fun i j hi => ?_
      rw [spans_repeated_iff, and_iff_right (Nat.le_of_lt_succ hi)]
      simp
    | some most =>
      refine (hstep.between (hp.2 most rfl)).congr fun i j hi => ?_
      rw [spans_repeated_iff, and_iff_right (Nat.le_of_lt_succ hi)]
      simp

/-- The matcher finds a pattern in a text if and only if the pattern spans some part of it. -/
theorem occursIn_iff (hp : p.BoundsOrdered) :
    p.occursIn text = true ↔ ∃ i j, p.Spans text i j := by
  obtain ⟨-, hhas⟩ := ends_follows hp _ (List.length_replicate (n := text.length + 1) (a := true))
  rw [occursIn, Positions.any_id_iff, exists_comm]
  refine exists_congr fun j => (hhas j).trans (exists_congr fun i => ?_)
  rw [Positions.has_replicate]
  exact and_iff_right_of_imp fun h => Nat.lt_succ_of_le h.le_length.1

end GuiTest.Regex.Pattern
