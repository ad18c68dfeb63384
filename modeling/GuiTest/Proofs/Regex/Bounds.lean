import GuiTest.Proofs.Regex.Frame
import GuiTest.Proofs.Regex.Matching

/-!
# Bounds of repetitions

Every repetition that is read has its lower bound at or below its upper one: `bounds?` refuses the
others, and the marks `?`, `*` and `+` stand for ordered bounds. All parts of a progress keep this
through every piece (`step?_ordered`), so the pattern that is read has it (`part?_ordered`).
-/

namespace GuiTest.Regex

variable {least : Nat} {most : Option Nat}

/-! ## Parts -/

namespace Part

/-- A sequence adds no bounds to those of its parts. -/
theorem sequence_ordered {parts : List Part} (h : ∀ p ∈ parts, p.pattern.BoundsOrdered) :
    (sequence parts).pattern.BoundsOrdered := by
  unfold sequence
  split
  · trivial
  · exact h _ (List.mem_cons_self ..)
  · refine List.foldlRecOn _ _ trivial fun after hafter q hq => ?_
    obtain ⟨p, hp, rfl⟩ := List.mem_map.mp hq
    exact ⟨h p hp, hafter⟩

/-- Nor do alternatives. -/
theorem choice_ordered {parts : List Part} (h : ∀ p ∈ parts, p.pattern.BoundsOrdered) :
    (choice parts).pattern.BoundsOrdered := by
  unfold choice
  split
  · trivial
  · exact h _ (List.mem_cons_self ..)
  · refine List.foldlRecOn _ _ (h _ (List.mem_cons_self ..)) fun later hlater q hq => ?_
    obtain ⟨p, hp, rfl⟩ := List.mem_map.mp hq
    exact ⟨h p (List.mem_cons_of_mem _ hp), hlater⟩

/-- A repetition adds its own, which are cut to one if nothing is taken. -/
theorem repeating_ordered {p : Part} (h : p.pattern.BoundsOrdered)
    (hbounds : ∀ m ∈ most, least ≤ m) :
    (p.repeating least most).pattern.BoundsOrdered := by
  change (p.pattern.repeating least most).BoundsOrdered
  unfold Pattern.repeating
  split
  · refine ⟨h, ?_⟩
    rintro _ ⟨⟩
    cases most with
    | none => exact Nat.min_le_right least 1
    | some m =>
      have := hbounds m rfl
      rw [Option.getD_some]
      omega
  · exact ⟨h, hbounds⟩

theorem ofAtom_ordered (flags : Flags) (a : Atom) : (ofAtom flags a).pattern.BoundsOrdered := by
  cases a <;> trivial

end Part

/-- All parts have ordered bounds. -/
def Alternatives.Ordered (a : Alternatives) : Prop :=
  (∀ p ∈ a.earlier, p.pattern.BoundsOrdered) ∧ ∀ p ∈ a.present, p.pattern.BoundsOrdered

namespace Alternatives

theorem start_ordered : start.Ordered := ⟨nofun, nofun⟩

theorem Ordered.add {a : Alternatives} (h : a.Ordered) {p : Part} (hp : p.pattern.BoundsOrdered) :
    (a.add p).Ordered :=
  ⟨h.1, List.forall_mem_cons.mpr ⟨hp, h.2⟩⟩

theorem Ordered.part {a : Alternatives} (h : a.Ordered) : a.part.pattern.BoundsOrdered :=
  Part.choice_ordered (List.forall_mem_cons.mpr ⟨Part.sequence_ordered h.2, h.1⟩)

end Alternatives

/-! ## Pieces -/

namespace Progress

variable {p q : Progress} {cs r : List Char}

/-- All parts that were read have ordered bounds, those before the open groups too. -/
def Ordered (p : Progress) : Prop :=
  p.alternatives.Ordered ∧ ∀ g ∈ p.groups, g.before.Ordered

theorem start_ordered : start.Ordered := ⟨Alternatives.start_ordered, nofun⟩

theorem Ordered.add (h : p.Ordered) {part : Part} (hpart : part.pattern.BoundsOrdered) :
    (p.add part).Ordered :=
  ⟨h.1.add hpart, h.2⟩

theorem Ordered.openGroup (h : p.Ordered) (captures : Bool) (flags : Flags) :
    (p.openGroup captures flags).Ordered :=
  ⟨Alternatives.start_ordered, List.forall_mem_cons.mpr h⟩

/-- A group that is closed is a part with ordered bounds. -/
theorem Ordered.closeGroup? (h : p.Ordered) (hq : p.closeGroup? = some q) : q.Ordered := by
  obtain ⟨alternatives, groups, flags, names⟩ := p
  cases groups with
  | nil => cases hq
  | cons g outer =>
    cases hq
    obtain ⟨hg, houter⟩ := List.forall_mem_cons.mp h.2
    exact ⟨hg.add h.1.part, houter⟩

/-- To repeat the last part keeps the bounds ordered if its own are. -/
theorem Ordered.repeatLast? (h : p.Ordered) (hbounds : ∀ m ∈ most, least ≤ m)
    (hq : p.repeatLast? least most = some q) : q.Ordered := by
  unfold Progress.repeatLast? at hq
  split at hq
  · rename_i last before hpresent
    split at hq
    · cases hq
      obtain ⟨hlast, hbefore⟩ := List.forall_mem_cons.mp (hpresent ▸ h.1.2)
      exact ⟨⟨h.1.1, List.forall_mem_cons.mpr ⟨Part.repeating_ordered hlast hbounds, hbefore⟩⟩, h.2⟩
    · cases hq
  · cases hq

/-- A name has no bounds. -/
theorem Ordered.openNamed? (h : p.Ordered) (hq : p.openNamed? cs = some (q, r)) : q.Ordered := by
  unfold Progress.openNamed? at hq
  split at hq
  · dsimp only at hq
    split at hq
    · cases hq
      exact h.openGroup true p.flags
    · cases hq
  · cases hq

/-- Nor have flags. -/
theorem Ordered.flagGroup? (h : p.Ordered) (hq : p.flagGroup? cs = some (q, r)) : q.Ordered := by
  obtain ⟨⟨flags, last, empty, rest⟩, -, hq⟩ := Option.bind_eq_some_iff.mp hq
  obtain ⟨_, huse, ⟨⟩⟩ := Option.bind_eq_some_iff.mp hq
  unfold Progress.useFlags? at huse
  split at huse
  · cases huse
    exact h.openGroup false _
  · cases huse
    exact Ordered.add h trivial
  · cases huse

theorem Ordered.openedByAngle? (h : p.Ordered) (hq : p.openedByAngle? cs = some (q, r)) :
    q.Ordered := by
  unfold Progress.openedByAngle? at hq
  split at hq
  · cases hq
  · cases hq
  · exact h.openNamed? hq

/-- So whatever follows a question mark keeps them. -/
theorem Ordered.openedByQuestion? (h : p.Ordered) (hq : p.openedByQuestion? cs = some (q, r)) :
    q.Ordered := by
  unfold Progress.openedByQuestion? at hq
  split at hq
  · cases hq
  · cases hq
  · exact h.openedByAngle? hq
  · exact h.openNamed? hq
  · exact h.flagGroup? hq

/-- And so does whatever follows a parenthesis. -/
theorem Ordered.opened? (h : p.Ordered) (hq : p.opened? cs = some (q, r)) : q.Ordered := by
  unfold Progress.opened? at hq
  split at hq
  · exact h.openedByQuestion? hq
  · cases hq
    exact h.openGroup true p.flags

/-- **Bounds in the wrong order are refused.** -/
theorem bounds?_ordered {inside : List Char} (h : bounds? inside = some (least, most)) :
    ∀ m ∈ most, least ≤ m := by
  unfold bounds? at h
  split at h
  · obtain ⟨n, -, ⟨⟩⟩ := Option.map_eq_some_iff.mp h
    rintro _ ⟨⟩
    exact Nat.le_refl _
  · obtain ⟨n, -, h⟩ := Option.bind_eq_some_iff.mp h
    split at h
    · cases h
      nofun
    · obtain ⟨m, -, h⟩ := Option.bind_eq_some_iff.mp h
      split at h
      · cases h
        rintro _ ⟨⟩
        assumption
      · cases h

/-- Every piece keeps the bounds ordered. -/
theorem step?_ordered {c : Char} {rest : List Char} (h : p.Ordered)
    (hq : p.step? c rest = some (q, r)) : q.Ordered := by
  -- The cases are those of `step?`; only counts in braces could be out of order.
  unfold step? at hq
  split at hq
  · exact h.opened? hq
  split at hq
  · obtain ⟨_, hclose, ⟨⟩⟩ := Option.map_eq_some_iff.mp hq
    exact h.closeGroup? hclose
  split at hq
  · cases hq
    exact ⟨⟨List.forall_mem_cons.mpr ⟨Part.sequence_ordered h.1.2, h.1.1⟩, nofun⟩, h.2⟩
  split at hq
  · obtain ⟨_, -, ⟨⟩⟩ := Option.bind_eq_some_iff.mp hq
    exact h.add trivial
  split at hq
  · obtain ⟨_, hrepeat, ⟨⟩⟩ := Option.map_eq_some_iff.mp hq
    exact h.repeatLast? (by simp) hrepeat
  split at hq
  · obtain ⟨_, hrepeat, ⟨⟩⟩ := Option.map_eq_some_iff.mp hq
    exact h.repeatLast? (by simp) hrepeat
  split at hq
  · obtain ⟨_, hrepeat, ⟨⟩⟩ := Option.map_eq_some_iff.mp hq
    exact h.repeatLast? (by simp) hrepeat
  split at hq
  · obtain ⟨_, -, hq⟩ := Option.bind_eq_some_iff.mp hq
    obtain ⟨_, hbounds, hq⟩ := Option.bind_eq_some_iff.mp hq
    obtain ⟨_, hrepeat, ⟨⟩⟩ := Option.bind_eq_some_iff.mp hq
    exact h.repeatLast? (bounds?_ordered hbounds) hrepeat
  · obtain ⟨_, -, ⟨⟩⟩ := Option.bind_eq_some_iff.mp hq
    exact h.add (Part.ofAtom_ordered _ _)

/-- The pattern that is read in the end has ordered bounds. -/
theorem part?_ordered {part : Part} (h : p.Ordered) (hpart : p.part? cs = some part) :
    part.pattern.BoundsOrdered := by
  induction p, cs using reading_induction with
  | nil hcs =>
    obtain ⟨-, rfl⟩ := (part?_of_nil_eq_some_iff hcs).mp hpart
    exact h.1.part
  | piece hcs ih =>
    rw [part?_of_cons hcs] at hpart
    obtain ⟨⟨q, r⟩, hstep, hpart⟩ := Option.bind_eq_some_iff.mp hpart
    exact ih hstep (step?_ordered h hstep) hpart

end Progress

end GuiTest.Regex
