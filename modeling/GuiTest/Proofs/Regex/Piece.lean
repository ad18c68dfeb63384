import GuiTest.Regex.Syntax
import GuiTest.Proofs.Regex.Bracket

/-!
# Pieces of patterns up to a closing parenthesis

One `step?` reads one piece: a parenthesis with what belongs to it, a bracket, a repetition or a
unit. Each is put together from steady readers, and so is steady but for the word boundary that has
a brace after it (`LostPiece`).
-/

namespace GuiTest.Regex

/-- Flags as one value, with what is left after them. -/
def readFlags? (flags : Flags) (seen cs : List Char) :
    Option ((Flags × Char × Bool) × List Char) :=
  (flags.read? seen cs).map fun a => ((a.1, a.2.1, a.2.2.1), a.2.2.2)

/-- Flags end with a colon or a parenthesis, which may be the one that follows. -/
theorem readFlags?_steady (flags : Flags) (seen : List Char) : Steady (readFlags? flags seen) := by
  intro cs
  induction cs generalizing flags seen with
  | nil =>
    refine .nil rfl fun after x r hr => ?_
    obtain ⟨a, ha, ⟨⟩⟩ := Option.map_eq_some_iff.mp hr
    rw [Flags.read?, if_pos (by decide)] at ha
    split at ha
    · cases ha
    · cases ha
      exact List.suffix_refl after
  | cons c rest ih =>
    refine .cons ?_
    simp only [readFlags?, Flags.read?]
    -- Flags end at a colon or a parenthesis, so none after that is read.
    by_cases hend : c = ':' ∨ c = ')'
    · simp only [if_pos hend]
      split
      · exact .none
      · exact .some (flags, c, seen.isEmpty)
    simp only [if_neg hend]
    split
    · exact .none
    split
    · exact ih flags (c :: seen)
    cases flags.set? ('-' ∉ seen) c with
    | none => exact .none
    | some flags => exact ih flags (c :: seen)

namespace Progress

/-- The name of a group ends with its angle bracket. -/
theorem openNamed?_suffix {p q : Progress} {cs r : List Char} (h : p.openNamed? cs = some (q, r)) :
    r <:+ cs.dropWhile (· != '>') := by
  unfold openNamed? at h
  split at h
  · rename_i c _ hdrop
    dsimp only at h
    split at h
    · cases h
      exact hdrop ▸ List.suffix_cons c _
    · cases h
  · cases h

/-- A name that is not ended may be ended behind the parenthesis. -/
theorem openNamed?_steady (p : Progress) : Steady p.openNamed? := by
  intro cs
  refine ⟨fun q r hr => (openNamed?_suffix hr).trans (List.dropWhile_suffix _), ?_⟩
  rcases takeWhile_closing (by decide : '>' ≠ ')') cs with ⟨halone, hjoined⟩ | ⟨hsome, hjoined⟩
  · refine .broken ?_ fun after q r hr => (openNamed?_suffix hr).trans (hjoined after).2
    rw [openNamed?, halone]
  · obtain ⟨c, rest, hdrop⟩ := List.exists_cons_of_ne_nil hsome
    unfold openNamed?
    simp only [hjoined, hdrop, List.cons_append]
    split
    · exact .through _ rest rfl fun _ => rfl
    · exact .broken rfl nofun

variable {p : Progress} {rest : List Char}

/-- What is no look back is a name. -/
theorem openedByAngle?_of_name (hahead : ∀ after, rest ≠ '=' :: after)
    (hnot : ∀ after, rest ≠ '!' :: after) : p.openedByAngle? rest = p.openNamed? rest := by
  unfold openedByAngle?
  split
  · exact absurd rfl (hahead _)
  · exact absurd rfl (hnot _)
  · rfl

/-- What is neither a look ahead nor a name is flags. -/
theorem openedByQuestion?_of_flags (hahead : ∀ after, rest ≠ '=' :: after)
    (hnot : ∀ after, rest ≠ '!' :: after) (hname : ∀ after, rest ≠ 'P' :: '<' :: after)
    (hangle : ∀ after, rest ≠ '<' :: after) :
    p.openedByQuestion? rest = p.flagGroup? rest := by
  unfold openedByQuestion?
  split
  · exact absurd rfl (hahead _)
  · exact absurd rfl (hnot _)
  · exact absurd rfl (hangle _)
  · exact absurd rfl (hname _)
  · rfl

/-- Without a question mark it is a group that captures. -/
theorem opened?_of_group (hquestion : ∀ after, rest ≠ '?' :: after) :
    p.opened? rest = some (p.openGroup true p.flags, rest) := by
  unfold opened?
  split
  · exact absurd rfl (hquestion _)
  · rfl

/-- Flags are steady as they are read. -/
theorem flagGroup?_steady (p : Progress) : Steady p.flagGroup? :=
  ((readFlags?_steady p.flags []).filterMap p.useFlags?).congr fun cs => by
    unfold flagGroup? readFlags?
    cases p.flags.read? [] cs <;> rfl

/-- So are names with their angle brackets. -/
theorem openedByAngle?_steady (p : Progress) : Steady p.openedByAngle? := by
  refine p.openNamed?_steady.ofHead (fun c => c = '=' ∨ c = '!') (by decide) rfl
    (fun c rest hc => openedByAngle?_of_name ?_ ?_) ?_
  · rintro after ⟨⟩
    exact hc (.inl rfl)
  · rintro after ⟨⟩
    exact hc (.inr rfl)
  · rintro _ rest (rfl | rfl)
    · exact .cons .none
    · exact .cons .none

/-- There is no flag `P`, so a name follows it or nothing is read. -/
theorem openedByP?_steady (p : Progress) :
    Steady fun rest => p.openedByQuestion? ('P' :: rest) := by
  refine Steady.ofHead (fun _ => .none) (· = '<') (by decide) rfl (fun c rest hc => ?_) ?_
  · simp [openedByQuestion?, flagGroup?, Flags.read?, Flags.set?, hc]
  · rintro _ rest rfl
    exact .cons (p.openNamed?_steady rest)

/-- And so is all that may follow a question mark. -/
theorem openedByQuestion?_steady (p : Progress) : Steady p.openedByQuestion? := by
  refine p.flagGroup?_steady.ofHead (fun c => c = '=' ∨ c = '!' ∨ c = '<' ∨ c = 'P')
    (by decide) rfl (fun c rest hc => openedByQuestion?_of_flags ?_ ?_ ?_ ?_) ?_
  · rintro after ⟨⟩
    exact hc (.inl rfl)
  · rintro after ⟨⟩
    exact hc (.inr (.inl rfl))
  · rintro after ⟨⟩
    exact hc (.inr (.inr (.inr rfl)))
  · rintro after ⟨⟩
    exact hc (.inr (.inr (.inl rfl)))
  · rintro _ rest (rfl | rfl | rfl | rfl)
    · exact .cons .none
    · exact .cons .none
    · exact .cons (p.openedByAngle?_steady rest)
    · exact .cons (p.openedByP?_steady rest)

/-- What follows an opening parenthesis is steady. -/
theorem opened?_steady (p : Progress) : Steady p.opened? := by
  refine Steady.ofHead (fun _ => .some (p.openGroup true p.flags)) (· = '?') (by decide) rfl
    (fun c rest hc => opened?_of_group fun after he => hc (List.cons.inj he).1) ?_
  rintro _ rest rfl
  exact .cons (p.openedByQuestion?_steady rest)

/-- Blanks may stand before it. -/
theorem parenthesis?_steady (p : Progress) : Steady p.parenthesis? :=
  p.opened?_steady.skipping p.flags

/-- The mark of preference ends before the parenthesis. -/
theorem skipPreference_steady : Steady fun cs => some ((), skipPreference cs) := by
  refine Steady.ofHead (fun _ => .some ()) (· = '?') (by decide) rfl (fun c rest hc => ?_) ?_
  · unfold skipPreference
    split
    · exact absurd (List.cons.inj ‹_›).1 hc
    · rfl
  · rintro _ rest rfl
    exact .cons (.some ())

/-- A sign of repetition and the mark that may come after it. -/
theorem repeated_steady (q? : Option Progress) :
    Steady fun rest => q?.map fun q => (q, skipPreference rest) := by
  cases q? with
  | none => exact fun _ => .none
  | some q => exact skipPreference_steady.map fun _ => q

/-- A repetition with bounds, and the mark that may come after them. -/
theorem bounded_steady (p : Progress) (inside : List Char) : Steady fun rest =>
    (do
      let (least, most) ← bounds? inside
      return (← p.repeatLast? least most, skipPreference (skip p.flags rest)) :
        Option (Progress × List Char)) := by
  cases bounds? inside with
  | none => exact fun _ => .none
  | some a =>
    cases h : p.repeatLast? a.1 a.2 with
    | none => exact fun _ => SteadyAt.none.congr (by simp [h]) fun after => by simp [h]
    | some q =>
      have hread := (skipPreference_steady.skipping p.flags).map fun _ => q
      refine fun rest => (hread rest).congr ?_ fun after => ?_
      · simp [h]
      · simp [h]

/-- Where a piece leads that is read by going past the parenthesis or by a look at it. -/
def LostPiece (after : List Char) (p : Progress) (r : List Char) : Prop :=
  r <:+ after ∨
    ∃ inside, r = '{' :: (inside ++ ')' :: after) ∧ braced? p.flags.verbose inside = none

/-- **Every piece of a pattern ends before the parenthesis**, or goes past it and is lost. -/
theorem step?_steady (p : Progress) (c : Char) (rest : List Char) :
    SteadyAt LostPiece (p.step? c) rest := by
  have hpast {read : List Char → Option (Progress × List Char)} (h : Steady read) :
      SteadyAt LostPiece read rest := (h rest).mono fun _ _ _ => .inl
  refine .ite (fun _ => hpast p.parenthesis?_steady) fun _ => ?_
  refine .ite (fun _ => .ofOption p.closeGroup? id) fun _ => .ite (fun _ => .some _) fun _ => ?_
  refine .ite (fun _ => hpast ((bracket?_steady p.flags).bind fun set _ => .some
    (p.add ⟨.one set.set, set.depth, if p.flags.unicode then 12 else 1, true⟩))) fun _ => ?_
  refine .ite (fun _ => hpast (repeated_steady _)) fun _ => ?_
  refine .ite (fun _ => hpast (repeated_steady _)) fun _ => ?_
  refine .ite (fun _ => hpast (repeated_steady _)) fun _ => ?_
  refine .ite (fun _ => hpast ((braced?_steady p.flags.verbose).bind p.bounded_steady)) fun _ => ?_
  refine (atom?_steady p.flags c rest).filterMap
    (fun a => some (p.add (Part.ofAtom p.flags a))) ?_
  rintro after a r _ (hr | ⟨-, hr⟩) ⟨⟩
  · exact .inl hr
  · exact .inr hr

end Progress

end GuiTest.Regex
