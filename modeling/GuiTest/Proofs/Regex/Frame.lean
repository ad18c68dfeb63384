import GuiTest.Proofs.Regex.Piece

/-!
# Patterns in groups

In a group a pattern is read like by itself, with one more group at the bottom of those that are
open (`step?_under`). Piece by piece the two readings stay side by side up to the parenthesis that
closes the group. `Ends` says that a pattern is read to its end both by itself and in a group, and
that the parenthesis is seen where it ends: this is so of every pattern that does not end in a
comment (`ends_or`), and of whatever stands before the parenthesis that closes a group
(`exists_ends_of_under`).
-/

namespace GuiTest.Regex

namespace Progress

variable {p q : Progress} {cs ds : List Char} {gs : List OpenGroup}

/-! ## Reading to the end -/

/-- Every piece takes a character. -/
theorem step?_lt {c : Char} {rest r : List Char} (hcs : skip p.flags cs = c :: rest)
    (h : p.step? c rest = some (q, r)) : r.length < cs.length := by
  have hskip := (skip_suffix p.flags cs).length_le
  have hrest := ((step?_steady p c rest).suffix q r h).length_le
  rw [hcs, List.length_cons] at hskip
  omega

/-- The number that bounds the pieces does not count if it is above that of the characters. -/
theorem finish?_eq : ∀ {k l : Nat} {p : Progress} {cs : List Char}, cs.length < k → cs.length < l →
    p.finish? k cs = p.finish? l cs
  | k + 1, l + 1, p, cs, hk, hl => by
    simp only [finish?]
    cases hcs : skip p.flags cs with
    | nil => rfl
    | cons c rest =>
      refine Option.bind_congr fun a ha => ?_
      have := step?_lt hcs ha
      exact finish?_eq (by omega) (by omega)

/-- The part that reading to the end gives. -/
def part? (p : Progress) (cs : List Char) : Option Part := p.finish? (cs.length + 1) cs

/-- Reading ends where nothing is left, if no group is open there. -/
theorem part?_of_nil (h : skip p.flags cs = []) :
    p.part? cs = if p.groups.isEmpty then some p.alternatives.part else none := by
  simp only [part?, finish?, h]

/-- And else goes on by one piece. -/
theorem part?_of_cons {c : Char} {rest : List Char} (h : skip p.flags cs = c :: rest) :
    p.part? cs = (p.step? c rest).bind fun a => a.1.part? a.2 := by
  simp only [part?, finish?, h]
  refine Option.bind_congr fun a ha => ?_
  exact finish?_eq (step?_lt h ha) (Nat.lt_succ_self _)

/-- Blanks and comments before a piece make no difference. -/
theorem part?_congr (h : skip p.flags cs = skip p.flags ds) : p.part? cs = p.part? ds := by
  cases hds : skip p.flags ds with
  | nil => rw [part?_of_nil (h.trans hds), part?_of_nil hds]
  | cons c rest => rw [part?_of_cons (h.trans hds), part?_of_cons hds]

/-- Reading is settled after each piece. -/
theorem part?_of_step {c : Char} {rest r : List Char} (hcs : skip p.flags cs = c :: rest)
    (h : p.step? c rest = some (q, r)) : p.part? cs = q.part? r := by
  rw [part?_of_cons hcs, h]
  rfl

/-- Reading goes on piece by piece until nothing is left. -/
@[elab_as_elim]
theorem reading_induction {motive : Progress → List Char → Prop}
    (nil : ∀ {p cs}, skip p.flags cs = [] → motive p cs)
    (piece : ∀ {p cs c rest}, skip p.flags cs = c :: rest →
      (∀ {q r}, p.step? c rest = some (q, r) → motive q r) → motive p cs)
    (p : Progress) (cs : List Char) : motive p cs := by
  induction hlen : cs.length using Nat.strong_induction_on generalizing p cs with
  | _ k ih =>
    subst hlen
    cases hcs : skip p.flags cs with
    | nil => exact nil hcs
    | cons c rest => exact piece hcs fun hstep => ih _ (step?_lt hcs hstep) _ _ rfl

/-- Reading goes from one progress, with characters ahead, to another. -/
inductive Reaches : Progress → List Char → Progress → List Char → Prop where
  | here {p : Progress} {cs : List Char} : Reaches p cs p cs
  | piece {p p' q : Progress} {cs rest r ds : List Char} {c : Char} :
      skip p.flags cs = c :: rest → p.step? c rest = some (p', r) → Reaches p' r q ds →
      Reaches p cs q ds

/-- What is ahead is always a suffix. -/
theorem Reaches.suffix (h : Reaches p cs q ds) : ds <:+ cs := by
  induction h with
  | here => exact List.suffix_refl _
  | @piece p p' q cs rest r ds c hcs hstep _ ih =>
    have hrest : rest <:+ cs := (List.suffix_cons c rest).trans (hcs ▸ skip_suffix p.flags cs)
    exact ih.trans (((step?_steady p c rest).suffix p' r hstep).trans hrest)

/-! ## With more groups open -/

/-- The progress with further groups open around those that are. -/
def under (p : Progress) (gs : List OpenGroup) : Progress := { p with groups := p.groups ++ gs }

@[simp] theorem flags_under : (p.under gs).flags = p.flags := rfl

@[simp] theorem under_nil : p.under [] = p := by simp [under]

/-- An answer with further groups open. -/
def answerUnder (gs : List OpenGroup) (a : Progress × List Char) : Progress × List Char :=
  (a.1.under gs, a.2)

/-- Names are opened with no regard to other groups. -/
theorem openNamed?_under (cs : List Char) :
    (p.under gs).openNamed? cs = (p.openNamed? cs).map (answerUnder gs) := by
  unfold openNamed?
  split
  · dsimp only
    split
    · rw [if_pos ‹_›]
      rfl
    · rw [if_neg ‹_›]
      rfl
  · rfl

/-- So are flags. -/
theorem flagGroup?_under (cs : List Char) :
    (p.under gs).flagGroup? cs = (p.flagGroup? cs).map (answerUnder gs) := by
  have huse (a : Flags × Char × Bool) :
      (p.under gs).useFlags? a = (p.useFlags? a).map (·.under gs) := by
    unfold useFlags?
    split <;> rfl
  unfold flagGroup?
  rw [flags_under]
  cases p.flags.read? [] cs with
  | none => rfl
  | some a =>
    obtain ⟨flags, last, empty, rest⟩ := a
    simp only [Option.bind_eq_bind, Option.bind_some, huse]
    cases p.useFlags? (flags, last, empty) <;> rfl

/-- And so is what follows an angle bracket. -/
theorem openedByAngle?_under (cs : List Char) :
    (p.under gs).openedByAngle? cs = (p.openedByAngle? cs).map (answerUnder gs) := by
  unfold openedByAngle?
  split
  · rfl
  · rfl
  · exact openNamed?_under _

/-- Every group is opened with no regard to those around it. -/
theorem opened?_under (cs : List Char) :
    (p.under gs).opened? cs = (p.opened? cs).map (answerUnder gs) := by
  unfold opened?
  split
  · unfold openedByQuestion?
    split
    · rfl
    · rfl
    · exact openedByAngle?_under _
    · exact openNamed?_under _
    · exact flagGroup?_under _
  · rfl

/-- A repetition is about the last part only. -/
theorem repeatLast?_under (least : Nat) (most : Option Nat) :
    (p.under gs).repeatLast? least most = (p.repeatLast? least most).map (·.under gs) := by
  obtain ⟨⟨earlier, present⟩, groups, flags, names⟩ := p
  cases present with
  | nil => rfl
  | cons last before => by_cases h : last.repeatable <;> simp [repeatLast?, under, h]

/-- A group that is open is closed with no regard to those around it. -/
theorem closeGroup?_under (h : p.groups ≠ []) :
    (p.under gs).closeGroup? = p.closeGroup?.map (·.under gs) := by
  obtain ⟨a, groups, flags, names⟩ := p
  cases groups with
  | nil => exact absurd rfl h
  | cons g outer => rfl

/-- **A piece is read with further groups open as it is without them**, unless it closes one of
them. -/
theorem step?_under {c : Char} (h : c ≠ ')' ∨ p.groups ≠ []) (rest : List Char) :
    (p.under gs).step? c rest = (p.step? c rest).map (answerUnder gs) := by
  unfold step?
  -- The cases are those of `step?`, one for each way in which a piece may begin.
  rw [flags_under]
  split
  · exact opened?_under (skip p.flags rest)
  split
  · rw [closeGroup?_under (h.resolve_left (not_not.mpr ‹_›))]
    cases p.closeGroup? <;> rfl
  split
  · rfl
  split
  · cases bracket? p.flags rest <;> rfl
  split
  · rw [repeatLast?_under]
    cases p.repeatLast? 0 (some 1) <;> rfl
  split
  · rw [repeatLast?_under]
    cases p.repeatLast? 0 none <;> rfl
  split
  · rw [repeatLast?_under]
    cases p.repeatLast? 1 none <;> rfl
  split
  · simp only [repeatLast?_under]
    cases braced? p.flags.verbose rest with
    | none => rfl
    | some a =>
      obtain ⟨inside, rest⟩ := a
      cases hb : bounds? inside with
      | none => simp [hb]
      | some b => cases hr : p.repeatLast? b.1 b.2 <;> simp [hb, hr, answerUnder]
  · cases atom? p.flags (c :: rest) <;> rfl

/-! ## At the parenthesis -/

/-- A closing parenthesis is refused where no group is open. -/
theorem step?_ne_none {c : Char} {rest : List Char} (h : p.step? c rest ≠ none) :
    c ≠ ')' ∨ p.groups ≠ [] := by
  by_contra hneither
  obtain ⟨rfl, hgroups⟩ : c = ')' ∧ p.groups = [] := by simpa using hneither
  refine h ?_
  change (p.closeGroup?.map fun p => (p, rest)) = none
  rw [closeGroup?, hgroups]
  rfl

/-- So reading ends there. -/
theorem part?_closing_of_nil (h : p.groups = []) (after : List Char) :
    p.part? (')' :: after) = none := by
  have hstep : p.step? ')' after = none :=
    not_not.mp fun hne => (step?_ne_none hne).elim (· rfl) (· h)
  rw [part?_of_cons (skip_closing p.flags after), hstep]
  rfl

/-- The end is not reached while a group is open. -/
theorem part?_nil_of_groups (h : p.groups ≠ []) : p.part? [] = none := by
  rw [part?_of_nil (skip_nil p.flags), if_neg (by simpa using h)]

/-- A brace that is not closed is no repetition. -/
theorem part?_of_brace (h : braced? p.flags.verbose cs = none) : p.part? ('{' :: cs) = none := by
  have hstep : p.step? '{' cs = none := by
    change (braced? p.flags.verbose cs).bind _ = none
    rw [h]
    rfl
  rw [part?_of_cons (skip_cons p.flags (by decide) (by decide) cs), hstep]
  rfl

/-- What is lost by a piece gets to no end while a group is open, if nothing comes after the
parenthesis. -/
theorem part?_of_lost (hlost : LostPiece [] p cs) (h : p.groups ≠ []) : p.part? cs = none := by
  obtain hpast | ⟨inside, rfl, hbrace⟩ := hlost
  · rw [List.suffix_nil.mp hpast]
    exact part?_nil_of_groups h
  · exact part?_of_brace (braced?_closing hbrace)

theorem groups_under_ne_nil (hgs : gs ≠ []) : (p.under gs).groups ≠ [] :=
  List.append_ne_nil_of_right_ne_nil p.groups hgs

/-- Reading that ends gives what was read, and only where no group is open. -/
theorem part?_of_nil_eq_some_iff {part : Part} (h : skip p.flags cs = []) :
    p.part? cs = some part ↔ p.groups = [] ∧ p.alternatives.part = part := by
  rw [part?_of_nil h]
  cases p.groups <;> simp

/-! ## Side by side -/

/-- Reading `cs` gets to its end with `q`, by itself and in a group: then the parenthesis that comes
after `cs` is seen, whatever else comes after it and however many groups are open. -/
structure Ends (p : Progress) (cs : List Char) (q : Progress) : Prop where
  closed : q.groups = []
  alone : p.part? cs = some q.alternatives.part
  joined : ∀ gs after, (p.under gs).part? (cs ++ ')' :: after) = (q.under gs).part? (')' :: after)

/-- Reading ends at once where nothing but blanks is left. -/
theorem Ends.of_nil (hcs : skip p.flags cs = []) (hgroups : p.groups = [])
    (hjoined : ∀ after, skip p.flags (cs ++ ')' :: after) = ')' :: after) : Ends p cs p where
  closed := hgroups
  alone := (part?_of_nil_eq_some_iff hcs).mpr ⟨hgroups, rfl⟩
  joined _ after := part?_congr ((hjoined after).trans (skip_closing p.flags after).symm)

/-- A piece is read with further groups open and a parenthesis behind as it is without them. -/
theorem part?_under_of_step {c : Char} {rest after r : List Char}
    (hcs : skip p.flags cs = c :: rest)
    (h : p.step? c (rest ++ ')' :: after) = some (q, r)) :
    (p.under gs).part? (cs ++ ')' :: after) = (q.under gs).part? r := by
  have hopen := step?_ne_none (by rw [h]; exact Option.some_ne_none _)
  have hstep : (p.under gs).step? c (rest ++ ')' :: after) = some (q.under gs, r) := by
    rw [step?_under hopen, h]
    rfl
  exact part?_of_step (skip_append_of_cons hcs after) hstep

/-- Reading ends later by one piece. -/
theorem Ends.piece {p' : Progress} {c : Char} {rest r : List Char} (h : Ends p' r q)
    (hcs : skip p.flags cs = c :: rest) (halone : p.step? c rest = some (p', r))
    (hjoined : ∀ after, p.step? c (rest ++ ')' :: after) = some (p', r ++ ')' :: after)) :
    Ends p cs q where
  closed := h.closed
  alone := (part?_of_step hcs halone).trans h.alone
  joined gs after := (part?_under_of_step hcs (hjoined after)).trans (h.joined gs after)

/-- What is read to its end by itself is read so in a group, or may end in a comment; and then a
group that is put around it stays open. -/
theorem ends_or {part : Part} (h : p.part? cs = some part) :
    (∃ q, Ends p cs q) ∨
      SignInLastLine cs ∧ ∀ gs, gs ≠ [] → (p.under gs).part? (cs ++ [')']) = none := by
  induction p, cs using reading_induction with
  | @nil p cs hcs =>
    obtain ⟨hgroups, -⟩ := (part?_of_nil_eq_some_iff hcs).mp h
    rcases skip_append_of_nil hcs with hclose | ⟨hsign, hpast⟩
    · exact .inl ⟨p, .of_nil hcs hgroups hclose⟩
    · refine .inr ⟨hsign, fun gs hgs => ?_⟩
      rw [part?_of_nil (p := p.under gs) (List.suffix_nil.mp (hpast [])), if_neg]
      simpa using groups_under_ne_nil (p := p) hgs
  | @piece p cs c rest hcs ih =>
    rw [part?_of_cons hcs] at h
    obtain ⟨⟨q, r⟩, hstep, hq⟩ := Option.bind_eq_some_iff.mp h
    have hrest : rest <:+ cs := (List.suffix_cons c rest).trans (hcs ▸ skip_suffix p.flags cs)
    rcases (step?_steady p c rest).seam with ⟨x, r', ha, hj⟩ | ⟨ha, hj⟩
    · obtain ⟨rfl, rfl⟩ := Prod.mk.inj (Option.some.inj (hstep.symm.trans ha))
      rcases ih hstep hq with ⟨q', hends⟩ | ⟨hsign, hopen⟩
      · exact .inl ⟨q', hends.piece hcs hstep hj⟩
      · have hr := ((step?_steady p c rest).suffix q r hstep).trans hrest
        refine .inr ⟨hsign.of_suffix hr, fun gs hgs => ?_⟩
        rw [part?_under_of_step hcs (hj [])]
        exact hopen gs hgs
    · -- The piece takes the parenthesis, so nothing is left to close the group.
      refine .inr ⟨(ha q r hstep).1.of_suffix hrest, fun gs hgs => ?_⟩
      cases hjoined : p.step? c (rest ++ [')']) with
      | none =>
        have hopen := step?_ne_none (by rw [hstep]; exact Option.some_ne_none _)
        rw [part?_of_cons (p := p.under gs) (skip_append_of_cons hcs []), step?_under hopen,
          hjoined]
        rfl
      | some a =>
        rw [part?_under_of_step hcs hjoined]
        exact part?_of_lost (hj [] a.1 a.2 hjoined) (groups_under_ne_nil hgs)

/-- Reading that gets to a parenthesis where no group is open ends before it. -/
theorem Reaches.ends {after : List Char} (h : Reaches p cs q ds)
    (hds : skip q.flags ds = ')' :: after) (hgroups : q.groups = []) {front : List Char}
    (hcs : cs = front ++ ')' :: after) : Ends p front q := by
  induction h generalizing front with
  | @here p cs =>
    subst hcs
    have hfront : skip p.flags front = [] := skip_of_append hds
    refine .of_nil hfront hgroups ((skip_append_of_nil hfront).resolve_right fun h => ?_)
    have := (hds ▸ h.2 after).length_le
    rw [List.length_cons] at this
    omega
  | @piece p p' q cs rest r ds c hskip hstep hreaches ih =>
    subst hcs
    obtain ⟨inside, rfl⟩ : ')' :: after <:+ r :=
      (hds ▸ skip_suffix q.flags ds).trans hreaches.suffix
    obtain ⟨taken, rfl⟩ := (step?_steady p c rest).suffix p' _ hstep
    rw [← List.append_assoc] at hskip hstep
    have hfront : skip p.flags front = c :: (taken ++ inside) := skip_of_append hskip
    have hends := ih hds hgroups rfl
    rcases (step?_steady p c (taken ++ inside)).seam with ⟨x, r, ha, hj⟩ | ⟨-, hj⟩
    · obtain ⟨rfl, hr⟩ := Prod.mk.inj (Option.some.inj (hstep.symm.trans (hj after)))
      obtain rfl := List.append_cancel_right hr
      exact hends.piece hfront ha hj
    · rcases hj after p' _ hstep with hpast | ⟨braced, hr, hbrace⟩
      · have := hpast.length_le
        rw [List.length_append, List.length_cons] at this
        omega
      · -- A brace that is not closed before the parenthesis is none that reading gets past.
        rw [← List.cons_append] at hr
        obtain rfl := List.append_cancel_right hr
        cases (part?_of_brace hbrace).symm.trans hends.alone

/-- If the end is reached with further groups open, one of them is closed on the way. -/
theorem reaches_of_part?_under {part : Part} (hgs : gs ≠ [])
    (h : (p.under gs).part? cs = some part) :
    ∃ q ds after, Reaches p cs q ds ∧ skip q.flags ds = ')' :: after ∧ q.groups = [] := by
  induction p, cs using reading_induction with
  | @nil p cs hcs =>
    rw [part?_of_nil (p := p.under gs) hcs, if_neg] at h
    · cases h
    · simpa using groups_under_ne_nil (p := p) hgs
  | @piece p cs c rest hcs ih =>
    by_cases hopen : c ≠ ')' ∨ p.groups ≠ []
    · rw [part?_of_cons (p := p.under gs) hcs, step?_under hopen] at h
      obtain ⟨_, hanswer, hpart⟩ := Option.bind_eq_some_iff.mp h
      obtain ⟨⟨p', r⟩, hstep, rfl⟩ := Option.map_eq_some_iff.mp hanswer
      obtain ⟨q, ds, after, hreaches, hcloses⟩ := ih hstep hpart
      exact ⟨q, ds, after, .piece hcs hstep hreaches, hcloses⟩
    · obtain ⟨rfl, hgroups⟩ : c = ')' ∧ p.groups = [] := by simpa using hopen
      exact ⟨p, cs, rest, .here, hcs, hgroups⟩

/-- What stands before the parenthesis that closes a group is read to its end by itself. -/
theorem exists_ends_of_under {part : Part} (hgs : gs ≠ [])
    (h : (p.under gs).part? cs = some part) :
    ∃ q inside after, cs = inside ++ ')' :: after ∧ Ends p inside q := by
  obtain ⟨q, ds, after, hreaches, hds, hgroups⟩ := reaches_of_part?_under hgs h
  obtain ⟨inside, rfl⟩ : ')' :: after <:+ cs := (hds ▸ skip_suffix q.flags ds).trans hreaches.suffix
  exact ⟨q, inside, after, rfl, hreaches.ends hds hgroups rfl⟩

/-- With no further groups open the parenthesis is refused. -/
theorem Ends.part?_closing (h : Ends p cs q) (after : List Char) :
    p.part? (cs ++ ')' :: after) = none := by
  have hjoined := h.joined [] after
  rw [under_nil, under_nil] at hjoined
  exact hjoined.trans (part?_closing_of_nil h.closed after)

end Progress

end GuiTest.Regex
