import GuiTest.Regex.Bracket
import GuiTest.Proofs.Regex.Seam

/-!
# Brackets up to a closing parenthesis

A bracket is read piece by piece, each of which takes at least one character, so the number that
bounds the pieces never counts (`bracketRest?_eq`). Every piece is steady, and so is the bracket
(`bracket?_steady`): the parenthesis behind a bracket is no part of it, and one that is read within
a bracket does not come back.
-/

namespace GuiTest.Regex

variable {flags : Flags}

/-! ## The beginning of a bracket -/

/-- No minus sign is counted where there is none. -/
theorem readMinus_of_head {k : Nat} {cs : List Char} (h : cs.head? ≠ some '-') :
    OpenBracket.readMinus flags k cs = (0, cs) := by
  unfold OpenBracket.readMinus
  split
  · exact absurd rfl h
  · rfl

/-- The number that bounds the count does not matter if it is large enough. -/
theorem readMinus_eq : ∀ {k l : Nat} {cs : List Char}, cs.length ≤ k → cs.length ≤ l →
    OpenBracket.readMinus flags k cs = OpenBracket.readMinus flags l cs
  | k, l, cs, hk, hl => by
    by_cases hhead : cs.head? = some '-'
    · obtain ⟨rest, rfl⟩ := List.head?_eq_some_iff.mp hhead
      have hskip := (skip_suffix flags rest).length_le
      rw [List.length_cons] at hk hl
      obtain ⟨k, rfl⟩ := Nat.exists_eq_succ_of_ne_zero (by omega : k ≠ 0)
      obtain ⟨l, rfl⟩ := Nat.exists_eq_succ_of_ne_zero (by omega : l ≠ 0)
      simp only [OpenBracket.readMinus]
      rw [readMinus_eq (k := k) (l := l) (by omega) (by omega)]
    · rw [readMinus_of_head hhead, readMinus_of_head hhead]

/-- A minus sign is one more than there are after it. -/
theorem readMinus_minus (rest : List Char) :
    some (OpenBracket.readMinus flags ('-' :: rest).length ('-' :: rest)) =
      (some (OpenBracket.readMinus flags (skip flags rest).length (skip flags rest))).map
        fun a => (a.1 + 1, a.2) := by
  have hskip := (skip_suffix flags rest).length_le
  rw [readMinus_eq (l := rest.length) (Nat.le_refl _) hskip]
  rfl

/-- Minus signs stand in front. -/
theorem readMinus_suffix : ∀ (k : Nat) (cs : List Char),
    (OpenBracket.readMinus flags k cs).2 <:+ cs
  | 0, cs => List.suffix_refl cs
  | k + 1, cs => by
    by_cases hhead : cs.head? = some '-'
    · obtain ⟨rest, rfl⟩ := List.head?_eq_some_iff.mp hhead
      have hrest := (skip_suffix flags rest).trans (List.suffix_cons '-' rest)
      exact (readMinus_suffix k (skip flags rest)).trans hrest
    · rw [readMinus_of_head hhead]

/-- Minus signs end before the parenthesis. -/
theorem readMinus_steady (flags : Flags) :
    Steady fun cs => some (OpenBracket.readMinus flags cs.length cs) := by
  intro cs
  induction hlen : cs.length using Nat.strong_induction_on generalizing cs with
  | _ k ih =>
    by_cases hhead : cs.head? = some '-'
    · obtain ⟨rest, rfl⟩ := List.head?_eq_some_iff.mp hhead
      have hskip := (skip_suffix flags rest).length_le
      refine .cons ?_
      simp only [readMinus_minus]
      refine ((ih _ (by rw [← hlen, List.length_cons]; omega) _ rfl).map (· + 1)
        fun _ _ _ hl => hl).skipping ?_
      rintro ds _ _ ⟨⟩
      exact readMinus_suffix ds.length ds
    · have hread {cs : List Char} (h : cs.head? ≠ some '-') :
          some (OpenBracket.readMinus flags cs.length cs) = some (0, cs) :=
        congrArg some (readMinus_of_head h)
      exact (SteadyAt.some 0).congr (hread hhead) fun after =>
        hread (head?_append_closing hhead (by decide) after)

/-- So does the caret of a complement. -/
theorem readCaret_steady (flags : Flags) :
    Steady fun cs => some (OpenBracket.readCaret flags cs) := by
  refine Steady.ofHead (fun _ => .some false) (· = '^') (by decide) rfl (fun c rest hc => ?_) ?_
  · unfold OpenBracket.readCaret
    split
    · exact absurd (List.cons.inj ‹_›).1 hc
    · rfl
  · rintro _ rest rfl
    exact .cons (Steady.skipping (fun _ => .some true) flags rest)

/-- And so does a bracket that stands for itself. -/
theorem readFirst_steady (flags : Flags) (negated : Bool) (minus : Nat) :
    Steady fun cs => some (OpenBracket.readFirst flags negated minus cs) := by
  cases minus with
  | succ n => exact fun _ => .some _
  | zero =>
    refine Steady.ofHead (fun _ => .some (OpenBracket.mk negated none Items.none)) (· = ']')
      (by decide) rfl (fun c rest hc => ?_) ?_
    · unfold OpenBracket.readFirst
      split
      · exact absurd (List.cons.inj ‹_›).1 hc
      · rfl
      · contradiction
    · rintro _ rest rfl
      exact .cons (Steady.skipping (fun _ => .some _) flags rest)

theorem begin_steady (flags : Flags) : Steady fun cs => some (OpenBracket.begin flags cs) :=
  ((readCaret_steady flags).skipping flags).bind fun negated =>
    (readMinus_steady flags).bind fun minus => readFirst_steady flags negated minus

/-! ## Classes and units -/

/-- No class has a parenthesis in its name. -/
theorem not_mem_of_ascii? {name : String} {set : CharSet} (h : CharSet.ascii? name = some set) :
    ')' ∉ name.toList := by
  unfold CharSet.ascii? at h
  split at h
  all_goals first | decide | cases h

/-- A class ends with its name, so no class is completed by the parenthesis. -/
theorem named_closing (negated : Bool) (cs after : List Char) :
    namedClass?.named negated (cs ++ ')' :: after) =
      (namedClass?.named negated cs).map fun a => (a.1, a.2.1, a.2.2 ++ ')' :: after) := by
  unfold namedClass?.named
  rcases takeWhile_closing (by decide : ':' ≠ ')') cs with ⟨halone, hjoined⟩ | ⟨hsome, hjoined⟩
  · obtain ⟨hinside, -⟩ := hjoined after
    rw [halone]
    split
    · refine (Option.map_eq_none_iff.mpr (Option.eq_none_iff_forall_ne_some.mpr fun set hset => ?_))
      exact not_mem_of_ascii? hset (String.toList_ofList ▸ hinside)
    · rfl
  · rw [(hjoined after).1, (hjoined after).2]
    match h : cs.dropWhile (· != ':') with
    | [] => exact absurd h hsome
    | [c] => simp
    | c :: d :: rest =>
      by_cases hc : c = ':'
      · by_cases hd : d = ']'
        · subst hc hd
          simp [Function.comp_def]
        · simp [hd]
      · simp [hc]

/-- The same for names of either form. -/
theorem namedClass?_closing (cs after : List Char) :
    namedClass? (cs ++ ')' :: after) =
      (namedClass? cs).map fun a => (a.1, a.2.1, a.2.2 ++ ')' :: after) := by
  have hcolon {rest : List Char} (h : rest.head? ≠ some '^') :
      namedClass? (':' :: rest) = namedClass?.named false rest := by
    unfold namedClass?
    split
    · cases ‹_ :: rest = ':' :: '^' :: _›
      exact absurd rfl h
    · cases ‹_ :: rest = ':' :: _›
      rfl
    · rename_i hne
      exact (hne rest rfl).elim
  have hother {cs : List Char} (h : cs.head? ≠ some ':') : namedClass? cs = none := by
    unfold namedClass?
    split
    · exact absurd rfl h
    · exact absurd rfl h
    · rfl
  by_cases hhead : cs.head? = some ':'
  · obtain ⟨rest, rfl⟩ := List.head?_eq_some_iff.mp hhead
    by_cases hcaret : rest.head? = some '^'
    · obtain ⟨rest, rfl⟩ := List.head?_eq_some_iff.mp hcaret
      exact named_closing true rest after
    · rw [List.cons_append, hcolon hcaret, hcolon (head?_append_closing hcaret (by decide) after)]
      exact named_closing false rest after
  · rw [hother hhead, hother (head?_append_closing hhead (by decide) after)]
    rfl

theorem named_suffix {cs r : List Char} {negated negated' : Bool} {set : CharSet}
    (h : namedClass?.named negated' cs = some (negated, set, r)) : r <:+ cs := by
  unfold namedClass?.named at h
  split at h
  · rename_i hdrop
    obtain ⟨_, _, ⟨⟩⟩ := Option.map_eq_some_iff.mp h
    have : ':' :: ']' :: r <:+ cs := hdrop ▸ List.dropWhile_suffix _
    exact (List.suffix_append [':', ']'] r).trans this
  · cases h

/-- The name of a class stands in front. -/
theorem namedClass?_suffix {cs r : List Char} {negated : Bool} {set : CharSet}
    (h : namedClass? cs = some (negated, set, r)) : r <:+ cs := by
  unfold namedClass? at h
  split at h
  · exact (named_suffix h).trans (List.suffix_append [':', '^'] _)
  · exact (named_suffix h).trans (List.suffix_cons ':' _)
  · cases h

/-- A parenthesis is no blank. -/
theorem dropBlanks_closing (cs after : List Char) :
    (cs ++ ')' :: after).dropWhile Text.isBlank = cs.dropWhile Text.isBlank ++ ')' :: after := by
  rw [List.dropWhile_append]
  cases cs.dropWhile Text.isBlank <;> rfl

/-- A minus sign before the parenthesis is none that stands for itself. -/
theorem minusIsLiteral_closing (flags : Flags) (cs after : List Char) :
    minusIsLiteral flags (cs ++ ')' :: after) = minusIsLiteral flags cs := by
  have hafter : minusIsLiteral.afterBlanks (cs ++ ')' :: after) =
      minusIsLiteral.afterBlanks cs ++ ')' :: after := by
    unfold minusIsLiteral.afterBlanks
    rw [dropBlanks_closing]
    cases cs.dropWhile Text.isBlank with
    | nil => rfl
    | cons c rest =>
      by_cases hc : c = '#'
      · subst hc
        exact dropBlanks_closing rest after
      · simp [hc]
  unfold minusIsLiteral
  by_cases hverbose : flags.verbose
  · simp only [if_pos hverbose, hafter]
    cases minusIsLiteral.afterBlanks cs <;> rfl
  · simp only [if_neg hverbose]
    cases cs <;> rfl

/-- A unit in a bracket is read like one outside. -/
theorem bracketAtom?_steady (flags : Flags) (c : Char) (rest : List Char) :
    SteadyAt (LostUnit flags) (fun rest => bracketAtom? flags (c :: rest)) rest := by
  by_cases hback : c = '\\'
  · subst hback
    exact escape?_steady flags rest
  · exact (SteadyAt.some (Atom.char c)).congr (by simp [bracketAtom?]) fun after => by
      simp [bracketAtom?]

/-- A unit that stands alone. -/
def aloneItem? (flags : Flags) (low : Atom) (rest : List Char) : Option (CharSet × List Char) :=
  (low.inBracket? flags).map fun set => (set, rest)

theorem aloneItem?_steady (flags : Flags) (low : Atom) : Steady (aloneItem? flags low) :=
  fun _ => .ofOption (low.inBracket? flags) id

/-- Without a minus sign there is no range. -/
theorem itemAfter?_of_head {low : Atom} {cs : List Char} (h : cs.head? ≠ some '-') :
    itemAfter? flags low cs = aloneItem? flags low cs := by
  unfold itemAfter?
  split
  · exact absurd rfl h
  · rfl

/-- The end of a range. A word boundary is none, so what it leads to does not matter. -/
theorem rangeEnd_steady (flags : Flags) (low : Atom) : Steady fun cs =>
    (bracketAtom? flags cs).bind fun a => (range? flags low a.1).bind fun y => some (y, a.2) := by
  have hatom : ∀ cs, SteadyAt (LostUnit flags) (bracketAtom? flags) cs
    | [] => .nil rfl fun after x r hr => .inl (by cases hr; exact List.suffix_refl after)
    | c :: rest => .cons (bracketAtom?_steady flags c rest)
  refine fun cs => (hatom cs).filterMap (range? flags low) ?_
  rintro after high r y (hpast | ⟨rfl, -⟩) hr
  · exact hpast
  · cases low <;> cases hr

/-- A range ends before the parenthesis, or its end is taken from behind it. -/
theorem itemAfter?_steady (flags : Flags) (low : Atom) : Steady (itemAfter? flags low) := by
  refine (aloneItem?_steady flags low).ofHead (· = '-') (by decide) rfl
    (fun c rest hc => itemAfter?_of_head fun h => hc (Option.some.inj h)) ?_
  rintro _ rest rfl
  by_cases hliteral : minusIsLiteral flags rest
  · exact (aloneItem?_steady flags low ('-' :: rest)).congr (if_pos hliteral) fun after =>
      if_pos ((minusIsLiteral_closing flags rest after).trans hliteral)
  · exact .cons (((rangeEnd_steady flags low).skipping flags rest).congr (if_neg hliteral)
      fun after => if_neg fun h =>
        hliteral ((minusIsLiteral_closing flags rest after).symm.trans h))

/-- So does a unit or a range. -/
theorem bracketItem?_steady (flags : Flags) (c : Char) :
    Steady fun rest => bracketItem? flags (c :: rest) := by
  intro cs
  have hafter (low : Atom) := (itemAfter?_steady flags low).skipping flags
  refine (bracketAtom?_steady flags c cs).bind (fun low rest _ => (hafter low rest).seam)
    (fun low r y r' hr => (hafter low r).suffix y r' hr) ?_
  -- A word boundary has no place in a bracket, so what it leads to does not matter here either.
  rintro after low r y r' (hpast | ⟨rfl, inside, rfl, -⟩) hr
  · exact ((hafter low r).suffix y r' hr).trans hpast
  · rw [skip_cons flags (by decide) (by decide), itemAfter?_of_head (by simp)] at hr
    cases hr

/-! ## Pieces -/

/-- A class or a bracket within begins and is steady. -/
theorem openedPiece?_steady (flags : Flags) (b : OpenBracket) (outer : List OpenBracket) :
    Steady (openedPiece? flags b outer) := by
  intro rest
  cases h : namedClass? rest with
  | none =>
    refine ((begin_steady flags rest).map (fun inner => .inr (inner :: b :: outer))
      fun _ _ _ hl => hl).congr (by simp [openedPiece?, h]) fun after => ?_
    simp [openedPiece?, namedClass?_closing, h]
  | some a =>
    have hclass : SteadyAt Past
        (fun rest => (namedClass? rest).map fun a => ((a.1, a.2.1), a.2.2)) rest := by
      refine .exact ?_ fun after => ?_
      · intro x r hr
        obtain ⟨a, ha, ⟨⟩⟩ := Option.map_eq_some_iff.mp hr
        exact namedClass?_suffix ha
      · rw [namedClass?_closing]
        cases namedClass? rest <;> rfl
    refine (hclass.filterMap (fun named => classAdded? flags b outer named.1 named.2)
      fun _ _ _ _ hl _ => hl).congr ?_ fun after => ?_
    · simp only [openedPiece?, h, Option.map_some, Option.bind_some]
      cases classAdded? flags b outer a.1 a.2.1 <;> rfl
    · simp only [openedPiece?, namedClass?_closing, h, Option.map_some, Option.bind_some]
      cases classAdded? flags b outer a.1 a.2.1 <;> rfl

/-- An operator is two signs of one kind, and the parenthesis is none of them. -/
theorem itemPiece?_steady (flags : Flags) (b : OpenBracket) (outer : List OpenBracket) (c : Char) :
    Steady (itemPiece? flags b outer c) := by
  refine ((bracketItem?_steady flags c).map fun set =>
    .inr ({ b with items := b.items.addSet set } :: outer)).ofHead
      (fun d => d = c ∧ (doubled? c).isSome) ?_ rfl (fun d after hd => ?_) ?_
  · rintro ⟨rfl, h⟩
    exact absurd h (by decide)
  · have hnone : operation? c (d :: after) = none := by
      rw [operation?]
      split
      · exact Option.map_eq_none_iff.mpr (Option.not_isSome_iff_eq_none.mp fun h => hd ⟨‹_›, h⟩)
      · rfl
    simp [itemPiece?, hnone]
  · rintro c rest ⟨rfl, h⟩
    obtain ⟨operation, hoperation⟩ := Option.isSome_iff_exists.mp h
    have hread (rest : List Char) : operation? c (c :: rest) = some (operation, rest) := by
      simp [operation?, hoperation]
    refine .cons ((SteadyAt.some (.inr (b.operator flags operation :: outer))).congr ?_
      fun after => ?_)
    · simp [itemPiece?, hread]
    · simp [itemPiece?, hread]

/-- Every piece of a bracket is steady. -/
theorem bracketPiece?_steady (flags : Flags) (b : OpenBracket) (outer : List OpenBracket)
    (c : Char) : Steady (bracketPiece? flags b outer c) := fun rest =>
  .ite (fun _ => openedPiece?_steady flags b outer rest) fun _ =>
    .ite (fun _ => .ofOption (closed? flags b outer) id) fun _ =>
      itemPiece?_steady flags b outer c rest

/-! ## Whole brackets -/

/-- The number that bounds the pieces does not count if it is above that of the characters. -/
theorem bracketRest?_eq : ∀ {k l : Nat} {stack : List OpenBracket} {cs : List Char},
    cs.length < k → cs.length < l → bracketRest? flags k stack cs = bracketRest? flags l stack cs
  | k + 1, l + 1, [], cs, _, _ => rfl
  | k + 1, l + 1, b :: outer, cs, hk, hl => by
    have hskip := (skip_suffix flags cs).length_le
    rw [bracketRest?, bracketRest?]
    cases hcs : skip flags cs with
    | nil => rfl
    | cons c rest =>
      rw [hcs, List.length_cons] at hskip
      refine Option.bind_congr fun a ha => ?_
      obtain ⟨piece, r⟩ := a
      have hrest := ((bracketPiece?_steady flags b outer c rest).suffix piece r ha).length_le
      cases piece with
      | inl set => rfl
      | inr stack => exact bracketRest?_eq (by omega) (by omega)

/-- What is read after a piece. -/
def afterPiece? (flags : Flags) (piece : AfterPiece) (rest : List Char) :
    Option (NestedSet × List Char) :=
  match piece with
  | .inl set => some (set, rest)
  | .inr stack => bracketRest? flags (rest.length + 1) stack rest

/-- Reads the rest of a bracket from the first character of a piece on. -/
def bracketFrom? (flags : Flags) (b : OpenBracket) (outer : List OpenBracket) :
    List Char → Option (NestedSet × List Char)
  | [] => none
  | c :: rest => (bracketPiece? flags b outer c rest).bind fun a => afterPiece? flags a.1 a.2

/-- A bracket is read on from the first character that is not skipped. -/
theorem bracketRest?_eq_bracketFrom? (b : OpenBracket) (outer : List OpenBracket) (cs : List Char) :
    bracketRest? flags (cs.length + 1) (b :: outer) cs =
      bracketFrom? flags b outer (skip flags cs) := by
  have hskip := (skip_suffix flags cs).length_le
  rw [bracketRest?]
  cases hcs : skip flags cs with
  | nil => rfl
  | cons c rest =>
    rw [hcs, List.length_cons] at hskip
    refine Option.bind_congr fun a ha => ?_
    obtain ⟨piece, r⟩ := a
    have hrest := ((bracketPiece?_steady flags b outer c rest).suffix piece r ha).length_le
    cases piece with
    | inl set => rfl
    | inr stack => exact bracketRest?_eq (by omega) (Nat.lt_succ_self _)

/-- A bracket is read on piece by piece until it is closed or nothing is left. -/
@[elab_as_elim]
theorem bracket_induction (flags : Flags) {motive : List OpenBracket → List Char → Prop}
    (none : ∀ {cs}, motive [] cs)
    (nil : ∀ {b outer cs}, skip flags cs = [] → motive (b :: outer) cs)
    (piece : ∀ {b outer cs c rest}, skip flags cs = c :: rest →
      (∀ {stack r}, bracketPiece? flags b outer c rest = some (.inr stack, r) → motive stack r) →
      motive (b :: outer) cs)
    (stack : List OpenBracket) (cs : List Char) : motive stack cs := by
  induction hlen : cs.length using Nat.strong_induction_on generalizing stack cs with
  | _ k ih =>
    subst hlen
    match stack with
    | [] => exact none
    | b :: outer =>
      have hskip := (skip_suffix flags cs).length_le
      cases hcs : skip flags cs with
      | nil => exact nil hcs
      | cons c rest =>
        refine piece hcs fun {stack r} hpiece => ih _ ?_ stack r rfl
        have hrest := ((bracketPiece?_steady flags b outer c rest).suffix _ r hpiece).length_le
        rw [hcs, List.length_cons] at hskip
        omega

/-- What is left after a bracket is a suffix. -/
theorem bracketRest?_suffix (stack : List OpenBracket) (cs : List Char) {r : List Char}
    {set : NestedSet} (h : bracketRest? flags (cs.length + 1) stack cs = some (set, r)) :
    r <:+ cs := by
  induction stack, cs using bracket_induction flags with
  | none => cases h
  | nil hcs =>
    rw [bracketRest?_eq_bracketFrom?, hcs] at h
    cases h
  | @piece b outer cs c rest hcs ih =>
    rw [bracketRest?_eq_bracketFrom?, hcs] at h
    obtain ⟨⟨piece, after⟩, hpiece, hr⟩ := Option.bind_eq_some_iff.mp h
    have hafter := (bracketPiece?_steady flags b outer c rest).suffix _ _ hpiece
    have hrest : rest <:+ cs := (List.suffix_cons c rest).trans (hcs ▸ skip_suffix flags cs)
    refine List.IsSuffix.trans ?_ (hafter.trans hrest)
    cases piece with
    | inl set =>
      cases hr
      exact List.suffix_refl _
    | inr stack => exact ih hpiece hr

theorem afterPiece?_suffix {piece : AfterPiece} {rest r : List Char}
    {set : NestedSet} (h : afterPiece? flags piece rest = some (set, r)) : r <:+ rest := by
  cases piece with
  | inl set =>
    cases h
    exact List.suffix_refl _
  | inr stack => exact bracketRest?_suffix stack rest h

theorem bracketFrom?_suffix {b : OpenBracket} {outer : List OpenBracket} {cs r : List Char}
    {set : NestedSet} (h : bracketFrom? flags b outer cs = some (set, r)) : r <:+ cs := by
  cases cs with
  | nil => cases h
  | cons c rest =>
    obtain ⟨a, ha, hr⟩ := Option.bind_eq_some_iff.mp h
    have hafter := (bracketPiece?_steady flags b outer c rest).suffix a.1 a.2 ha
    exact (afterPiece?_suffix hr).trans (hafter.trans (List.suffix_cons c rest))

/-- The rest of a bracket is steady, by its pieces. -/
theorem bracketRest?_steady (flags : Flags) (stack : List OpenBracket) :
    Steady fun cs => bracketRest? flags (cs.length + 1) stack cs := by
  intro cs
  induction stack, cs using bracket_induction flags with
  | none => exact .none
  | @nil b outer cs hcs =>
    suffices h : SteadyAt Past (bracketFrom? flags b outer) (skip flags cs) by
      simpa only [bracketRest?_eq_bracketFrom?] using h.skipping fun _ _ _ => bracketFrom?_suffix
    rw [hcs]
    refine .nil rfl fun after x r hr => ?_
    obtain ⟨a, ha, hr⟩ := Option.bind_eq_some_iff.mp hr
    exact (afterPiece?_suffix hr).trans
      ((bracketPiece?_steady flags b outer ')' after).suffix a.1 a.2 ha)
  | @piece b outer cs c rest hcs ih =>
    suffices h : SteadyAt Past (bracketFrom? flags b outer) (skip flags cs) by
      simpa only [bracketRest?_eq_bracketFrom?] using h.skipping fun _ _ _ => bracketFrom?_suffix
    rw [hcs]
    refine .cons ((bracketPiece?_steady flags b outer c rest).bind (fun piece after ha => ?_)
      (fun _ _ _ _ => afterPiece?_suffix) fun _ _ _ _ _ hl hr => (afterPiece?_suffix hr).trans hl)
    cases piece with
    | inl set => exact (SteadyAt.some set).seam
    | inr stack => exact (ih ha).seam

/-- A bracket that is closed is closed before the parenthesis. -/
theorem bracket?_steady (flags : Flags) : Steady (bracket? flags) := by
  refine ((begin_steady flags).bind fun b => bracketRest?_steady flags [b]).congr fun cs => ?_
  have hrest := ((begin_steady flags cs).suffix _ _ rfl).length_le
  exact bracketRest?_eq (by omega) (Nat.lt_succ_self _)

end GuiTest.Regex
