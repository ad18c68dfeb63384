import Mathlib.Data.List.Infix
import GuiTest.Proofs.Regex.Library

/-!
# Reading up to a closing parenthesis

What a reader makes of some characters, and what it makes of them with a closing parenthesis and
anything else after them, are the same for most readers and most characters: the parenthesis is left
where it is. `Seam` says how the two can differ. A comment at the end of the characters takes the
parenthesis with it; and characters that break off within a unit may be completed by the parenthesis
or by what comes after it, but then the parenthesis is gone. The readers are put together from few
parts, and each way to put them together keeps this.
-/

namespace GuiTest.Regex

variable {α β : Type}

/-- A first character that is looked for is not the parenthesis. -/
theorem head?_append_closing {c : Char} {cs : List Char} (h : cs.head? ≠ some c) (hc : c ≠ ')')
    (after : List Char) : (cs ++ ')' :: after).head? ≠ some c := by
  cases cs with
  | nil => exact fun he => hc (Option.some.inj he).symm
  | cons d rest => exact h

/-- A name that ends with another character ends before the parenthesis or has it inside. -/
theorem takeWhile_closing {c : Char} (hc : c ≠ ')') (cs : List Char) :
    (cs.dropWhile (· != c) = [] ∧ ∀ after,
      ')' ∈ (cs ++ ')' :: after).takeWhile (· != c) ∧
        (cs ++ ')' :: after).dropWhile (· != c) <:+ after) ∨
    (cs.dropWhile (· != c) ≠ [] ∧ ∀ after,
      (cs ++ ')' :: after).takeWhile (· != c) = cs.takeWhile (· != c) ∧
        (cs ++ ')' :: after).dropWhile (· != c) = cs.dropWhile (· != c) ++ ')' :: after) := by
  have hsplit := List.takeWhile_append_dropWhile (p := (· != c)) (l := cs)
  simp only [List.dropWhile_append, List.takeWhile_append]
  cases hdrop : cs.dropWhile (· != c) with
  | nil =>
    rw [hdrop, List.append_nil] at hsplit
    refine .inl ⟨rfl, fun after => ⟨by simp [hsplit, hc.symm], ?_⟩⟩
    simpa [hc.symm] using List.dropWhile_suffix (l := after) (· != c)
  | cons d rest =>
    have hlen : (cs.takeWhile (· != c)).length ≠ cs.length := by
      have := congrArg List.length hsplit
      rw [hdrop, List.length_append, List.length_cons] at this
      omega
    exact .inr ⟨List.cons_ne_nil d rest, fun after => ⟨if_neg hlen, rfl⟩⟩

/-! ## Readers at a seam -/

/-- How a reader fares if a closing parenthesis follows: `alone` is what it makes of some
characters, `joined after` is what it makes of them with the parenthesis and `after` behind them.
Either it stops at the same place, before the parenthesis, or it goes `past` it: then the
characters are all it can read alone, which takes a `comment`, and where it gets to otherwise is
`Lost`. -/
inductive Seam (comment : Prop) (Lost : List Char → α → List Char → Prop)
    (alone : Option (α × List Char)) (joined : List Char → Option (α × List Char)) : Prop where
  | through (x : α) (rest : List Char) :
      alone = some (x, rest) → (∀ after, joined after = some (x, rest ++ ')' :: after)) →
      Seam comment Lost alone joined
  | past :
      (∀ x r, alone = some (x, r) → comment ∧ r = []) →
      (∀ after x r, joined after = some (x, r) → Lost after x r) → Seam comment Lost alone joined

/-- A reader that reads nothing alone. -/
theorem Seam.broken {comment : Prop} {Lost : List Char → α → List Char → Prop}
    {alone : Option (α × List Char)} {joined : List Char → Option (α × List Char)}
    (halone : alone = none) (hjoined : ∀ after x r, joined after = some (x, r) → Lost after x r) :
    Seam comment Lost alone joined :=
  .past (by simp [halone]) hjoined

/-- A reader may count as lost at more places, and characters may be said to have a comment more
often. -/
theorem Seam.imp {comment comment' : Prop} {Lost Lost' : List Char → α → List Char → Prop}
    {alone : Option (α × List Char)} {joined : List Char → Option (α × List Char)}
    (h : Seam comment Lost alone joined) (hcomment : comment → comment')
    (hlost : ∀ after x r, Lost after x r → Lost' after x r) : Seam comment' Lost' alone joined := by
  obtain ⟨x, rest, ha, hj⟩ | ⟨ha, hj⟩ := h
  · exact .through x rest ha hj
  · exact .past (fun x r hr => (ha x r hr).imp_left hcomment)
      fun after x r hr => hlost after x r (hj after x r hr)

/-- The parenthesis was taken: what is left is some of what comes after it. -/
abbrev Past (after : List Char) (_ : α) (r : List Char) : Prop := r <:+ after

/-- A reader answers with a suffix of these characters, and fares well at the seam after them. -/
structure SteadyAt (Lost : List Char → α → List Char → Prop)
    (read : List Char → Option (α × List Char)) (cs : List Char) : Prop where
  suffix : ∀ x r, read cs = some (x, r) → r <:+ cs
  seam : Seam (SignInLastLine cs) Lost (read cs) fun after => read (cs ++ ')' :: after)

/-- A reader that is lost only beyond the parenthesis. -/
abbrev Steady (read : List Char → Option (α × List Char)) : Prop := ∀ cs, SteadyAt Past read cs

namespace SteadyAt

variable {Lost : List Char → α → List Char → Prop}
  {read read' : List Char → Option (α × List Char)} {cs : List Char}

/-- Only what a reader makes of the characters counts, alone and with the parenthesis. -/
theorem congr (h : SteadyAt Lost read cs) (halone : read' cs = read cs)
    (hjoined : ∀ after, read' (cs ++ ')' :: after) = read (cs ++ ')' :: after)) :
    SteadyAt Lost read' cs where
  suffix := halone ▸ h.suffix
  seam := by simpa only [halone, hjoined] using h.seam

/-- A reader may count as lost at more places. -/
theorem mono {Lost' : List Char → α → List Char → Prop} (h : SteadyAt Lost read cs)
    (hlost : ∀ after x r, Lost after x r → Lost' after x r) : SteadyAt Lost' read cs where
  suffix := h.suffix
  seam := h.seam.imp id hlost

/-- A first character that was looked at is no part of what is read after it. -/
theorem cons {c : Char} (h : SteadyAt Lost (fun rest => read (c :: rest)) cs) :
    SteadyAt Lost read (c :: cs) where
  suffix x r hr := (h.suffix x r hr).trans (List.suffix_cons c cs)
  seam := h.seam.imp (·.of_suffix (List.suffix_cons c cs)) fun _ _ _ => id

/-- A reader that cannot do without a character is lost if it takes the parenthesis for it. -/
theorem nil (hread : read [] = none)
    (hclose : ∀ after x r, read (')' :: after) = some (x, r) → Lost after x r) :
    SteadyAt Lost read [] where
  suffix := by simp [hread]
  seam := .broken hread hclose

theorem none : SteadyAt Lost (fun _ => Option.none) cs where
  suffix := nofun
  seam := .broken rfl nofun

theorem some (x : α) : SteadyAt Lost (fun rest => Option.some (x, rest)) cs where
  suffix := by rintro _ _ ⟨⟩; exact List.suffix_refl cs
  seam := .through x cs rfl fun _ => rfl

/-- A reader that leaves the parenthesis where it is if it succeeds, and does not succeed by it. -/
theorem exact (hsuffix : ∀ x r, read cs = Option.some (x, r) → r <:+ cs)
    (hclosing : ∀ after,
      read (cs ++ ')' :: after) = (read cs).map fun a => (a.1, a.2 ++ ')' :: after)) :
    SteadyAt Lost read cs := by
  refine ⟨hsuffix, ?_⟩
  simp only [hclosing]
  cases read cs with
  | none => exact .broken rfl nofun
  | some a => exact .through a.1 a.2 rfl fun _ => rfl

/-- A reader may depend on anything that does not depend on the characters. -/
theorem ite {p : Prop} [Decidable p] (hpos : p → SteadyAt Lost read cs)
    (hneg : ¬p → SteadyAt Lost read' cs) :
    SteadyAt Lost (fun rest => if p then read rest else read' rest) cs := by
  by_cases h : p
  · simpa only [if_pos h] using hpos h
  · simpa only [if_neg h] using hneg h

/-- What is answered without a look at the characters takes none. -/
theorem ofOption (o : Option β) (f : β → α) :
    SteadyAt Lost (fun rest => o.map fun x => (f x, rest)) cs := by
  cases o with
  | none => exact none
  | some x => exact some (f x)

/-- One reader after another. -/
theorem bind {Lost' : List Char → β → List Char → Prop}
    {next : α → List Char → Option (β × List Char)} (h : SteadyAt Lost read cs)
    (hnext : ∀ x rest, read cs = Option.some (x, rest) →
      Seam (SignInLastLine rest) Lost' (next x rest) fun after => next x (rest ++ ')' :: after))
    (hsuffix : ∀ x r y r', next x r = Option.some (y, r') → r' <:+ r)
    (hlost : ∀ after x r y r', Lost after x r → next x r = Option.some (y, r') →
      Lost' after y r') :
    SteadyAt Lost' (fun cs => (read cs).bind fun a => next a.1 a.2) cs where
  suffix y r' hr := by
    obtain ⟨⟨x, r⟩, hx, hy⟩ := Option.bind_eq_some_iff.mp hr
    exact (hsuffix x r y r' hy).trans (h.suffix x r hx)
  seam := by
    obtain ⟨x, rest, ha, hj⟩ | ⟨ha, hj⟩ := h.seam
    · simp only [ha, hj, Option.bind_some]
      exact (hnext x rest ha).imp (·.of_suffix (h.suffix x rest ha)) fun _ _ _ => id
    · -- Alone nothing is left for the second reader; joined it starts beyond the parenthesis.
      refine .past (fun y r' hr => ?_) fun after y r' hr => ?_
      · obtain ⟨⟨x, r⟩, hx, hy⟩ := Option.bind_eq_some_iff.mp hr
        obtain ⟨hcomment, rfl⟩ := ha x r hx
        exact ⟨hcomment, List.suffix_nil.mp (hsuffix x [] y r' hy)⟩
      · obtain ⟨⟨x, r⟩, hx, hy⟩ := Option.bind_eq_some_iff.mp hr
        exact hlost after x r y r' (hj after x r hx) hy

/-- What was read is worked on, which may fail, and nothing more is read. -/
theorem filterMap {Lost' : List Char → β → List Char → Prop} (h : SteadyAt Lost read cs)
    (f : α → Option β)
    (hlost : ∀ after x r y, Lost after x r → f x = Option.some y → Lost' after y r) :
    SteadyAt Lost' (fun cs => (read cs).bind fun a => (f a.1).bind fun y => Option.some (y, a.2))
      cs := by
  have hnext (x : α) (rest : List Char) :
      SteadyAt Lost' (fun rest => (f x).bind fun y => Option.some (y, rest)) rest := by
    cases f x with
    | none => exact none
    | some y => exact some y
  refine h.bind (fun x rest _ => (hnext x rest).seam) ?_ ?_
  · intro x r y r' hr
    obtain ⟨_, _, ⟨⟩⟩ := Option.bind_eq_some_iff.mp hr
    exact List.suffix_refl r
  · intro after x r y r' hl hr
    obtain ⟨y, hy, ⟨⟩⟩ := Option.bind_eq_some_iff.mp hr
    exact hlost after x r y hl hy

/-- What was read is worked on, and nothing more is read. -/
theorem map {Lost' : List Char → β → List Char → Prop} (h : SteadyAt Lost read cs) (f : α → β)
    (hlost : ∀ after x r, Lost after x r → Lost' after (f x) r) :
    SteadyAt Lost' (fun cs => (read cs).map fun a => (f a.1, a.2)) cs :=
  have hmap := h.filterMap (fun x => Option.some (f x)) fun after x r _ hl hx =>
    Option.some.inj hx ▸ hlost after x r hl
  hmap.congr (by cases read cs <;> rfl) fun after => by cases read (cs ++ ')' :: after) <;> rfl

end SteadyAt

namespace Steady

variable {read read' : List Char → Option (α × List Char)}

theorem congr (h : Steady read) (heq : ∀ cs, read' cs = read cs) : Steady read' :=
  fun cs => (h cs).congr (heq cs) fun after => heq (cs ++ ')' :: after)

/-- A reader that cannot do without a character is steady if it is so after each one. -/
theorem ofCons (hnil : read [] = none) (hcons : ∀ c, Steady fun rest => read (c :: rest)) :
    Steady read
  | [] => .nil hnil fun after x r hr => (hcons ')' after).suffix x r hr
  | c :: rest => (hcons c rest).cons

/-- One steady reader after another is steady. -/
theorem bind {next : α → List Char → Option (β × List Char)} (h : Steady read)
    (hnext : ∀ x, Steady (next x)) : Steady fun cs => (read cs).bind fun a => next a.1 a.2 :=
  fun cs => (h cs).bind (fun x rest _ => (hnext x rest).seam)
    (fun x r y r' hr => (hnext x r).suffix y r' hr)
    fun _ x r y r' hl hr => ((hnext x r).suffix y r' hr).trans hl

theorem filterMap (h : Steady read) (f : α → Option β) :
    Steady fun cs => (read cs).bind fun a => (f a.1).bind fun y => some (y, a.2) :=
  fun cs => (h cs).filterMap f fun _ _ _ _ hl _ => hl

theorem map (h : Steady read) (f : α → β) :
    Steady fun cs => (read cs).map fun a => (f a.1, a.2) :=
  fun cs => (h cs).map f fun _ _ _ hl => hl

/-- A reader that does as another one apart from some first characters. -/
theorem ofHead (h : Steady read') (special : Char → Prop) (hclose : ¬special ')')
    (hnil : read [] = read' [])
    (hother : ∀ c rest, ¬special c → read (c :: rest) = read' (c :: rest))
    (hspecial : ∀ c rest, special c → SteadyAt Past read (c :: rest)) : Steady read
  | [] => (h []).congr hnil fun after => hother ')' after hclose
  | c :: rest => by
    by_cases hc : special c
    · exact hspecial c rest hc
    · exact (h (c :: rest)).congr (hother c rest hc) fun after => hother c _ hc

end Steady

/-! ## Blanks and comments -/

/-- What is skipped stands in front. -/
theorem skipBlanks_suffix (cs : List Char) : skipBlanks cs <:+ cs ∧ skipComment cs <:+ cs := by
  induction cs with
  | nil => simp [skipBlanks, skipComment]
  | cons c rest ih =>
    obtain ⟨hblanks, hcomment⟩ := ih
    have hrest := List.suffix_cons c rest
    constructor
    · rw [skipBlanks]
      split
      · exact hblanks.trans hrest
      · split
        · exact hcomment.trans hrest
        · exact List.suffix_refl _
    · rw [skipComment]
      split
      · exact hblanks.trans hrest
      · exact hcomment.trans hrest

/-- So it does if blanks do not count. -/
theorem skip_suffix (flags : Flags) (cs : List Char) : skip flags cs <:+ cs := by
  unfold skip
  split
  · exact (skipBlanks_suffix cs).1
  · exact List.suffix_refl cs

/-- Blanks and comments end before the parenthesis, unless it is in a comment. -/
theorem skipBlanks_closes (cs : List Char) :
    ((∀ after, skipBlanks (cs ++ ')' :: after) = skipBlanks cs ++ ')' :: after) ∨
      SignInLastLine cs ∧ skipBlanks cs = [] ∧
        ∀ after, skipBlanks (cs ++ ')' :: after) <:+ after) ∧
    ((∀ after, skipComment (cs ++ ')' :: after) = skipComment cs ++ ')' :: after) ∨
      (SignInLastLine cs ∨ '\n' ∉ cs) ∧ skipComment cs = [] ∧
        ∀ after, skipComment (cs ++ ')' :: after) <:+ after) := by
  -- Blanks lead into comments and back, so one induction is about both.
  induction cs with
  | nil =>
    refine ⟨.inl fun after => ?_, .inr ⟨.inr List.not_mem_nil, rfl, fun after => ?_⟩⟩
    · exact (skipBlanks.eq_2 ')' after).trans ((if_neg (by decide)).trans (if_neg (by decide)))
    · rw [List.nil_append, skipComment, if_neg (by decide)]
      exact (skipBlanks_suffix after).2
  | cons c rest ih =>
    obtain ⟨hblanks, hcomment⟩ := ih
    have hsign (h : SignInLastLine rest) : SignInLastLine (c :: rest) :=
      h.of_suffix (List.suffix_cons c rest)
    constructor
    · simp only [List.cons_append, skipBlanks]
      split
      · exact hblanks.imp id fun h => ⟨hsign h.1, h.2⟩
      split
      · refine hcomment.imp id fun h => ⟨h.1.elim hsign fun hline => ?_, h.2⟩
        exact ⟨[], rest, by simp_all, hline⟩
      · exact .inl fun _ => rfl
    · simp only [List.cons_append, skipComment]
      split
      · exact hblanks.imp id fun h => ⟨.inl (hsign h.1), h.2⟩
      · refine hcomment.imp id fun h => ⟨h.1.imp hsign fun hline => ?_, h.2⟩
        simpa using ⟨Ne.symm ‹_›, hline⟩

/-- Where blanks do not count, nothing is skipped, and else they end as above. -/
theorem skip_closes (flags : Flags) (cs : List Char) :
    (∀ after, skip flags (cs ++ ')' :: after) = skip flags cs ++ ')' :: after) ∨
      SignInLastLine cs ∧ skip flags cs = [] ∧
        ∀ after, skip flags (cs ++ ')' :: after) <:+ after := by
  unfold skip
  split
  · exact (skipBlanks_closes cs).1
  · exact .inl fun _ => rfl

/-- A reader that first skips blanks and comments. -/
theorem SteadyAt.skipping {read : List Char → Option (α × List Char)} {flags : Flags}
    {cs : List Char} (h : SteadyAt Past read (skip flags cs))
    (hsuffix : ∀ ds x r, read ds = Option.some (x, r) → r <:+ ds) :
    SteadyAt Past (fun cs => read (skip flags cs)) cs where
  suffix x r hr := (h.suffix x r hr).trans (skip_suffix flags cs)
  seam := by
    rcases skip_closes flags cs with hclose | ⟨hsign, hnil, hpast⟩
    · simp only [hclose]
      exact h.seam.imp (·.of_suffix (skip_suffix flags cs)) fun _ _ _ => id
    · refine .past (fun x r hr => ⟨hsign, ?_⟩) fun after x r hr => ?_
      · exact List.suffix_nil.mp (hnil ▸ h.suffix x r hr)
      · exact (hsuffix _ x r hr).trans (hpast after)

theorem Steady.skipping {read : List Char → Option (α × List Char)} (h : Steady read)
    (flags : Flags) : Steady fun cs => read (skip flags cs) :=
  fun cs => (h (skip flags cs)).skipping fun ds => (h ds).suffix

theorem skip_nil (flags : Flags) : skip flags [] = [] := List.suffix_nil.mp (skip_suffix flags [])

/-- Nothing is skipped before a character that is no blank and begins no comment. -/
theorem skip_cons (flags : Flags) {c : Char} (hblank : Text.isBlank c = false) (hsign : c ≠ '#')
    (rest : List Char) : skip flags (c :: rest) = c :: rest := by
  unfold skip
  split
  · rw [skipBlanks, if_neg (by simp [hblank]), if_neg hsign]
  · rfl

theorem skip_closing (flags : Flags) (after : List Char) :
    skip flags (')' :: after) = ')' :: after := skip_cons flags (by decide) (by decide) after

/-- Blanks that end before a character end there with the parenthesis too. -/
theorem skip_append_of_cons {flags : Flags} {c : Char} {cs rest : List Char}
    (h : skip flags cs = c :: rest) (after : List Char) :
    skip flags (cs ++ ')' :: after) = c :: (rest ++ ')' :: after) := by
  rcases skip_closes flags cs with hclose | ⟨-, hnil, -⟩
  · rw [hclose, h, List.cons_append]
  · cases h.symm.trans hnil

/-- Blanks that go on to the end end at the parenthesis, or take it into a comment. -/
theorem skip_append_of_nil {flags : Flags} {cs : List Char} (h : skip flags cs = []) :
    (∀ after, skip flags (cs ++ ')' :: after) = ')' :: after) ∨
      SignInLastLine cs ∧ ∀ after, skip flags (cs ++ ')' :: after) <:+ after := by
  refine (skip_closes flags cs).imp (fun hclose after => ?_) fun hclose => ⟨hclose.1, hclose.2.2⟩
  rw [hclose, h, List.nil_append]

/-- What is skipped before a parenthesis is so without it. -/
theorem skip_of_append {flags : Flags} {cs rest after : List Char}
    (h : skip flags (cs ++ ')' :: after) = rest ++ ')' :: after) : skip flags cs = rest := by
  rcases skip_closes flags cs with hclose | ⟨-, -, hpast⟩
  · exact List.append_cancel_right ((hclose after).symm.trans h)
  · have := (h ▸ hpast after).length_le
    rw [List.length_append, List.length_cons] at this
    omega

/-! ## Braces and digits -/

/-- Braces end with the one that closes them. -/
theorem braced?_suffix {verbose : Bool} {cs x r : List Char} :
    (braced? verbose cs = some (x, r) → '}' :: r <:+ cs) ∧
      (bracedComment? verbose cs = some (x, r) → '}' :: r <:+ cs) := by
  induction cs generalizing x with
  | nil => exact ⟨nofun, nofun⟩
  | cons c rest ih =>
    have hrest := List.suffix_cons c rest
    constructor
    · intro hr
      rw [braced?] at hr
      split at hr
      · cases hr
        exact ‹c = '}'› ▸ List.suffix_refl _
      split at hr
      · exact (ih.1 hr).trans hrest
      split at hr
      · exact (ih.2 hr).trans hrest
      · obtain ⟨_, ha, ⟨⟩⟩ := Option.map_eq_some_iff.mp hr
        exact (ih.1 ha).trans hrest
    · intro hr
      rw [bracedComment?] at hr
      split at hr
      · exact (ih.1 hr).trans hrest
      · exact (ih.2 hr).trans hrest

/-- Braces that are closed are closed before the parenthesis. -/
theorem braced?_steady (verbose : Bool) : Steady (braced? verbose) := by
  intro cs
  -- What is in braces and the comments in it are read by turns, so both are shown at once.
  suffices h : SteadyAt Past (braced? verbose) cs ∧ SteadyAt Past (bracedComment? verbose) cs
    from h.1
  induction cs with
  | nil =>
    refine ⟨.nil rfl fun after x r hr => ?_, .nil rfl fun after x r hr => ?_⟩
    · rw [braced?, if_neg (by decide), if_neg (by simp [Text.isBlank]), if_neg (by simp)] at hr
      obtain ⟨_, ha, ⟨⟩⟩ := Option.map_eq_some_iff.mp hr
      exact (List.suffix_cons '}' _).trans (braced?_suffix.1 ha)
    · rw [bracedComment?, if_neg (by decide)] at hr
      exact (List.suffix_cons '}' r).trans (braced?_suffix.2 hr)
  | cons c rest ih =>
    obtain ⟨hbraced, hcomment⟩ := ih
    constructor
    · refine .cons ?_
      simp only [braced?]
      split
      · exact .some []
      · split
        · exact hbraced
        · split
          · exact hcomment
          · exact hbraced.map (fun inside => c :: inside) fun _ _ _ hl => hl
    · refine .cons ?_
      simp only [bracedComment?]
      split
      · exact hbraced
      · exact hcomment

/-- Blanks and comments hold no brace that counts. -/
theorem braced?_of_skipBlanks (cs : List Char) :
    (skipBlanks cs = [] → braced? true cs = none) ∧
      (skipComment cs = [] → bracedComment? true cs = none) := by
  induction cs with
  | nil => exact ⟨fun _ => rfl, fun _ => rfl⟩
  | cons c rest ih =>
    obtain ⟨hblanks, hcomment⟩ := ih
    constructor
    · intro h
      rw [skipBlanks] at h
      by_cases hblank : Text.isBlank c
      · rw [if_pos hblank] at h
        have hbrace : c ≠ '}' := by
          rintro rfl
          exact absurd hblank (by decide)
        simp [braced?, hbrace, hblank, hblanks h]
      · rw [if_neg hblank] at h
        by_cases hsign : c = '#'
        · subst hsign
          simp [braced?, hblank, hcomment h]
        · rw [if_neg hsign] at h
          cases h
    · intro h
      rw [skipComment] at h
      rw [bracedComment?]
      by_cases hline : c = '\n'
      · rw [if_pos hline] at h ⊢
        exact hblanks h
      · rw [if_neg hline] at h ⊢
        exact hcomment h

/-- The same, whether blanks count or not. -/
theorem braced?_of_skip {flags : Flags} {cs : List Char} (h : skip flags cs = []) :
    braced? flags.verbose cs = none := by
  unfold skip at h
  cases hverbose : flags.verbose with
  | true =>
    rw [if_pos hverbose] at h
    exact (braced?_of_skipBlanks cs).1 h
  | false =>
    rw [if_neg (by simp [hverbose])] at h
    subst h
    rfl

/-- The parenthesis closes no braces. -/
theorem braced?_closing {verbose : Bool} {cs : List Char} (h : braced? verbose cs = none) :
    braced? verbose (cs ++ [')']) = none := by
  rcases (braced?_steady verbose cs).seam with ⟨_, _, ha, -⟩ | ⟨-, hj⟩
  · cases h.symm.trans ha
  · refine Option.eq_none_iff_forall_ne_some.mpr fun a ha => ?_
    obtain ⟨front, hfront⟩ := braced?_suffix.1 ha
    rw [List.suffix_nil.mp (hj [] a.1 a.2 ha)] at hfront
    cases (List.append_inj' hfront rfl).2

/-- A parenthesis is no digit. -/
theorem hexDigits?_steady (flags : Flags) : ∀ k n, Steady (hexDigits? flags k n)
  | 0, n => fun _ => .some n
  | k + 1, n => .ofCons rfl fun c => by
    simp only [hexDigits?]
    cases Text.hexDigit? c with
    | none => exact fun _ => .none
    | some d => exact (hexDigits?_steady flags k (n * 16 + d)).skipping flags

/-! ## Escapes -/

/-- A character by its number, in braces or not, takes no parenthesis. -/
theorem hexEscape?_steady (flags : Flags) {digits : Nat} (hdigits : digits ≠ 0) :
    Steady (hexEscape? flags digits) := by
  have hunit : Steady (hexUnit? flags digits) := by
    refine ((hexDigits?_steady flags digits 0).filterMap (spelledUnit? flags digits)).ofHead
      (· = '{') (by decide) ?_ (fun c rest hc => ?_) ?_
    · obtain ⟨k, rfl⟩ := Nat.exists_eq_succ_of_ne_zero hdigits
      rfl
    · unfold hexUnit?
      split
      · cases ‹c :: rest = []›
      · exact absurd (List.cons.inj ‹_›).1 hc
      · rfl
    · rintro _ rest rfl
      exact .cons ((braced?_steady flags.verbose).filterMap bracedUnit? rest)
  exact hunit.skipping flags

/-- Nor does the name of a property. -/
theorem propertyEscape?_steady (flags : Flags) (negated : Bool) :
    Steady (propertyEscape? flags negated) := by
  have hunit : Steady (propertyUnit? flags negated) := by
    refine .ofCons rfl fun c => ?_
    by_cases hback : c = '\\'
    · subst hback
      exact fun _ => .none
    by_cases hbrace : c = '{'
    · subst hbrace
      exact (braced?_steady flags.verbose).filterMap fun name =>
        (PropertyName.read? name).bind (propertyAtom? flags negated)
    · have hset : Steady fun rest =>
          ((PropertyName.set? (PropertyName.normalize [c])).bind (propertyAtom? flags negated)).map
            fun a => (a, rest) := fun _ => .ofOption _ id
      exact hset.congr fun rest => by simp [propertyUnit?]
  exact hunit.skipping flags

/-- Where a unit leads that is read by going past the parenthesis or by a look at it: a word
boundary reads an opening brace as the beginning of a repetition only if something comes after it,
and then the brace is not closed before the parenthesis. -/
def LostUnit (flags : Flags) (after : List Char) (a : Atom) (r : List Char) : Prop :=
  r <:+ after ∨ a = .look (.boundary flags.word) ∧
    ∃ inside, r = '{' :: (inside ++ ')' :: after) ∧ braced? flags.verbose inside = none

/-- Where a steady reader is lost, a unit may be too. -/
theorem Steady.unit {flags : Flags} {read : List Char → Option (Atom × List Char)} (h : Steady read)
    (cs : List Char) : SteadyAt (LostUnit flags) read cs :=
  (h cs).mono fun _ _ _ => .inl

/-- Without a brace it is a plain boundary. -/
theorem boundaryKind?_of_head {flags : Flags} {cs : List Char} (h : cs.head? ≠ some '{') :
    boundaryKind? flags cs = some (.look (.boundary flags.word), cs) := by
  unfold boundaryKind?
  split
  · exact absurd rfl h
  · rfl

/-- The name of a boundary in braces, after the opening one. -/
def namedBoundary? (flags : Flags) (cs : List Char) : Option (Atom × List Char) :=
  (braced? flags.verbose cs).bind fun a => (boundaryNamed? flags a.1).bind fun b => some (b, a.2)

theorem namedBoundary?_steady (flags : Flags) : Steady (namedBoundary? flags) :=
  (braced?_steady flags.verbose).filterMap (boundaryNamed? flags)

/-- What comes after an opening brace decides whether it belongs to the boundary. -/
theorem boundaryKind?_brace {flags : Flags} {rest r : List Char} {c : Char}
    (h : skip flags rest = c :: r) :
    boundaryKind? flags ('{' :: rest) =
      if c.isAlpha || c == '-' then namedBoundary? flags rest
      else some (.look (.boundary flags.word), '{' :: rest) := by
  simp only [boundaryKind?, h]
  rfl

theorem boundaryKind?_brace_nil {flags : Flags} {rest : List Char} (h : skip flags rest = []) :
    boundaryKind? flags ('{' :: rest) = none := by
  simp only [boundaryKind?, h]

/-- A boundary looks at what comes after a brace, and only there a parenthesis makes a
difference. -/
theorem boundaryKind?_steady (flags : Flags) (cs : List Char) :
    SteadyAt (LostUnit flags) (boundaryKind? flags) cs := by
  by_cases hhead : cs.head? ≠ some '{'
  · exact (SteadyAt.some _).congr (boundaryKind?_of_head hhead) fun after =>
      boundaryKind?_of_head (head?_append_closing hhead (by decide) after)
  obtain ⟨rest, rfl⟩ := List.head?_eq_some_iff.mp (not_not.mp hhead)
  have hnamed := namedBoundary?_steady flags rest
  cases hskip : skip flags rest with
  | nil =>
    -- Alone the brace is refused, because nothing comes after it; the parenthesis is something.
    have halone := boundaryKind?_brace_nil hskip
    have hbraced := braced?_of_skip hskip
    refine ⟨by simp [halone], .broken halone fun after x r hr => ?_⟩
    rw [List.cons_append] at hr
    cases hjoined : skip flags (rest ++ ')' :: after) with
    | nil =>
      rw [boundaryKind?_brace_nil hjoined] at hr
      cases hr
    | cons c r =>
      rw [boundaryKind?_brace hjoined] at hr
      split at hr
      · rcases hnamed.seam with ⟨x, r, ha, -⟩ | ⟨-, hj⟩
        · rw [namedBoundary?, hbraced] at ha
          cases ha
        · exact .inl (hj after _ _ hr)
      · cases hr
        exact .inr ⟨rfl, rest, rfl, hbraced⟩
  | cons c r =>
    have hjoined := skip_append_of_cons hskip
    by_cases hname : c.isAlpha || c == '-'
    · have hbrace : SteadyAt Past (boundaryKind? flags) ('{' :: rest) :=
        .cons (hnamed.congr ((boundaryKind?_brace hskip).trans (if_pos hname)) fun after =>
          (boundaryKind?_brace (hjoined after)).trans (if_pos hname))
      exact hbrace.mono fun _ _ _ => .inl
    · exact (SteadyAt.some _).congr ((boundaryKind?_brace hskip).trans (if_neg hname)) fun after =>
        (boundaryKind?_brace (hjoined after)).trans (if_neg hname)

/-- What follows a backslash is read as one unit. -/
theorem escape?_steady (flags : Flags) (cs : List Char) :
    SteadyAt (LostUnit flags) (escape? flags) cs := by
  cases cs with
  | nil =>
    refine .nil rfl fun after x r hr => .inl ?_
    obtain ⟨-, rfl⟩ : Atom.char ')' = x ∧ after = r := by simpa [escape?] using hr
    exact List.suffix_refl after
  | cons c rest =>
    refine .cons ?_
    refine .ite (fun _ => (hexEscape?_steady flags (by decide)).unit rest) fun _ => ?_
    refine .ite (fun _ => (hexEscape?_steady flags (by decide)).unit rest) fun _ => ?_
    refine .ite (fun _ => (hexEscape?_steady flags (by decide)).unit rest) fun _ => ?_
    refine .ite (fun _ => (propertyEscape?_steady flags _).unit rest) fun _ => ?_
    refine .ite (fun _ => .ofOption (classEscape? flags c) Atom.set) fun _ => ?_
    refine .ite (fun _ => .some _) fun _ => .ite (fun _ => .some _) fun _ => ?_
    refine .ite (fun _ => boundaryKind?_steady flags rest) fun _ => ?_
    refine .ite (fun _ => .some _) fun _ => .ite (fun _ => .some _) fun _ => ?_
    refine .ite (fun _ => .some _) fun _ => .ite (fun _ => .some _) fun _ => ?_
    exact .ofOption (controlEscape? c) Atom.char

/-- So is any unit outside of brackets. -/
theorem atom?_steady (flags : Flags) (c : Char) (rest : List Char) :
    SteadyAt (LostUnit flags) (fun rest => atom? flags (c :: rest)) rest := by
  by_cases hback : c = '\\'
  · subst hback
    exact escape?_steady flags rest
  by_cases hdot : c = '.'
  · subst hdot
    exact .ite (fun _ => .none) fun _ => .ite (fun _ => .some _) fun _ => .some _
  by_cases hcaret : c = '^'
  · subst hcaret
    exact .some _
  by_cases hdollar : c = '$'
  · subst hdollar
    exact .some _
  · exact (SteadyAt.some (Atom.char c)).congr (by simp [atom?]) fun after => by simp [atom?]

end GuiTest.Regex
