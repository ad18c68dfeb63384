import GuiTest.Proofs.Regex.Bounds

/-!
# The engine does as documented

The engine meets every law that is asked of a library (`engine_documented`), so what is proved from
the laws is proved of it too. The rules of its syntax are what its readers accept, and a pattern
spans what the part that is read spans. The laws on groups come from reading up to a closing
parenthesis, in `Proofs.Regex.Frame`; what stands side by side is one sequence of parts.
-/

namespace GuiTest.Regex

/-- The part that a source is read as. -/
def part? (source : String) : Option Part := Progress.start.part? source.toList

/-- The notions of the engine. -/
def engineNotions : Notions where
  Grammatical source := (part? source).isSome = true
  Fits source := ∀ part ∈ part? source, part.depth ≤ maxDepth ∧ part.states ≤ maxStates
  Spans source text i j := ∃ part ∈ part? source, part.pattern.Spans text i j

/-- A pattern is accepted if it is read to its end within the limits. -/
theorem read_eq_ok_iff {cs : List Char} {q : Pattern} :
    read cs = .ok q ↔ ∃ part, Progress.start.part? cs = some part ∧ part.depth ≤ maxDepth ∧
      part.states ≤ maxStates ∧ part.pattern = q := by
  have hread : Progress.start.finish? (cs.length + 1) cs = Progress.start.part? cs := rfl
  rw [read, hread]
  cases Progress.start.part? cs with
  | none => simp
  | some part =>
    by_cases hdepth : maxDepth < part.depth
    · simp [hdepth, Nat.not_le.mpr hdepth]
    by_cases hstates : maxStates < part.states
    · simp [hdepth, hstates, Nat.not_le.mpr hstates]
    · simp [hdepth, hstates, Nat.not_lt.mp hdepth, Nat.not_lt.mp hstates]

/-! ## Groups among other parts -/

namespace Progress

variable {p q : Progress} {cs : List Char}

/-- Reading outside of all groups, with the flags as they are at first. -/
def holding (a : Alternatives) (names : List (List Char)) : Progress := ⟨a, [], {}, names⟩

theorem part?_holding_nil (a : Alternatives) (names : List (List Char)) :
    (holding a names).part? [] = some a.part := rfl

/-- The parts of the signs for the ends of a text. -/
def caretPart : Part := .ofAtom {} (.look .textStart)

@[inherit_doc caretPart]
def dollarPart : Part := .ofAtom {} (.look .textEnd)

theorem part?_caret (cs : List Char) :
    start.part? ('^' :: cs) = (holding (Alternatives.start.add caretPart) []).part? cs :=
  part?_of_step (skip_cons _ (by decide) (by decide) cs) rfl

theorem part?_dollar (a : Alternatives) (names : List (List Char)) (cs : List Char) :
    (holding a names).part? ('$' :: cs) = (holding (a.add dollarPart) names).part? cs :=
  part?_of_step (skip_cons _ (by decide) (by decide) cs) rfl

/-- A group is opened around what comes next. -/
theorem part?_opening (a : Alternatives) (cs : List Char) :
    (holding a []).part? ('(' :: '?' :: ':' :: cs) = (start.under [⟨a, {}, false⟩]).part? cs :=
  part?_of_step (skip_cons _ (by decide) (by decide) _) rfl

/-- A group around what is read to its end is one part more. -/
theorem Ends.part?_group (h : Ends start cs q) (a : Alternatives) (after : List Char) :
    (holding a []).part? ('(' :: '?' :: ':' :: (cs ++ ')' :: after)) =
      (holding (a.add (.group false q.alternatives.part)) q.names).part? after := by
  rw [part?_opening, h.joined]
  obtain ⟨alternatives, groups, flags, names⟩ := q
  obtain rfl : groups = [] := h.closed
  exact part?_of_step (skip_closing _ after) rfl

end Progress

variable {source : String} {q : Progress}

theorem group_toList (source : String) :
    (group source).toList = '(' :: '?' :: ':' :: (source.toList ++ [')']) := by
  simp only [group, String.toList_append, List.append_assoc]
  rfl

/-! ## What parts span -/

/-- The engine accepts by its syntax what it reads as some part. -/
theorem grammatical_iff : engineNotions.Grammatical source ↔ ∃ part, part? source = some part :=
  Option.isSome_iff_exists

/-- What a source spans is what its part spans. -/
theorem engine_spans_iff {part : Part} (h : part? source = some part) {text : List Char}
    {i j : Nat} : engineNotions.Spans source text i j ↔ part.pattern.Spans text i j := by
  simp [engineNotions, h]

namespace Pattern

variable {text : List Char} {p q : Pattern} {i k : Nat}

/-- Patterns in sequence match side by side. -/
theorem spans_seq_iff :
    (Pattern.seq p q).Spans text i k ↔ ∃ j, p.Spans text i j ∧ q.Spans text j k := by
  constructor
  · rintro ⟨⟩
    exact ⟨_, ‹_›, ‹_›⟩
  · rintro ⟨j, hp, hq⟩
    exact .seq hp hq

/-- Nothing after a pattern adds nothing to it. -/
theorem spans_seq_empty_iff : (Pattern.seq p .empty).Spans text i k ↔ p.Spans text i k := by
  rw [spans_seq_iff]
  constructor
  · rintro ⟨_, hp, ⟨⟩⟩
    exact hp
  · exact fun hp => ⟨k, hp, .empty hp.le_length.2⟩

end Pattern

/-! ## Sources with a group in them -/

theorem part?_caret_eq : part? "^" = some Progress.caretPart := rfl

theorem part?_dollar_eq : part? "$" = some Progress.dollarPart := rfl

section Ends

variable (h : Progress.Ends .start source.toList q)

include h

/-- A source in a group is one part. -/
theorem part?_group_eq : part? (group source) = some (.group false q.alternatives.part) := by
  rw [part?, group_toList]
  exact (h.part?_group .start []).trans (Progress.part?_holding_nil _ _)

/-- With a caret before it there are two. -/
theorem part?_caret_group_eq : part? ("^" ++ group source) =
    some (.sequence [.group false q.alternatives.part, Progress.caretPart]) := by
  have hlist : ("^" ++ group source).toList =
      '^' :: '(' :: '?' :: ':' :: (source.toList ++ [')']) := by
    rw [String.toList_append, group_toList]
    rfl
  rw [part?, hlist, Progress.part?_caret]
  exact (h.part?_group _ []).trans (Progress.part?_holding_nil _ _)

/-- With a dollar sign after it there are three. -/
theorem part?_group_dollar_eq : part? ("^" ++ group source ++ "$") =
    some (.sequence [Progress.dollarPart, .group false q.alternatives.part,
      Progress.caretPart]) := by
  have hlist : ("^" ++ group source ++ "$").toList =
      '^' :: '(' :: '?' :: ':' :: (source.toList ++ [')', '$']) := by
    rw [String.toList_append, String.toList_append, group_toList]
    exact congrArg ('^' :: '(' :: '?' :: ':' :: ·) (List.append_assoc source.toList [')'] ['$'])
  rw [part?, hlist, Progress.part?_caret]
  exact (h.part?_group _ ['$']).trans
    ((Progress.part?_dollar _ _ []).trans (Progress.part?_holding_nil _ _))

/-- Parts in a sequence match side by side. -/
theorem spans_caret_group {text : List Char} {i k : Nat} :
    engineNotions.Spans ("^" ++ group source) text i k ↔
      ∃ j, engineNotions.Spans "^" text i j ∧ engineNotions.Spans (group source) text j k := by
  simp only [engine_spans_iff (part?_caret_group_eq h), engine_spans_iff (part?_group_eq h),
    engine_spans_iff part?_caret_eq]
  refine Pattern.spans_seq_iff.trans (exists_congr fun j => and_congr_right fun _ => ?_)
  exact Pattern.spans_seq_empty_iff

@[inherit_doc spans_caret_group]
theorem spans_group_dollar {text : List Char} {i k : Nat} :
    engineNotions.Spans ("^" ++ group source ++ "$") text i k ↔
      ∃ j, engineNotions.Spans ("^" ++ group source) text i j ∧
        engineNotions.Spans "$" text j k := by
  simp only [engine_spans_iff (part?_group_dollar_eq h), engine_spans_iff (part?_caret_group_eq h),
    engine_spans_iff part?_dollar_eq]
  change (Pattern.seq _ (.seq _ (.seq _ .empty))).Spans text i k ↔
    ∃ j, (Pattern.seq _ (.seq _ .empty)).Spans text i j ∧ _
  simp only [↓Pattern.spans_seq_empty_iff, Pattern.spans_seq_iff]
  constructor
  · rintro ⟨a, hcaret, b, hgroup, hdollar⟩
    exact ⟨b, ⟨a, hcaret, hgroup⟩, hdollar⟩
  · rintro ⟨b, ⟨a, hcaret, hgroup⟩, hdollar⟩
    exact ⟨a, hcaret, b, hgroup, hdollar⟩

end Ends

/-! ## The laws -/

/-- A pattern that a group may be put around is read to its end in that group. -/
theorem exists_ends (h : engineNotions.Grammatical source)
    (hgroup : engineNotions.Grammatical (group source)) :
    ∃ q, Progress.Ends .start source.toList q := by
  obtain ⟨part, hpart⟩ := grammatical_iff.mp h
  obtain ⟨whole, hwhole⟩ := grammatical_iff.mp hgroup
  refine (Progress.ends_or hpart).resolve_right fun hopen => ?_
  have hnone : part? (group source) = none := by
    rw [part?, group_toList]
    exact (Progress.part?_opening .start _).trans (hopen.2 _ (List.cons_ne_nil _ _))
  cases hwhole.symm.trans hnone

/-- What is in a group that is closed is read to its end. -/
theorem exists_ends_of_opening (h : engineNotions.Grammatical ("^(?:" ++ source)) :
    ∃ inside after q, source = inside ++ ")" ++ after ∧ Progress.Ends .start inside.toList q := by
  obtain ⟨part, hpart⟩ := grammatical_iff.mp h
  have hlist : ("^(?:" ++ source).toList = '^' :: '(' :: '?' :: ':' :: source.toList := by
    rw [String.toList_append]
    rfl
  rw [part?, hlist, Progress.part?_caret, Progress.part?_opening] at hpart
  obtain ⟨q, inside, after, hsource, hends⟩ :=
    Progress.exists_ends_of_under (List.cons_ne_nil _ _) hpart
  refine ⟨.ofList inside, .ofList after, q, String.toList_inj.mp ?_, ?_⟩
  · simp only [hsource, String.toList_append, String.toList_ofList, List.append_assoc]
    rfl
  · rw [String.toList_ofList]
    exact hends

/-- **The engine is a library that does as documented.** -/
theorem engine_documented : engine.Documented engineNotions where
  compile_iff {s} := by
    change (∃ q, read s.toList = .ok q) ↔ (part? s).isSome = true ∧ _
    simp only [read_eq_ok_iff, engineNotions]
    change (∃ q part, part? s = some part ∧ _) ↔ _
    cases part? s <;> simp
  isMatch_iff {s p} h text := by
    obtain ⟨part, hpart, -, -, rfl⟩ := read_eq_ok_iff.mp h
    have hordered := Progress.part?_ordered Progress.start_ordered hpart
    simp only [engine_spans_iff hpart]
    exact Pattern.occursIn_iff hordered
  caret := (engine_spans_iff part?_caret_eq).trans Pattern.spans_textStart_iff
  dollar := (engine_spans_iff part?_dollar_eq).trans Pattern.spans_textEnd_iff
  group_spans {s} h hgroup {text i j} := by
    obtain ⟨q, hends⟩ := exists_ends h hgroup
    rw [engine_spans_iff hends.alone, engine_spans_iff (part?_group_eq hends)]
    rfl
  caret_group h hgroup := by
    obtain ⟨q, hends⟩ := exists_ends h hgroup
    exact ⟨grammatical_iff.mpr ⟨_, part?_caret_group_eq hends⟩, spans_caret_group hends⟩
  group_dollar h hgroup := by
    obtain ⟨q, hends⟩ := exists_ends h hgroup
    exact ⟨grammatical_iff.mpr ⟨_, part?_group_dollar_eq hends⟩, spans_group_dollar hends⟩
  grammatical_group h hline := by
    obtain ⟨part, hpart⟩ := grammatical_iff.mp h
    obtain ⟨q, hends⟩ := (Progress.ends_or hpart).resolve_right fun hsign => hline hsign.1
    exact grammatical_iff.mpr ⟨_, part?_group_eq hends⟩
  closed h := by
    obtain ⟨inside, after, q, hsource, hends⟩ := exists_ends_of_opening h
    exact ⟨inside, after, hsource, grammatical_iff.mpr ⟨_, hends.alone⟩,
      grammatical_iff.mpr ⟨_, part?_group_eq hends⟩⟩
  unopened {s} h hgroup after := by
    obtain ⟨q, hends⟩ := exists_ends h hgroup
    have hlist : (s ++ ")" ++ after).toList = s.toList ++ ')' :: after.toList := by
      simp only [String.toList_append, List.append_assoc]
      rfl
    -- No group is open any more when reading comes to the parenthesis.
    have hnone : part? (s ++ ")" ++ after) = none := by
      rw [part?, hlist, hends.part?_closing]
    intro hwhole
    obtain ⟨part, hpart⟩ := grammatical_iff.mp hwhole
    cases hpart.symm.trans hnone

end GuiTest.Regex
