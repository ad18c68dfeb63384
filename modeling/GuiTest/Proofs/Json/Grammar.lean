import GuiTest.Proofs.Json.Spelling

/-!
# Which texts are values

A text is one of a value if it spells the value's tokens, with blanks wherever they may stand
(`Value.IsText`). The reader accepts just these texts (`parse?_eq_some_iff`). That it reads them is
known from the tokens of a value, which never have two numbers next to each other (`chain_tokens`).
That it reads no others is an invariant of its steps: the tokens up to a step are those of the
containers that are open, and of what they hold so far (`Progress.After`).
-/

namespace GuiTest.Json

/-! ## Numbers of a value do not touch -/

/-- Tokens that may come after a number: the first of them is none, and none of them touch. -/
structure MayFollow (ts : List Token) : Prop where
  mark : ∀ t ∈ ts.head?, t.isLiteral = false
  chain : ts.IsChain Apart

namespace MayFollow

theorem nil : MayFollow [] where
  mark t ht := by cases ht
  chain := .nil

/-- Anything may stand before what follows. -/
theorem before {ts : List Token} (h : MayFollow ts) (t : Token) : (t :: ts).IsChain Apart :=
  List.isChain_cons.mpr ⟨fun u hu => Or.inr (h.mark u hu), h.chain⟩

/-- A bracket, a separator or a string may follow, whatever comes next. -/
theorem cons {t : Token} {ts : List Token} (ht : t.isLiteral = false) (h : ts.IsChain Apart) :
    MayFollow (t :: ts) where
  mark u hu := by
    cases hu
    exact ht
  chain := List.isChain_cons.mpr ⟨fun _ _ => Or.inl ht, h⟩

end MayFollow

namespace Value

mutual

/-- **The tokens of a value can be told apart**, with any after them that may follow. -/
theorem chain_tokens : ∀ (v : Value) {rest : List Token}, MayFollow rest →
    (v.tokens ++ rest).IsChain Apart
  | .null, _, h | .bool _, _, h | .number _, _, h | .string _, _, h => h.before _
  | .array items, rest, h => by
    rw [tokens, List.cons_append, List.cons_append, List.append_assoc]
    exact (MayFollow.cons rfl (chain_itemTokens items (.cons rfl h.chain))).chain
  | .object members, rest, h => by
    rw [tokens, List.cons_append, List.cons_append, List.append_assoc]
    exact (MayFollow.cons rfl (chain_memberTokens members (.cons rfl h.chain))).chain

/-- Between items there are commas. -/
theorem chain_itemTokens : ∀ (items : List Value) {rest : List Token}, MayFollow rest →
    (itemTokens items ++ rest).IsChain Apart
  | [], _, h => h.chain
  | v :: items, rest, h => by
    rw [itemTokens, List.append_assoc]
    exact chain_tokens v (follow_moreItems items h)

/-- What follows an item is a comma or the end. -/
theorem follow_moreItems : ∀ (items : List Value) {rest : List Token}, MayFollow rest →
    MayFollow (moreItems items ++ rest)
  | [], _, h => h
  | v :: items, rest, h => by
    rw [moreItems, List.cons_append, List.cons_append, List.append_assoc]
    exact .cons rfl (chain_tokens v (follow_moreItems items h))

/-- Between members there are commas too. -/
theorem chain_memberTokens : ∀ (members : List (Option String × Value)) {rest : List Token},
    MayFollow rest → (memberTokens members ++ rest).IsChain Apart
  | [], _, h => h.chain
  | (name, v) :: members, rest, h => by
    rw [memberTokens, List.cons_append, List.cons_append, List.cons_append, List.cons_append,
      List.append_assoc]
    have hvalue := chain_tokens v (follow_moreMembers members h)
    exact (MayFollow.cons rfl (MayFollow.cons rfl hvalue).chain).chain

/-- So a comma or the end follows a member. -/
theorem follow_moreMembers : ∀ (members : List (Option String × Value)) {rest : List Token},
    MayFollow rest → MayFollow (moreMembers members ++ rest)
  | [], _, h => h
  | (name, v) :: members, rest, h => by
    rw [moreMembers, List.cons_append, List.cons_append, List.cons_append, List.cons_append,
      List.append_assoc]
    have hvalue := chain_tokens v (follow_moreMembers members h)
    exact .cons rfl (MayFollow.cons rfl (MayFollow.cons rfl hvalue).chain).chain

end

end Value

/-! ## What the reader has read so far -/

/-- A bracket, a separator, a string, or a value that is its own only token. -/
def Token.IsScalar : Token → Prop
  | .literal v => v.tokens = [.literal v]
  | _ => True

theorem Spells.isScalar {t : Token} {cs : List Char} (h : Spells t cs) : t.IsScalar := by
  cases h <;> trivial

/-- Each of the tokens is spelled somewhere. -/
theorem SpellsAll.spells {ts : List Token} {cs : List Char} (h : SpellsAll ts cs) :
    ∀ t ∈ ts, ∃ run, Spells t run := by
  induction h with
  | nil => exact fun t ht => absurd ht List.not_mem_nil
  | cons _ ht _ ih => exact List.forall_mem_cons.mpr ⟨⟨_, ht⟩, ih⟩

theorem SpellsAll.isScalar {ts : List Token} {cs : List Char} (h : SpellsAll ts cs) :
    ∀ t ∈ ts, t.IsScalar := by
  intro t ht
  obtain ⟨run, hrun⟩ := h.spells t ht
  exact hrun.isScalar

namespace Value

/-- The tokens of items, each with a comma after it. -/
def commaItems (items : List Value) : List Token := items.flatMap fun v => v.tokens ++ [.comma]

/-- The tokens of members, each with a comma after it. -/
def commaMembers (members : List (Option String × Value)) : List Token :=
  members.flatMap fun (name, v) => .string name :: .colon :: v.tokens ++ [.comma]

theorem commaItems_append (items : List Value) (v : Value) :
    commaItems (items ++ [v]) = commaItems items ++ v.tokens ++ [.comma] := by
  simp [commaItems]

/-- One member more is its name, a colon, its tokens and a comma. -/
theorem commaMembers_append (members : List (Option String × Value)) (name : Option String)
    (v : Value) : commaMembers (members ++ [(name, v)])
      = commaMembers members ++ .string name :: .colon :: v.tokens ++ [.comma] := by
  simp [commaMembers]

/-- The last item has no comma after it. -/
theorem itemTokens_append (items : List Value) (v : Value) :
    itemTokens (items ++ [v]) = commaItems items ++ v.tokens := by
  induction items with
  | nil => exact List.append_nil _
  | cons w items ih =>
    have hmore : itemTokens (w :: items ++ [v])
        = w.tokens ++ .comma :: itemTokens (items ++ [v]) := by
      cases items <;> rfl
    rw [hmore, ih]
    simp [commaItems]

/-- The last member has no comma after it. -/
theorem memberTokens_append (members : List (Option String × Value)) (name : Option String)
    (v : Value) : memberTokens (members ++ [(name, v)])
      = commaMembers members ++ .string name :: .colon :: v.tokens := by
  induction members with
  | nil => exact List.append_nil _
  | cons m members ih =>
    have hmore : memberTokens (m :: members ++ [(name, v)])
        = .string m.1 :: .colon :: m.2.tokens
          ++ .comma :: memberTokens (members ++ [(name, v)]) := by
      cases members <;> rfl
    rw [hmore, ih]
    simp [commaMembers]

end Value

namespace Progress

open Value

/-- The tokens before a value that may come in open containers. -/
def before : List Open → List Token
  | [] => []
  | .items items :: outer => before outer ++ .openArray :: commaItems items.reverse
  | .members members :: outer => before outer ++ .openObject :: commaMembers members.reverse
  | .member members name :: outer =>
    before outer ++ .openObject :: commaMembers members.reverse ++ [.string name, .colon]

/-- How far the reader is after which tokens. Where a value or a name may come, those before it end
with a comma or an opening bracket; after one, they are those of the items or members so far. -/
inductive After : Progress → List Token → Prop where
  | value (containers : List Open) : After ⟨containers, .value⟩ (before containers)
  | firstItem (outer : List Open) :
    After ⟨.items [] :: outer, .firstItem⟩ (before (.items [] :: outer))
  | firstName (outer : List Open) :
    After ⟨.members [] :: outer, .firstName⟩ (before (.members [] :: outer))
  | name (members : List (Option String × Value)) (outer : List Open) :
    After ⟨.members members :: outer, .name⟩ (before (.members members :: outer))
  | colon (members : List (Option String × Value)) (name : Option String) (outer : List Open) :
    After ⟨.member members name :: outer, .colon⟩
      (before outer ++ .openObject :: commaMembers members.reverse ++ [.string name])
  | item (items : List Value) (v : Value) (outer : List Open) :
    After ⟨.items (v :: items) :: outer, .separator⟩
      (before outer ++ .openArray :: itemTokens (v :: items).reverse)
  | member (members : List (Option String × Value)) (m : Option String × Value)
    (outer : List Open) :
    After ⟨.members (m :: members) :: outer, .separator⟩
      (before outer ++ .openObject :: memberTokens (m :: members).reverse)
  | nothing (v : Value) : After ⟨[], .nothing v⟩ v.tokens

/-- After a value that may come in open containers. -/
theorem After.complete {v : Value} {containers : List Open} {p : Progress}
    (h : complete v containers = some p) : After p (before containers ++ v.tokens) := by
  cases containers with
  | nil =>
    cases h
    exact .nothing v
  | cons container outer =>
    cases container with
    | items items =>
      cases h
      have hafter := After.item items v outer
      rw [List.reverse_cons, itemTokens_append] at hafter
      rw [before, List.append_assoc]
      exact hafter
    | member members name =>
      cases h
      have hafter := After.member members (name, v) outer
      rw [List.reverse_cons, memberTokens_append] at hafter
      rw [before, List.append_assoc, List.append_assoc]
      exact hafter
    | members members => cases h

/-- After a token where a value may begin. -/
theorem After.beginValue {containers : List Open} {t : Token} {p : Progress} (ht : t.IsScalar)
    (h : beginValue containers t = some p) : After p (before containers ++ [t]) := by
  cases t with
  | openArray =>
    cases h
    exact .firstItem containers
  | openObject =>
    cases h
    exact .firstName containers
  | string s => exact .complete h
  | literal v =>
    have hafter := After.complete h
    rw [ht] at hafter
    exact hafter
  | closeArray | closeObject | comma | colon => cases h

/-- After the name of a member. -/
theorem After.beginMember {members : List (Option String × Value)} {outer : List Open} {t : Token}
    {p : Progress} (h : beginMember (.members members :: outer) t = some p) :
    After p (before (.members members :: outer) ++ [t]) := by
  cases t with
  | string name =>
    cases h
    exact .colon members name outer
  | _ => cases h

/-- After the end of an array. -/
theorem After.closeArray {items : List Value} {outer : List Open} {t : Token} {p : Progress}
    (h : close (.items items :: outer) t = some p) :
    After p (before outer ++ .openArray :: itemTokens items.reverse ++ [t]) := by
  cases t with
  | closeArray =>
    rw [List.append_assoc]
    exact .complete h
  | _ => cases h

/-- After the end of an object. -/
theorem After.closeObject {members : List (Option String × Value)} {outer : List Open} {t : Token}
    {p : Progress} (h : close (.members members :: outer) t = some p) :
    After p (before outer ++ .openObject :: memberTokens members.reverse ++ [t]) := by
  cases t with
  | closeObject =>
    rw [List.append_assoc]
    exact .complete h
  | _ => cases h

/-- **One more token keeps what is known about those before it.** -/
theorem After.step {p q : Progress} {ts : List Token} {t : Token} (hp : After p ts)
    (ht : t.IsScalar) (h : p.step t = some q) : After q (ts ++ [t]) := by
  -- What was read before says which tokens may come next.
  cases hp with
  | value containers => exact .beginValue ht h
  | firstItem outer =>
    cases t with
    | closeArray =>
      have hend : close (.items [] :: outer) .closeArray = some q := h
      exact .closeArray hend
    | _ => exact .beginValue ht h
  | firstName outer =>
    cases t with
    | closeObject =>
      have hend : close (.members [] :: outer) .closeObject = some q := h
      exact .closeObject hend
    | _ => exact .beginMember h
  | name members outer => exact .beginMember h
  | colon members name outer =>
    cases t with
    | colon =>
      cases h
      have hafter := After.value (.member members name :: outer)
      rw [before] at hafter
      simpa using hafter
    | _ => cases h
  | item items v outer =>
    cases t with
    | comma =>
      cases h
      have hafter := After.value (.items (v :: items) :: outer)
      rw [before, List.reverse_cons, commaItems_append, ← itemTokens_append] at hafter
      simpa using hafter
    | _ => exact .closeArray h
  | member members m outer =>
    cases t with
    | comma =>
      cases h
      have hafter := After.name (m :: members) outer
      rw [before, List.reverse_cons, commaMembers_append, ← memberTokens_append] at hafter
      simpa using hafter
    | _ => exact .closeObject h
  | nothing v => cases h

/-- Token after token keeps it. -/
theorem After.feed {p q : Progress} {ts us : List Token} (hp : After p ts)
    (hus : ∀ t ∈ us, t.IsScalar) (h : p.feed us = some q) : After q (ts ++ us) := by
  -- By induction on the tokens to come, with those that were read growing.
  induction us generalizing p ts with
  | nil =>
    cases h
    rw [List.append_nil]
    exact hp
  | cons t us ih =>
    obtain ⟨ht, hrest⟩ := List.forall_mem_cons.mp hus
    rw [Progress.feed] at h
    split at h
    next r hr =>
      have hafter := ih (hp.step ht hr) hrest h
      rwa [List.append_assoc] at hafter
    next => cases h

/-- **The tokens from which a value is put together are its tokens.** -/
theorem eq_tokens_of_feed {ts : List Token} {p : Progress} {v : Value}
    (hts : ∀ t ∈ ts, t.IsScalar) (h : start.feed ts = some p) (hv : p.result? = some v) :
    ts = v.tokens := by
  have hafter : After p ts := (After.value []).feed hts h
  cases hafter with
  | nothing w =>
    cases hv
    rfl
  | _ => cases hv

end Progress

/-! ## Texts of a value -/

namespace Value

/-- A text that spells the tokens of a value. -/
def IsText (v : Value) (s : String) : Prop := SpellsAll v.tokens s.toList

/-- **A text is read as a value if it spells its tokens, and else it is not.** -/
theorem parse?_eq_some_iff {s : String} {v : Value} : parse? s = some v ↔ v.IsText s := by
  constructor
  · intro h
    obtain ⟨ts, hts, hfeed⟩ := Option.bind_eq_some_iff.mp h
    obtain ⟨p, hp, hv⟩ := Option.bind_eq_some_iff.mp hfeed
    have hspells := spellsAll_of_tokens? hts
    rw [Progress.eq_tokens_of_feed hspells.isScalar hp hv] at hspells
    exact hspells
  · intro h
    have hchain := v.chain_tokens .nil
    rw [List.append_nil] at hchain
    have htokens := tokens?_of_spellsAll h hchain
    rw [parse?, htokens]
    show (Progress.start.feed v.tokens).bind Progress.result? = _
    rw [Progress.start, Progress.feed_tokens]
    rfl

/-- A text is one of at most one value. -/
theorem IsText.unique {s : String} {v w : Value} (hv : v.IsText s) (hw : w.IsText s) : v = w :=
  Option.some.inj ((parse?_eq_some_iff.mpr hv).symm.trans (parse?_eq_some_iff.mpr hw))

end Value

end GuiTest.Json
