import GuiTest.Proofs.Application.Ownership
import GuiTest.Proofs.Element.Change

/-!
# What a gesture leaves alone

A gesture on a context acts on the first live context with its number (`IsFirst`) and on no other.
`perform_frame` says of each gesture that succeeds all that it changes: typing changes the text of
the element that is meant, pressing keys changes nothing that is shown, and a click makes of the
elements what the reactions make of them that were registered for its locator. The way to the
element is found before anything is changed, so it leads to the same element when the text is typed.
-/

namespace GuiTest

namespace Desktop

variable {d : Desktop} {ctx : AppContext} {l : Locator} {p : Position} {before after : Snapshot}
  {c : LiveContext}

/-! ## The context that is meant -/

/-- The first live context with the number of a handle, with those before and after it. -/
structure IsFirst (d : Desktop) (ctx : AppContext) (before : Snapshot) (c : LiveContext)
    (after : Snapshot) : Prop where
  contexts_eq : d.contexts = before ++ c :: after
  id_eq : c.context.id = ctx.id
  id_ne : ∀ x ∈ before, x.context.id ≠ ctx.id

/-- What is shown of a context are the elements of the first live one with its number. -/
theorem exists_isFirst {forest : Forest} (h : d.tree? ctx = some forest) :
    ∃ before c after, d.IsFirst ctx before c after ∧ c.tree = forest := by
  rw [tree?, Option.map_eq_some_iff] at h
  obtain ⟨c, hfind, htree⟩ := h
  obtain ⟨hid, before, after, hsplit, hfirst⟩ := List.find?_eq_some_iff_append.mp hfind
  refine ⟨before, c, after, ⟨hsplit, beq_iff_eq.mp hid, fun x hx heq => ?_⟩, htree⟩
  have hmissed := hfirst x hx
  simp [heq] at hmissed

/-- Only the first live context with the number is changed. -/
theorem IsFirst.modifyFirst_eq (h : d.IsFirst ctx before c after) (f : Forest → Forest) :
    modifyFirst ctx.id f d.contexts = before ++ { c with tree := f c.tree } :: after := by
  obtain ⟨hcontexts, hid, hne⟩ := h
  rw [hcontexts]
  clear hcontexts
  induction before with
  | nil => exact if_pos hid
  | cons x before ih =>
    obtain ⟨hx, hbefore⟩ := List.forall_mem_cons.mp hne
    rw [List.cons_append, modifyFirst, if_neg hx, ih hbefore]
    rfl

/-! ## The reactions -/

/-- The reactions that a click on a locator is to set off. -/
def Awaits (ctx : AppContext) (l : Locator) (r : Reaction) : Prop :=
  r.context = ctx.name ∧ r.locator = l

instance (ctx : AppContext) (l : Locator) (r : Reaction) : Decidable (Awaits ctx l r) :=
  inferInstanceAs (Decidable (_ ∧ _))

/-- A reaction fires if it awaits the locator in the context. -/
theorem firesOn_eq (ctx : AppContext) (l : Locator) (r : Reaction) :
    Reaction.firesOn r ctx l = decide (Awaits ctx l r) := by
  rw [Bool.eq_iff_iff, Reaction.firesOn, Bool.and_eq_true, beq_iff_eq, beq_iff_eq,
    decide_eq_true_iff]
  rfl

/-- The reactions that are set off are counted, and none is added or taken away. -/
def counted (ctx : AppContext) (l : Locator) (reactions : List Reaction) : List Reaction :=
  reactions.map fun r => if Awaits ctx l r then { r with runs := r.runs + 1 } else r

/-- Reactions that fire change the tree of the first context with the identifier. -/
theorem contexts_react (h : d.IsFirst ctx before c after) (l : Locator) :
    (react ctx l d).contexts = before ++ { c with
      tree := (d.reactions.filter (Awaits ctx l ·)).foldl
        (fun forest r => r.respond r.runs forest) c.tree } :: after := by
  have hfires : (fun r => Reaction.firesOn r ctx l) = fun r => decide (Awaits ctx l r) :=
    funext (firesOn_eq ctx l)
  show modifyFirst ctx.id _ d.contexts = _
  rw [h.modifyFirst_eq, hfires]

theorem reactions_react (ctx : AppContext) (l : Locator) (d : Desktop) :
    (react ctx l d).reactions = counted ctx l d.reactions := by
  show d.reactions.map (fun r => if Reaction.firesOn r ctx l then _ else r) = _
  simp only [firesOn_eq, decide_eq_true_iff]
  rfl

/-! ## Typing -/

/-- The attributes with a text added to theirs, which may be missing. -/
def typed (text : String) (a : Attributes) : Attributes :=
  { a with text := some (a.text.getD "" ++ text) }

/-- Text is typed into one element, and no other has other attributes. -/
theorem attributesAt?_appendText {forest : Forest} {e : Element} (h : forest.at? p = some e)
    (text : String) (q : Position) :
    (forest.modifyAt (appendText text) p).attributesAt? q =
      if q = p then some (typed text e.attributes) else forest.attributesAt? q := by
  show (forest.modifyAt (Element.modify (typed text)) p).attributesAt? q = _
  rw [Forest.attributesAt?_modifyAt]
  by_cases hq : q = p
  · rw [if_pos hq, if_pos hq, Forest.attributesAt?, hq, h]
    rfl
  · rw [if_neg hq, if_neg hq]

/-- **What a gesture changes.** A gesture that succeeds means the first element that its locator
finds in the elements of the first live context with the number of its handle, and the walk to that
element comes to it and not to one that looks like it. A click changes the elements of that context
into what the reactions make of them that were registered for this name and this locator when it
came, each of which runs once, in the order in which they were registered. Typing adds the text to
that of the element, and changes nothing else of it, no other element, no other context and no
reaction. To press keys changes nothing that is shown. -/
theorem perform_frame (d : Desktop) (ctx : AppContext) (l : Locator) (action : Action)
    (hok : (Operation.runOn (perform ctx l action) d).1 = .ok ()) :
    let left := (Operation.runOn (perform ctx l action) d).2
    ∃ before c after p e, d.IsFirst ctx before c after
      ∧ (l.find c.tree).head? = some p ∧ c.tree.at? p = some e ∧ c.tree.pathTo? p = some p
      ∧ left.calls = d.calls ++ [⟨action, ctx.name, l.describe⟩]
      ∧ match action with
        | .click | .doubleClick =>
          left.contexts = before ++ { c with
              tree := (d.reactions.filter (Awaits ctx l ·)).foldl
                (fun forest r => r.respond r.runs forest) c.tree } :: after
            ∧ left.reactions = counted ctx l d.reactions
        | .typeText text =>
          (∃ tree, left.contexts = before ++ { c with tree } :: after
              ∧ tree.positions = c.tree.positions
              ∧ ∀ q, tree.attributesAt? q =
                if q = p then some (typed text e.attributes) else c.tree.attributesAt? q)
            ∧ left.reactions = d.reactions
        | .pressKeys _ => left.contexts = d.contexts ∧ left.reactions = d.reactions := by
  intro left
  obtain ⟨p, haim⟩ := (perform_eq_ok_iff action).mp hok
  obtain ⟨forest, htree, hp⟩ := aim_eq_ok haim
  obtain ⟨e, he⟩ := Locator.exists_at?_of_locate? hp
  -- What was searched is the tree of the first context with the number.
  obtain ⟨before, c, after, hfirst, rfl⟩ := exists_isFirst htree
  have hleft : left = hit ctx l p (d.record ⟨action, ctx.name, l.describe⟩) action :=
    congrArg Prod.snd (perform_of_aim_ok action haim)
  have hfirst' (g : Gesture) : (d.record g).IsFirst ctx before c after :=
    ⟨hfirst.contexts_eq, hfirst.id_eq, hfirst.id_ne⟩
  refine ⟨before, c, after, p, e, hfirst, hp, he, Locator.pathTo?_eq_some hp, ?_, ?_⟩
  · rw [hleft, calls_hit, record]
  · rw [hleft]
    cases action with
    | click => exact ⟨contexts_react (hfirst' _) l, reactions_react ..⟩
    | doubleClick => exact ⟨contexts_react (hfirst' _) l, reactions_react ..⟩
    | typeText text =>
      exact ⟨⟨_, hfirst.modifyFirst_eq _, Forest.positions_modifyAt (typed text) c.tree p,
        attributesAt?_appendText he text⟩, rfl⟩
    | pressKeys keys => exact ⟨rfl, rfl⟩

/-- Of elements that look alike, in two contexts that look alike, one is typed into. -/
theorem perform_frame_second_twin :
    let twins : Forest := [.node { kind := some "Pane" } [.ofKind "Edit", .ofKind "Edit"]]
    let second : Locator := ⟨⟨[.kind "Edit"], some 2⟩, []⟩
    let app : AppContext := ⟨1, "app", none⟩
    let ide : AppContext := ⟨2, "devenv", none⟩
    let d : Desktop := { contexts := [⟨app, twins⟩, ⟨ide, twins⟩] }
    let result := Operation.runOn (perform ide second (.typeText "C:")) d
    result.1 = .ok () ∧ ∃ tree, result.2.contexts = [⟨app, twins⟩, ⟨ide, tree⟩]
      ∧ tree.attributesAt? [0, 1] = some { kind := some "Edit", text := some "C:" }
      ∧ ∀ q, q ≠ [0, 1] → tree.attributesAt? q = twins.attributesAt? q := by
  intro twins second app ide d result
  have hok : result.1 = .ok () := rfl
  obtain ⟨before, c, after, p, e, ⟨hsplit, hid, hne⟩, hp, he, -, -, ⟨tree, htree, -, hattributes⟩,
    -⟩ := perform_frame d ide second (.typeText "C:") hok
  -- The first context has another number, so the one that is meant is the second.
  obtain ⟨rfl, rfl, rfl⟩ : before = [⟨app, twins⟩] ∧ c = ⟨ide, twins⟩ ∧ after = [] := by
    rcases before with _ | ⟨x, _ | ⟨y, before⟩⟩
    · cases hsplit
      cases hid
    · cases hsplit
      exact ⟨rfl, rfl, rfl⟩
    · have hlength := congrArg List.length hsplit
      simp [d] at hlength
  obtain rfl : [0, 1] = p := by
    have hfind : (second.find twins).head? = some [0, 1] := by decide
    exact Option.some.inj (hfind.symm.trans hp)
  cases he
  refine ⟨hok, tree, htree, (hattributes [0, 1]).trans ?_, fun q hq => ?_⟩
  · decide
  · rw [hattributes q, if_neg hq]

end Desktop

end GuiTest
