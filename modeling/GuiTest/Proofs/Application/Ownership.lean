import GuiTest.Proofs.Application.History

/-!
# Whose elements a context shows

A context is picked by its name, and its elements are then found by its number. This comes to the
same live context as long as numbers are given once (`Distinct`), which is so throughout a history
exactly if it begins so and contexts are added under numbers that are free
(`distinct_throughout_iff`). Then a request does to each live context by itself what it does
(`contexts_run`), so whatever is live stems from one context, loaded or added, and from what was
asked of that one (`mem_contexts_after_iff`). `fixContext_own_tree` says so for the context that is
picked. Where two live contexts share a number, the one that is picked shows the elements of the
other.
-/

namespace GuiTest

namespace Desktop

/-- What an action makes of elements of which the one at a position is meant. -/
def effect (reactions : List Reaction) (ctx : AppContext) (l : Locator) (p : Position)
    (action : Action) (forest : Forest) : Forest :=
  match action with
  | .click | .doubleClick =>
    (reactions.filter fun r => Reaction.firesOn r ctx l).foldl
      (fun forest r => r.respond r.runs forest) forest
  | .typeText text => forest.modifyAt (appendText text) p
  | .pressKeys _ => forest

/-- The desktop that a snapshot shows. -/
def ofSnapshot (s : Snapshot) : Desktop := { contexts := s }

/-- The numbers of the live contexts. -/
def ids (d : Desktop) : List UInt64 := d.contexts.map (·.context.id)

/-- No two live contexts share a number. -/
def Distinct (d : Desktop) : Prop := d.ids.Nodup

instance (d : Desktop) : Decidable d.Distinct := inferInstanceAs (Decidable d.ids.Nodup)

end Desktop

namespace Request

/-- The number of the context whose elements a request is to change. -/
def target? : Request → Option UInt64
  | gesture ctx _ _ => some ctx.id
  | updateTree ctx _ => some ctx.id
  | _ => none

/-- What a request makes of the elements that it is to change, with these reactions to clicks. -/
def change (reactions : List Reaction) (r : Request) (forest : Forest) : Forest :=
  match r with
  | gesture ctx l action =>
    match l.locate? forest with
    | some p => Desktop.effect reactions ctx l p action forest
    | none => forest
  | updateTree _ f => f forest
  | _ => forest

/-- What a request makes of a live context that it does not end. -/
def changed (reactions : List Reaction) (r : Request) (x : LiveContext) : LiveContext :=
  if r.target? = some x.context.id then { x with tree := r.change reactions x.tree } else x

/-- What a request leaves of a live context, if anything. -/
def leaves (reactions : List Reaction) (r : Request) (x : LiveContext) : Option LiveContext :=
  match r with
  | removeContext id => if x.context.id = id then none else some x
  | r => some (r.changed reactions x)

/-- The contexts that a request adds. -/
def added : Request → List LiveContext
  | addContext c => [c]
  | _ => []

/-- The contexts that a request adds have numbers that no live context has. -/
def Fresh (d : Desktop) (r : Request) : Prop := ∀ c ∈ r.added, c.context.id ∉ d.ids

instance (d : Desktop) (r : Request) : Decidable (r.Fresh d) :=
  inferInstanceAs (Decidable (∀ c ∈ r.added, c.context.id ∉ d.ids))

/-- A request changes what a context shows, not the context. -/
theorem context_of_leaves {reactions : List Reaction} {r : Request} {x y : LiveContext}
    (h : r.leaves reactions x = some y) : y.context = x.context := by
  cases r with
  | removeContext id =>
    rw [leaves] at h
    split at h
    · cases h
    · cases h
      rfl
  | gesture | updateTree | addContext | onClick | clearCalls | contexts | dump | find | exists? =>
    cases h
    rw [changed]
    split <;> rfl

end Request

namespace Desktop

variable {now : Nat} {d : Desktop} {ctx : AppContext} {r : Request} {requests : List Request}
  {x y : LiveContext} {f g : Forest → Forest} {s : Snapshot} {number : UInt64}

/-! ## What a request does to the live contexts -/

theorem modifyFirst_same (number : UInt64) (s : Snapshot) :
    modifyFirst number (fun forest => forest) s = s := by
  induction s with
  | nil => rfl
  | cons c rest ih => rw [modifyFirst, ih, ite_self]

/-- Only what becomes of the elements that are shown matters. -/
theorem modifyFirst_congr (h : ∀ forest, d.tree? ctx = some forest → f forest = g forest) :
    modifyFirst ctx.id f d.contexts = modifyFirst ctx.id g d.contexts := by
  obtain ⟨s, calls, reactions⟩ := d
  induction s with
  | nil => rfl
  | cons c rest ih =>
    rw [modifyFirst, modifyFirst]
    by_cases hc : c.context.id = ctx.id
    · have hfirst : tree? ⟨c :: rest, calls, reactions⟩ ctx = some c.tree := by simp [tree?, hc]
      rw [if_pos hc, if_pos hc, h c.tree hfirst]
    · have hlater : tree? ⟨c :: rest, calls, reactions⟩ ctx
          = tree? ⟨rest, calls, reactions⟩ ctx := by simp [tree?, hc]
      rw [hlater] at h
      rw [if_neg hc, if_neg hc, ih h]

/-- A gesture changes the first context with the identifier, and no other. -/
theorem contexts_hit (ctx : AppContext) (l : Locator) (p : Position) (d : Desktop)
    (action : Action) : (hit ctx l p d action).contexts
      = modifyFirst ctx.id (effect d.reactions ctx l p action) d.contexts := by
  cases action with
  | click | doubleClick | typeText => rfl
  | pressKeys => exact (modifyFirst_same ctx.id d.contexts).symm

/-- What is asked of a context changes the first one that has its number. -/
theorem contexts_run_of_target (h : r.target? = some number) :
    (r.run now d).2.contexts = modifyFirst number (r.change d.reactions) d.contexts := by
  cases r with
  | gesture ctx l action =>
    cases h
    rw [Request.run, runOn_perform]
    -- A gesture that fails leaves all as it is, which is to change what is shown into itself.
    rcases aim_cases d ctx l with
      ⟨htree, haim⟩ | ⟨forest, htree, hp, haim⟩ | ⟨forest, p, htree, hp, haim⟩
    · rw [haim]
      refine (modifyFirst_same ..).symm.trans (modifyFirst_congr fun forest hforest => ?_)
      cases htree.symm.trans hforest
    · rw [haim]
      refine (modifyFirst_same ..).symm.trans (modifyFirst_congr fun forest' hforest => ?_)
      cases htree.symm.trans hforest
      rw [Request.change, hp]
    · rw [haim]
      refine (contexts_hit ..).trans (modifyFirst_congr fun forest' hforest => ?_)
      cases htree.symm.trans hforest
      rw [Request.change, hp]
      rfl
  | updateTree ctx f =>
    cases h
    rw [Request.run, runOn_updateTree, shown]
    cases htree : d.tree? ctx with
    | some forest => rfl
    | none =>
      refine (modifyFirst_same ..).symm.trans (modifyFirst_congr fun forest hforest => ?_)
      cases htree.symm.trans hforest
  | addContext | removeContext | onClick | clearCalls | contexts | dump | find | exists? => cases h

/-- If numbers are given once, the first context with a number is the only one. -/
theorem modifyFirst_eq_map (hs : (s.map (·.context.id)).Nodup) :
    modifyFirst number f s
      = s.map fun x => if number = x.context.id then { x with tree := f x.tree } else x := by
  induction s with
  | nil => rfl
  | cons c rest ih =>
    rw [List.map_cons, List.nodup_cons] at hs
    rw [modifyFirst, List.map_cons]
    by_cases hc : c.context.id = number
    · have hothers : (rest.map fun x =>
          if number = x.context.id then { x with tree := f x.tree } else x) = rest := by
        refine (List.map_congr_left fun x hx => if_neg fun hid => ?_).trans (List.map_id' rest)
        exact hs.1 (List.mem_map.mpr ⟨x, hx, (hc.trans hid).symm⟩)
      rw [if_pos hc, if_pos hc.symm, hothers]
    · rw [if_neg hc, if_neg (Ne.symm hc), ih hs.2]

/-- **What a request does to the live contexts.** It does to each by itself what it does, and the
new ones come last. -/
theorem contexts_run (now : Nat) (hd : d.Distinct) (r : Request) :
    (r.run now d).2.contexts = d.contexts.filterMap (r.leaves d.reactions) ++ r.added := by
  -- For all requests but those with a target `leaves` computes to `some`, or to a guard.
  have hkept : d.contexts = d.contexts.filterMap some ++ [] := by
    rw [List.filterMap_some, List.append_nil]
  have hchanged (number : UInt64) (h : r.target? = some number) : (r.run now d).2.contexts
      = d.contexts.filterMap (fun x => some (r.changed d.reactions x)) ++ [] := by
    rw [contexts_run_of_target h, modifyFirst_eq_map hd, List.append_nil, List.filterMap_eq_map']
    refine List.map_congr_left fun x _ => ?_
    rw [Request.changed, h]
    simp only [Option.some.injEq]
  cases r with
  | gesture ctx l action => exact hchanged ctx.id rfl
  | updateTree ctx f => exact hchanged ctx.id rfl
  | addContext c => exact congrArg (· ++ [c]) List.filterMap_some.symm
  | removeContext number =>
    have hleaves : (Request.removeContext number).leaves d.reactions
        = Option.guard fun x => x.context.id != number := by
      funext x
      rw [Request.leaves, Option.guard]
      by_cases hx : x.context.id = number <;> simp [hx]
    rw [hleaves, List.filterMap_eq_filter]
    exact (List.append_nil _).symm
  | dump ctx =>
    rw [Request.run, run_dump]
    exact hkept
  | find ctx l =>
    rw [Request.run, run_find]
    exact hkept
  | exists? ctx l =>
    rw [Request.run, run_exists?]
    exact hkept
  | onClick | clearCalls | contexts => exact hkept

/-! ## Numbers that are given once -/

/-- No identifier is made by a request that adds no context. -/
theorem ids_leaves_sublist (reactions : List Reaction) (r : Request) (s : Snapshot) :
    ((s.filterMap (r.leaves reactions)).map (·.context.id)).Sublist (s.map (·.context.id)) := by
  induction s with
  | nil => exact List.Sublist.refl _
  | cons c rest ih =>
    rw [List.filterMap_cons, List.map_cons]
    split
    · exact ih.cons _
    next y hy =>
      rw [List.map_cons, Request.context_of_leaves hy]
      exact ih.cons_cons _

/-- Numbers stay given once exactly if those of new contexts are free. -/
theorem distinct_run_iff (now : Nat) (hd : d.Distinct) (r : Request) :
    (r.run now d).2.Distinct ↔ r.Fresh d := by
  have hsub : ((d.contexts.filterMap (r.leaves d.reactions)).map (·.context.id)).Sublist d.ids :=
    ids_leaves_sublist ..
  constructor
  · -- A request that adds something leaves all others, so a number that is taken comes twice.
    intro hafter c hc hlive
    cases r with
    | addContext c' =>
      cases List.mem_singleton.mp hc
      have hids : ((Request.addContext c).run now d).2.ids = d.ids ++ [c.context.id] :=
        List.map_append
      rw [Distinct, hids, List.nodup_append] at hafter
      exact hafter.2.2 _ hlive _ (List.mem_singleton_self _) rfl
    | gesture | updateTree | removeContext | onClick | clearCalls | contexts | dump | find
    | exists? => cases hc
  · intro hfresh
    rw [Distinct, ids, contexts_run now hd, List.map_append, List.nodup_append]
    refine ⟨hd.sublist hsub, ?_, fun a ha b hb hab => ?_⟩
    · cases r with
      | addContext c => exact List.nodup_singleton _
      | gesture | updateTree | removeContext | onClick | clearCalls | contexts | dump | find
      | exists? => exact List.nodup_nil
    · obtain ⟨c, hc, rfl⟩ := List.mem_map.mp hb
      exact hfresh c hc (hab ▸ hsub.subset ha)

/-- Contexts are added only under numbers that are free at the time. -/
def AddsFresh (now : Nat) (d : Desktop) : List Request → Prop
  | [] => True
  | r :: rest => r.Fresh d ∧ AddsFresh now (r.run now d).2 rest

/-- **When numbers are given once all the time**: exactly if they are at first, and those of new
contexts are free. -/
theorem distinct_throughout_iff (now : Nat) (d : Desktop) (requests : List Request) :
    (∀ before, before <+: requests → (after now d before).Distinct) ↔
      d.Distinct ∧ AddsFresh now d requests := by
  induction requests generalizing d with
  | nil => simp only [List.prefix_nil, forall_eq, after_nil, AddsFresh, and_true]
  | cons r rest ih =>
    have hsplit : (∀ before, before <+: r :: rest → (after now d before).Distinct) ↔
        d.Distinct ∧ ∀ before, before <+: rest → (after now (r.run now d).2 before).Distinct := by
      constructor
      · exact fun h => ⟨h [] List.nil_prefix,
          fun before hbefore => h (r :: before) (List.cons_prefix_cons.mpr ⟨rfl, hbefore⟩)⟩
      · rintro ⟨hd, hrest⟩ before hbefore
        rcases List.prefix_cons_iff.mp hbefore with rfl | ⟨tail, rfl, htail⟩
        · exact hd
        · exact hrest tail htail
    rw [hsplit, ih, AddsFresh]
    exact and_congr_right fun hd => and_congr_left' (distinct_run_iff now hd r)

/-! ## What a history does to the live contexts -/

/-- What requests leave of a live context, one after the other. -/
def leaves (now : Nat) (d : Desktop) : List Request → LiveContext → Option LiveContext
  | [], x => some x
  | r :: rest, x => (r.leaves d.reactions x).bind (leaves now (r.run now d).2 rest)

/-- A live context stems from one that was there at first, or from one that was added later, and is
what the requests since then left of it. -/
def Stems (now : Nat) (d : Desktop) (requests : List Request) (x : LiveContext) : Prop :=
  (∃ x₀ ∈ d.contexts, leaves now d requests x₀ = some x)
    ∨ ∃ before x₀ later, requests = before ++ .addContext x₀ :: later
      ∧ leaves now (after now d (before ++ [.addContext x₀])) later x₀ = some x

theorem mem_added : x ∈ r.added ↔ r = .addContext x := by
  cases r <;> simp [Request.added, eq_comm]

/-- A history begins with its first request: what is live stems from what that one leaves or adds,
or from what is added later. -/
theorem stems_cons (now : Nat) (hd : d.Distinct) (r : Request) (rest : List Request) :
    Stems now d (r :: rest) x ↔ Stems now (r.run now d).2 rest x := by
  have hfirst : (∃ y ∈ (r.run now d).2.contexts, leaves now (r.run now d).2 rest y = some x) ↔
      (∃ x₀ ∈ d.contexts, leaves now d (r :: rest) x₀ = some x)
        ∨ ∃ x₀, r = .addContext x₀ ∧ leaves now (r.run now d).2 rest x₀ = some x := by
    simp only [contexts_run now hd, leaves, List.mem_append, List.mem_filterMap, mem_added,
      or_and_right, exists_or, Option.bind_eq_some_iff]
    refine or_congr_left ⟨?_, ?_⟩
    · rintro ⟨y, ⟨x₀, hx₀, hy⟩, hx⟩
      exact ⟨x₀, hx₀, y, hy, hx⟩
    · rintro ⟨x₀, hx₀, y, hy, hx⟩
      exact ⟨y, ⟨x₀, hx₀, hy⟩, hx⟩
  have hlater : (∃ before x₀ later, r :: rest = before ++ .addContext x₀ :: later
        ∧ leaves now (after now d (before ++ [.addContext x₀])) later x₀ = some x) ↔
      (∃ x₀, r = .addContext x₀ ∧ leaves now (r.run now d).2 rest x₀ = some x)
        ∨ ∃ before x₀ later, rest = before ++ .addContext x₀ :: later
          ∧ leaves now (after now (r.run now d).2 (before ++ [.addContext x₀])) later x₀
            = some x := by
    -- The request that added it is the first one or comes after that.
    constructor
    · rintro ⟨before, x₀, later, hsplit, hx⟩
      rcases List.cons_eq_append_iff.mp hsplit with ⟨rfl, hnow⟩ | ⟨tail, rfl, htail⟩
      · cases hnow
        exact Or.inl ⟨x₀, rfl, hx⟩
      · exact Or.inr ⟨tail, x₀, later, htail, hx⟩
    · rintro (⟨x₀, rfl, hx⟩ | ⟨before, x₀, later, rfl, hx⟩)
      · exact ⟨[], x₀, rest, rfl, hx⟩
      · exact ⟨r :: before, x₀, later, rfl, hx⟩
  rw [Stems, Stems, hfirst, hlater, or_assoc]

/-- **What is live after a history.** -/
theorem mem_contexts_after_iff (hd : d.Distinct) (hadds : AddsFresh now d requests) :
    x ∈ (after now d requests).contexts ↔ Stems now d requests x := by
  induction requests generalizing d with
  | nil => simp [Stems, leaves]
  | cons r rest ih =>
    rw [after_cons, ih ((distinct_run_iff now hd r).mpr hadds.1) hadds.2, stems_cons now hd]

/-! ## The context that is picked -/

/-- Two live contexts with one number are one. -/
theorem Distinct.eq_of_id_eq (hd : d.Distinct) (hx : x ∈ d.contexts) (hy : y ∈ d.contexts)
    (hid : x.context.id = y.context.id) : x = y :=
  List.inj_on_of_nodup_map hd hx hy hid

/-- A live context shows its own elements. -/
theorem Distinct.shown_eq (hd : d.Distinct) (hx : x ∈ d.contexts) :
    d.shown x.context = .ok x.tree := by
  have htree : d.tree? x.context = some x.tree := by
    rw [tree?]
    cases hfind : d.contexts.find? fun c => c.context.id == x.context.id with
    | none =>
      have hmissed := List.find?_eq_none.mp hfind x hx
      exact absurd BEq.rfl hmissed
    | some y =>
      have hid := List.find?_some hfind
      rw [beq_iff_eq] at hid
      rw [hd.eq_of_id_eq (List.mem_of_find?_eq_some hfind) hx hid]
      rfl
  rw [shown, htree]

/-- To pick a context changes nothing. -/
theorem run_fixContext (name : String) (now : Nat) (d : Desktop) :
    (fixContext driver name).run now d =
      ⟨match d.liveContexts.find? fun c => c.name == name with
        | some c => .ok c
        | none => .error (.unexpected name (d.liveContexts.map (·.name))), d, 0⟩ := by
  have hlive : (driver.contexts.adapt ContextError.driver).run now d
      = ⟨.ok d.liveContexts, d, 0⟩ := rfl
  rw [fixContext]
  show Timed.bind (driver.contexts.adapt ContextError.driver).run _ now d = _
  simp only [Timed.bind, hlive, ExceptT.bindCont]
  cases d.liveContexts.find? fun c => c.name == name <;> rfl

/-- What is picked is a live context with the name. -/
theorem exists_of_fixContext {name : String} {c : AppContext}
    (h : ((fixContext driver name).run now d).value = .ok c) :
    c.name = name ∧ ∃ x ∈ d.contexts, x.context = c := by
  rw [run_fixContext] at h
  cases hfind : d.liveContexts.find? fun c => c.name == name with
  | none =>
    rw [hfind] at h
    cases h
  | some c' =>
    rw [hfind] at h
    cases h
    have hname := List.find?_some hfind
    rw [beq_iff_eq] at hname
    exact ⟨hname, List.mem_map.mp (List.mem_of_find?_eq_some hfind)⟩

/-- **A context that is picked shows its own elements.** Let a snapshot give each number once, and
let contexts be added only under numbers that are free. Then no two live contexts ever share a
number, and what is shown of a context that is picked by its name are the elements that it was
loaded or added with, as the requests since then have left them: no other live context has its
number. -/
theorem fixContext_own_tree (now : Nat) (s : Snapshot) (requests : List Request)
    (hids : (ofSnapshot s).Distinct) (hadds : AddsFresh now (ofSnapshot s) requests) :
    let d := after now (ofSnapshot s) requests
    (∀ before, before <+: requests → (after now (ofSnapshot s) before).Distinct)
      ∧ ∀ name c, ((fixContext driver name).run now d).value = .ok c →
        ∃ x ∈ d.contexts, x.context = c ∧ c.name = name
          ∧ ((driver.dump c).run now d).value = .ok x.tree
          ∧ Stems now (ofSnapshot s) requests x
          ∧ ∀ y ∈ d.contexts, y.context.id = c.id → y = x := by
  intro d
  have hthroughout := (distinct_throughout_iff now (ofSnapshot s) requests).mpr ⟨hids, hadds⟩
  have hd : d.Distinct := hthroughout requests List.prefix_rfl
  refine ⟨hthroughout, fun name c hpicked => ?_⟩
  obtain ⟨hname, x, hx, rfl⟩ := exists_of_fixContext hpicked
  refine ⟨x, hx, rfl, hname, ?_, (mem_contexts_after_iff hids hadds).mp hx, fun y hy hid => ?_⟩
  · rw [run_dump, hd.shown_eq hx]
  · exact hd.eq_of_id_eq hy hx hid

/-- A context that ended and was added again shows what it was added with. -/
theorem fixContext_own_tree_added_again :
    let ide : LiveContext := ⟨⟨1, "devenv", none⟩, [.ofKind "Window"]⟩
    let app : AppContext := ⟨2, "app", none⟩
    let s : Snapshot := [ide, ⟨app, [.ofKind "Window"]⟩]
    let requests : List Request := [.removeContext 2, .addContext ⟨app, [.ofKind "Dialog"]⟩,
      .updateTree app fun forest => forest ++ [.ofKind "Button"]]
    let d := after 0 (ofSnapshot s) requests
    (ofSnapshot s).Distinct ∧ AddsFresh 0 (ofSnapshot s) requests
      ∧ ((fixContext driver "app").run 0 d).value = .ok app
      ∧ ((driver.dump app).run 0 d).value = .ok [.ofKind "Dialog", .ofKind "Button"]
      ∧ ∀ y ∈ d.contexts, y.context.id = 2 → y.tree = [.ofKind "Dialog", .ofKind "Button"] := by
  intro ide app s requests d
  have hids : (ofSnapshot s).Distinct := by decide
  have hadds : AddsFresh 0 (ofSnapshot s) requests := ⟨by decide, by decide, by decide, trivial⟩
  have hpicked : ((fixContext driver "app").run 0 d).value = .ok app := rfl
  have hdumped : ((driver.dump app).run 0 d).value = .ok [.ofKind "Dialog", .ofKind "Button"] := rfl
  obtain ⟨x, hx, hcontext, -, htree, -, hunique⟩ :=
    (fixContext_own_tree 0 s requests hids hadds).2 "app" app hpicked
  refine ⟨hids, hadds, hpicked, hdumped, fun y hy hid => ?_⟩
  rw [hunique y hy hid]
  exact Except.ok.inj (htree.symm.trans hdumped)

/-- Where two live contexts share a number, which nothing prevents that loads or adds them, the one
that is picked shows the elements of the other. -/
theorem fixContext_shared_number :
    let ide : LiveContext := ⟨⟨1, "devenv", none⟩, [.ofKind "Window"]⟩
    let app : LiveContext := ⟨⟨1, "app", none⟩, [.ofKind "Dialog"]⟩
    let d := ofSnapshot [ide, app]
    after 0 (ofSnapshot [ide]) [.addContext app] = d ∧ ¬ d.Distinct
      ∧ ((fixContext driver "app").run 0 d).value = .ok app.context
      ∧ ((driver.dump app.context).run 0 d).value = .ok ide.tree ∧ ide.tree ≠ app.tree :=
  ⟨rfl, by decide, rfl, rfl, by decide⟩

end Desktop

end GuiTest
