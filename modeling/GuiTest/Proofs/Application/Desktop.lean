import GuiTest.Application.Driver
import GuiTest.Proofs.Locator.Search

/-!
# What operations on a desktop come to

All gestures begin alike: they look for the element that is meant (`Desktop.aim`), and go no further
if there is none. `runOn_perform` says all that a gesture does: it fails as the aim fails and leaves
the desktop alone, or it is recorded and then has its effect on the elements of its context. A
gesture can be aimed exactly where an element is found by looking (`exists_aim_iff`).
-/

namespace GuiTest

namespace Locator

variable {l : Locator} {forest : Forest} {p : Position}

/-- Where a locator leads to there is an element. -/
theorem exists_at?_of_locate? (h : l.locate? forest = some p) : ∃ e, forest.at? p = some e := by
  obtain ⟨⟨e, he, -⟩, -⟩ := Admits.of_mem_find (List.mem_of_mem_head? h)
  exact ⟨e, he⟩

/-- The walk to what a locator leads to comes to it. -/
theorem pathTo?_eq_some (h : l.locate? forest = some p) : forest.pathTo? p = some p := by
  obtain ⟨e, he⟩ := exists_at?_of_locate? h
  exact Forest.pathTo?_eq_some he

theorem findFirst?_eq_none (h : l.locate? forest = none) : l.findFirst? forest = none := by
  rw [findFirst?, h]
  rfl

end Locator

namespace Desktop

variable {α β : Type} {d : Desktop} {ctx : AppContext} {l : Locator} {p : Position}

/-! ## Running operations -/

/-- What an operation answers on a desktop, and what it leaves behind. -/
def Operation.runOn (x : Operation α) (d : Desktop) : Except DriverError α × Desktop := x.run.run d

theorem runOn_bind (x : Operation α) (f : α → Operation β) (d : Desktop) :
    Operation.runOn (x >>= f) d =
      match Operation.runOn x d with
      | (.ok a, after) => (f a).runOn after
      | (.error e, after) => (.error e, after) := by
  simp only [Operation.runOn, ExceptT.run_bind, StateT.run_bind]
  rcases x.run.run d with ⟨_ | _, after⟩ <;> rfl

/-- The elements of a context, or that it is gone. -/
def shown (d : Desktop) (ctx : AppContext) : Except DriverError Forest :=
  match d.tree? ctx with
  | some forest => .ok forest
  | none => .error (.contextGone ctx.name)

/-- A context shows nothing only if it is gone. -/
theorem shown_eq_error {e : DriverError} (h : d.shown ctx = .error e) :
    e = .contextGone ctx.name := by
  rw [shown] at h
  cases htree : d.tree? ctx with
  | none =>
    rw [htree] at h
    exact (Except.error.inj h).symm
  | some forest =>
    rw [htree] at h
    cases h

theorem runOn_tree (ctx : AppContext) (d : Desktop) :
    Operation.runOn (tree ctx) d = (d.shown ctx, d) := by
  rw [tree, runOn_bind, shown]
  show Operation.runOn (match d.tree? ctx with | some forest => _ | none => _) d = _
  cases d.tree? ctx <;> rfl

/-- Where the element is that a gesture is aimed at, or why there is none. -/
def aim (d : Desktop) (ctx : AppContext) (l : Locator) : Except DriverError Position :=
  match d.tree? ctx with
  | none => .error (.contextGone ctx.name)
  | some forest =>
    match l.locate? forest with
    | some p => .ok p
    | none => .error (.elementNotFound l.describe)

/-- The walk to an element that was found comes to it, so a gesture is aimed where the search leads
and does not fail after that. -/
theorem runOn_locate (ctx : AppContext) (l : Locator) (d : Desktop) :
    Operation.runOn (locate ctx l) d = (d.aim ctx l, d) := by
  rw [locate, runOn_bind, runOn_tree, aim, shown]
  cases d.tree? ctx with
  | none => rfl
  | some forest =>
    dsimp only
    cases hp : l.locate? forest with
    | none => rfl
    | some p =>
      dsimp only
      rw [Locator.pathTo?_eq_some hp]
      rfl

/-- The context is gone, or it does not show the element, or the element is there. -/
theorem aim_cases (d : Desktop) (ctx : AppContext) (l : Locator) :
    (d.tree? ctx = none ∧ d.aim ctx l = .error (.contextGone ctx.name))
      ∨ (∃ forest, d.tree? ctx = some forest ∧ l.locate? forest = none
        ∧ d.aim ctx l = .error (.elementNotFound l.describe))
      ∨ ∃ forest p, d.tree? ctx = some forest ∧ l.locate? forest = some p
        ∧ d.aim ctx l = .ok p := by
  rw [aim]
  cases d.tree? ctx with
  | none => exact Or.inl ⟨rfl, rfl⟩
  | some forest =>
    refine Or.inr ?_
    dsimp only
    cases hp : l.locate? forest with
    | none => exact Or.inl ⟨forest, rfl, hp, rfl⟩
    | some p => exact Or.inr ⟨forest, p, rfl, hp, rfl⟩

/-- What is aimed at was found in the tree that is shown. -/
theorem aim_eq_ok (h : d.aim ctx l = .ok p) :
    ∃ forest, d.tree? ctx = some forest ∧ l.locate? forest = some p := by
  rcases aim_cases d ctx l with ⟨-, haim⟩ | ⟨_, -, -, haim⟩ | ⟨forest, q, htree, hq, haim⟩
  · cases h.symm.trans haim
  · cases h.symm.trans haim
  · cases h.symm.trans haim
    exact ⟨forest, htree, hq⟩

/-- To aim fails for two reasons only. -/
theorem aim_eq_error {e : DriverError} (h : d.aim ctx l = .error e) :
    e = .contextGone ctx.name ∨ e = .elementNotFound l.describe := by
  rcases aim_cases d ctx l with ⟨-, haim⟩ | ⟨_, -, -, haim⟩ | ⟨_, _, -, -, haim⟩
  · exact Or.inl (Except.error.inj (h.symm.trans haim))
  · exact Or.inr (Except.error.inj (h.symm.trans haim))
  · cases h.symm.trans haim

/-! ## Gestures -/

/-- Appends a gesture to those that were received. -/
def record (d : Desktop) (g : Gesture) : Desktop := { d with calls := d.calls ++ [g] }

@[simp] theorem tree?_record (d : Desktop) (g : Gesture) : (d.record g).tree? = d.tree? := rfl

theorem runOn_gesture (ctx : AppContext) (l : Locator) (action : Action) (d : Desktop) :
    Operation.runOn (gesture ctx l action) d =
      match d.aim ctx l with
      | .ok p => (.ok p, d.record ⟨action, ctx.name, l.describe⟩)
      | .error e => (.error e, d) := by
  rw [gesture, runOn_bind, runOn_locate]
  cases d.aim ctx l <;> rfl

/-- The gesture with an action. -/
def perform (ctx : AppContext) (l : Locator) : Action → Operation Unit
  | .click => click ctx l
  | .doubleClick => doubleClick ctx l
  | .typeText text => typeText ctx l text
  | .pressKeys keys => pressKeys ctx l keys

/-- What an action on the element at a position does to a desktop. -/
def hit (ctx : AppContext) (l : Locator) (p : Position) (d : Desktop) : Action → Desktop
  | .click => react ctx l d
  | .doubleClick => react ctx l d
  | .typeText text => d.modifyTree ctx fun forest => forest.modifyAt (appendText text) p
  | .pressKeys _ => d

@[simp] theorem calls_hit (ctx : AppContext) (l : Locator) (p : Position) (d : Desktop)
    (action : Action) : (hit ctx l p d action).calls = d.calls := by
  cases action <;> rfl

/-- Where the aim is, there is the element that is found by looking, also after the gesture was
recorded. So a text can be typed into it. -/
theorem exists_at?_of_aim (h : d.aim ctx l = .ok p) (g : Gesture) :
    ∃ forest e, Operation.runOn (tree ctx) (d.record g) = (.ok forest, d.record g)
      ∧ forest.at? p = some e ∧ (d.shown ctx).map l.findFirst? = .ok (some e) := by
  obtain ⟨forest, htree, hp⟩ := aim_eq_ok h
  obtain ⟨e, he⟩ := Locator.exists_at?_of_locate? hp
  refine ⟨forest, e, ?_, he, ?_⟩
  · rw [runOn_tree, shown, tree?_record, htree]
  · rw [shown, htree, Except.map, Locator.findFirst?, hp, Option.bind_some, he]

/-- **All that a gesture does.** It fails as its aim fails, and then nothing has happened; or it is
recorded once and then has its effect. -/
theorem runOn_perform (ctx : AppContext) (l : Locator) (action : Action) (d : Desktop) :
    Operation.runOn (perform ctx l action) d =
      match d.aim ctx l with
      | .ok p => (.ok (), hit ctx l p (d.record ⟨action, ctx.name, l.describe⟩) action)
      | .error e => (.error e, d) := by
  cases action with
  | click =>
    rw [perform, click, runOn_bind, runOn_gesture]
    cases d.aim ctx l <;> rfl
  | doubleClick =>
    rw [perform, doubleClick, runOn_bind, runOn_gesture]
    cases d.aim ctx l <;> rfl
  | typeText text =>
    rw [perform, typeText, runOn_bind, runOn_gesture]
    cases haim : d.aim ctx l with
    | error e => rfl
    | ok p =>
      -- To record the gesture changes no tree, so the element is still there.
      obtain ⟨forest, e, htree, he, -⟩ :=
        exists_at?_of_aim haim ⟨.typeText text, ctx.name, l.describe⟩
      dsimp only
      rw [runOn_bind, htree]
      dsimp only
      rw [he]
      rfl
  | pressKeys keys =>
    rw [perform, pressKeys, runOn_bind, runOn_gesture]
    cases d.aim ctx l <;> rfl

/-- A gesture that finds its target is recorded and takes effect there. -/
theorem perform_of_aim_ok (action : Action) (h : d.aim ctx l = .ok p) :
    Operation.runOn (perform ctx l action) d
      = (.ok (), hit ctx l p (d.record ⟨action, ctx.name, l.describe⟩) action) := by
  rw [runOn_perform, h]

/-- A gesture that finds no target changes nothing, and its error says why. -/
theorem perform_of_aim_error {e : DriverError} (action : Action) (h : d.aim ctx l = .error e) :
    Operation.runOn (perform ctx l action) d = (.error e, d) := by
  rw [runOn_perform, h]

theorem perform_eq_ok_iff (action : Action) :
    (Operation.runOn (perform ctx l action) d).1 = .ok () ↔ ∃ p, d.aim ctx l = .ok p := by
  cases haim : d.aim ctx l with
  | ok p => simp [perform_of_aim_ok action haim]
  | error e => simp [perform_of_aim_error action haim]

theorem perform_eq_error_iff {e : DriverError} (action : Action) :
    (Operation.runOn (perform ctx l action) d).1 = .error e ↔ d.aim ctx l = .error e := by
  cases haim : d.aim ctx l with
  | ok p => simp [perform_of_aim_ok action haim]
  | error e' => simp [perform_of_aim_error action haim]

/-! ## Looking -/

/-- To ask for the elements of a context changes nothing. -/
theorem run_dump (ctx : AppContext) (now : Nat) (d : Desktop) :
    (driver.dump ctx).run now d = ⟨d.shown ctx, d, 0⟩ := by
  have h := runOn_tree ctx d
  show (⟨(Operation.runOn (tree ctx) d).1, (Operation.runOn (tree ctx) d).2, 0⟩ :
    Timed.Outcome Desktop (Except DriverError Forest)) = _
  rw [h]

/-- To look for an element changes nothing. -/
theorem run_find (ctx : AppContext) (l : Locator) (now : Nat) (d : Desktop) :
    (driver.find ctx l).run now d = ⟨(d.shown ctx).map l.findFirst?, d, 0⟩ := by
  rw [UiDriver.find]
  show (Timed.bind (driver.dump ctx).run _) now d = _
  simp only [Timed.bind, run_dump]
  cases d.shown ctx <;> rfl

/-- A gesture fails for want of a context exactly where nothing is shown of it. -/
theorem aim_eq_contextGone_iff : d.aim ctx l = .error (.contextGone ctx.name) ↔
    d.shown ctx = .error (.contextGone ctx.name) := by
  rw [shown]
  rcases aim_cases d ctx l with ⟨htree, haim⟩ | ⟨_, htree, -, haim⟩ | ⟨_, _, htree, -, haim⟩
  · simp [htree, haim]
  · simp [htree, haim]
  · simp [htree, haim]

/-- A gesture can be aimed exactly where an element is found. -/
theorem exists_aim_iff :
    (∃ p, d.aim ctx l = .ok p) ↔ ∃ e, (d.shown ctx).map l.findFirst? = .ok (some e) := by
  rw [shown]
  rcases aim_cases d ctx l with ⟨htree, haim⟩ | ⟨_, htree, hp, haim⟩ | ⟨_, _, htree, hp, haim⟩
  · simp [htree, haim, Except.map]
  · simp [htree, haim, Except.map, Locator.findFirst?_eq_none hp]
  · obtain ⟨e, he⟩ := Locator.exists_at?_of_locate? hp
    simp [htree, haim, Except.map, Locator.findFirst?, hp, he]

end Desktop

end GuiTest
