import GuiTest.Locator.Search
import GuiTest.Proofs.Element.Position

/-!
# What a search finds

The search concatenates what lies below every match of the container and drops repetitions. Where
matches of the container lie within each other, the same element is met several times and far from
its place, so neither completeness nor order is plain. `find_eq` says that both hold: the result
is the list of all positions of the forest, in document order, from which those are kept that the
locator admits, and of these the one that its occurrence picks.

The scopes of a search come in document order. A later scope is either inside of an earlier one,
and then brings nothing new (`matchingBelow_subset`), or all that it brings comes after what the
earlier one brought (`matchingBelow_lt`). So the repetitions dropped, what is left is in document
order (`pairwise_below`).
-/

namespace GuiTest

open Position

/-! ## Dropping repetitions -/

section EraseDups

variable {α : Type} [BEq α] [LawfulBEq α]

/-- Whether items are dropped before or after the repetitions makes no difference. -/
theorem eraseDups_filter (keep : α → Bool) :
    ∀ (l : List α), (l.filter keep).eraseDups = l.eraseDups.filter keep
  | [] => rfl
  | a :: l => by
    have hcomm : (l.filter keep).filter (fun b => !b == a)
        = (l.filter fun b => !b == a).filter keep := by
      simp only [List.filter_filter, Bool.and_comm]
    rw [List.eraseDups_cons, List.filter_cons, List.filter_cons,
      ← eraseDups_filter keep (l.filter fun b => !b == a)]
    split
    next => rw [List.eraseDups_cons, hcomm]
    next hdrop =>
      -- No item that is kept equals `a`, so to drop `a` as well changes nothing.
      have hself : (l.filter keep).filter (fun b => !b == a) = l.filter keep := by
        rw [List.filter_eq_self]
        intro b hb
        have hne : b ≠ a := fun h => hdrop (h ▸ (List.mem_filter.mp hb).2)
        simpa using hne
      rw [← hcomm, hself]
termination_by l => l.length
decreasing_by
  have := List.length_filter_le (fun b => !b == a) l
  simp only [List.length_cons]
  omega

theorem eraseDups_sublist : ∀ (l : List α), l.eraseDups.Sublist l
  | [] => List.Sublist.refl _
  | a :: l => by
    rw [List.eraseDups_cons, eraseDups_filter]
    exact ((List.filter_sublist).trans (eraseDups_sublist l)).cons_cons a

end EraseDups

/-! ## Criteria -/

namespace Criterion

/-- What is read of an attribute: one that an element lacks is read as the empty text. -/
def Reads (given : Option String) (text : String) : Prop :=
  given = some text ∨ given = none ∧ text = ""

theorem reads_iff {given : Option String} {text : String} :
    Reads given text ↔ given.getD "" = text := by
  cases given <;> simp [Reads, eq_comm]

/-- What it means to meet a criterion: to read as it says, or to have a text that it lets pass. A
cell needs both its row and its column, which are not read as anything if they are missing. -/
def MetBy : Criterion → Attributes → Prop
  | kind k, a => Reads a.kind k
  | text m, a => ∃ t, Reads a.text t ∧ m.accepts t = true
  | name n, a => Reads a.name n
  | id i, a => Reads a.id i
  | className c, a => Reads a.className c
  | cell row column, a => a.row = some row ∧ a.column = some column

/-- An element is accepted just if its attributes are as the criterion says. -/
theorem accepts_iff_metBy {c : Criterion} {a : Attributes} : c.accepts a = true ↔ c.MetBy a := by
  cases c with
  | kind _ | name _ | id _ | className _ => exact beq_iff_eq.trans reads_iff.symm
  | text m => simp [accepts, MetBy, reads_iff]
  | cell row column => simp [accepts, MetBy]

end Criterion

namespace Locator

/-! ## The matches of one level -/

/-- The matches of a level are the positions of the elements that it accepts. -/
theorem mem_matching {level : Level} {forest : Forest} {p : Position} :
    p ∈ matching level forest ↔ ∃ e, forest.at? p = some e ∧ level.accepts e := by
  simp only [matching, List.mem_map, List.mem_filter, Prod.exists, exists_and_right,
    exists_eq_right, Forest.mem_entries]

theorem matching_sublist (level : Level) (forest : Forest) :
    (matching level forest).Sublist forest.positions :=
  List.filter_sublist.map _

theorem pairwise_matching (level : Level) (forest : Forest) :
    (matching level forest).Pairwise (· < ·) :=
  (Forest.pairwise_positions forest).sublist (matching_sublist level forest)

/-- A level accepts an element that meets all its criteria. -/
theorem accepts_iff {level : Level} {o : Option Element} :
    (∃ e, o = some e ∧ level.accepts e) ↔
      ∃ e ∈ o, ∀ c ∈ level.criteria, c.accepts e.attributes := by
  simp only [Level.accepts, List.all_eq_true, Option.mem_def]

theorem ne_nil_of_at? {forest : Forest} {p : Position} {e : Element} (h : forest.at? p = some e) :
    p ≠ [] := by
  rintro rfl
  cases h

theorem ne_nil_of_mem_positions {forest : Forest} {p : Position} (h : p ∈ forest.positions) :
    p ≠ [] := by
  obtain ⟨e, he⟩ := Forest.mem_positions.mp h
  exact ne_nil_of_at? he

/-- Below a scope is found what the level matches strictly inside of it. -/
theorem mem_matchingBelow {level : Level} {forest : Forest} {s p : Position} :
    p ∈ matchingBelow level forest s ↔ s ≠ [] ∧ IsAbove s p ∧ p ∈ matching level forest := by
  rw [matchingBelow, isAbove_iff]
  constructor
  · intro h
    split at h
    next e he =>
      obtain ⟨r, hr, rfl⟩ := List.mem_map.mp h
      obtain ⟨x, hx, hacc⟩ := mem_matching.mp hr
      have hs := ne_nil_of_at? he
      refine ⟨hs, ⟨r, ne_nil_of_at? hx, rfl⟩, mem_matching.mpr ⟨x, ?_, hacc⟩⟩
      rw [Forest.at?_append forest hs (ne_nil_of_at? hx), he]
      exact hx
    next => cases h
  · rintro ⟨hs, ⟨r, hr, rfl⟩, hm⟩
    obtain ⟨x, hx, hacc⟩ := mem_matching.mp hm
    rw [Forest.at?_append forest hs hr] at hx
    obtain ⟨e, he, hx⟩ := Option.bind_eq_some_iff.mp hx
    rw [he]
    exact List.mem_map.mpr ⟨r, mem_matching.mpr ⟨x, hx, hacc⟩, rfl⟩

theorem pairwise_matchingBelow (level : Level) (forest : Forest) (s : Position) :
    (matchingBelow level forest s).Pairwise (· < ·) := by
  rw [matchingBelow]
  split
  next e _ =>
    exact (pairwise_matching level e.children).map _ fun _ _ h => append_lt_append_left s h
  next => exact List.Pairwise.nil

/-! ## Several scopes -/

/-- A scope inside of another brings nothing that the other does not bring. -/
theorem matchingBelow_subset {level : Level} {forest : Forest} {s t : Position} (hs : s ≠ [])
    (h : IsAbove s t) : matchingBelow level forest t ⊆ matchingBelow level forest s := by
  intro p hp
  obtain ⟨-, hup, hm⟩ := mem_matchingBelow.mp hp
  exact mem_matchingBelow.mpr ⟨hs, h.trans hup, hm⟩

/-- A later scope that is not inside of an earlier one brings only what comes later. -/
theorem matchingBelow_lt {level : Level} {forest : Forest} {s t p q : Position} (h : s < t)
    (hout : ¬ s <+: t) (hp : p ∈ matchingBelow level forest s)
    (hq : q ∈ matchingBelow level forest t) : p < q := by
  obtain ⟨-, hsp, -⟩ := mem_matchingBelow.mp hp
  obtain ⟨-, htq, -⟩ := mem_matchingBelow.mp hq
  obtain ⟨u, -, rfl⟩ := isAbove_iff.mp hsp
  obtain ⟨v, -, rfl⟩ := isAbove_iff.mp htq
  exact append_lt_append h hout u v

/-- **Order of a scoped search.** What lies below scopes in document order is itself in document
order once repetitions are dropped. -/
theorem pairwise_below (level : Level) (forest : Forest) :
    ∀ (scopes : List Position), scopes.Pairwise (· < ·) → (∀ s ∈ scopes, s ≠ []) →
      (scopes.flatMap (matchingBelow level forest)).eraseDups.Pairwise (· < ·) := by
  intro scopes
  induction scopes with
  | nil => exact fun _ _ => List.Pairwise.nil
  | cons s rest ih =>
    intro hsorted hne
    obtain ⟨hlt, hrest⟩ := List.pairwise_cons.mp hsorted
    rw [List.flatMap_cons, List.eraseDups_append, List.pairwise_append]
    refine ⟨(pairwise_matchingBelow level forest s).sublist (eraseDups_sublist _), ?_, ?_⟩
    · rw [List.removeAll, eraseDups_filter]
      exact (ih hrest fun t ht => hne t (List.mem_cons_of_mem _ ht)).sublist List.filter_sublist
    · intro p hp q hq
      rw [List.mem_eraseDups] at hp hq
      obtain ⟨hq, hnew⟩ := List.mem_filter.mp hq
      obtain ⟨t, ht, hqt⟩ := List.mem_flatMap.mp hq
      have hst := hlt t ht
      by_cases hpre : s <+: t
      · -- What an inner scope brings was there already and has been dropped.
        have hmem := matchingBelow_subset (hne s List.mem_cons_self)
          ⟨hpre, fun h => List.lt_irrefl t (h ▸ hst)⟩ hqt
        simp [hmem] at hnew
      · exact matchingBelow_lt hst hpre hp hqt

/-! ## The whole chain -/

/-- An occurrence picks from what was found. -/
theorem pick_sublist {α : Type} (level : Level) (found : List α) :
    (level.pick found).Sublist found := by
  rw [Level.pick]
  split
  next n _ =>
    cases h : found[n.toNat - 1]? with
    | none => exact List.nil_sublist _
    | some a => exact List.singleton_sublist.mpr (List.mem_of_getElem? h)
  next => exact List.Sublist.refl _

/-- The element at `p` meets all criteria of the locator and lies strictly inside of something that
the container means, if there is a container. -/
def Admits (l : Locator) (forest : Forest) (p : Position) : Prop :=
  (∃ e ∈ forest.at? p, ∀ c ∈ l.own.criteria, c.accepts e.attributes) ∧
    ∀ c ∈ l.container?, ∃ q ∈ c.find forest, IsAbove q p

instance (l : Locator) (forest : Forest) (p : Position) : Decidable (l.Admits forest p) :=
  inferInstanceAs (Decidable (_ ∧ _))

/-- What a locator admits is there. -/
theorem Admits.mem_positions {l : Locator} {forest : Forest} {p : Position}
    (h : l.Admits forest p) : p ∈ forest.positions := by
  obtain ⟨⟨e, he, -⟩, -⟩ := h
  exact Forest.mem_positions.mpr ⟨e, he⟩

/-- The positions that a locator admits, in document order. -/
def admitted (l : Locator) (forest : Forest) : List Position :=
  forest.positions.filter (l.Admits forest ·)

/-- The list of what is admitted holds just that. -/
theorem mem_admitted {l : Locator} {forest : Forest} {p : Position} :
    p ∈ l.admitted forest ↔ l.Admits forest p := by
  rw [admitted, List.mem_filter, decide_eq_true_iff]
  exact ⟨And.right, fun h => ⟨h.mem_positions, h⟩⟩

theorem pairwise_admitted (l : Locator) (forest : Forest) :
    (l.admitted forest).Pairwise (· < ·) :=
  (Forest.pairwise_positions forest).sublist List.filter_sublist

/-- One level of a search. If the container is found in document order within the forest, then the
level picks among what the locator admits. -/
theorem find_step (forest : Forest) (level : Level) (containers : List Level)
    (hc : ∀ c ∈ container? ⟨level, containers⟩,
      (c.find forest).Pairwise (· < ·) ∧ c.find forest ⊆ forest.positions) :
    find ⟨level, containers⟩ forest = level.pick (admitted ⟨level, containers⟩ forest) := by
  -- Both lists are sorted, so it is enough that they have the same members.
  cases containers with
  | nil =>
    refine congrArg level.pick (List.Pairwise.eq_of_mem_iff (pairwise_matching level forest)
      (pairwise_admitted _ forest) fun p => ?_)
    rw [mem_admitted, mem_matching]
    exact ⟨fun h => ⟨accepts_iff.mp h, nofun⟩, fun h => accepts_iff.mpr h.1⟩
  | cons container outer =>
    obtain ⟨hsorted, hsub⟩ := hc ⟨container, outer⟩ rfl
    have hne : ∀ s ∈ find ⟨container, outer⟩ forest, s ≠ [] :=
      fun s hs => ne_nil_of_mem_positions (hsub hs)
    refine congrArg level.pick (List.Pairwise.eq_of_mem_iff
      (pairwise_below level forest _ hsorted hne) (pairwise_admitted _ forest) fun p => ?_)
    rw [mem_admitted, List.mem_eraseDups, List.mem_flatMap]
    constructor
    · rintro ⟨s, hs, hp⟩
      obtain ⟨-, hup, hm⟩ := mem_matchingBelow.mp hp
      refine ⟨accepts_iff.mp (mem_matching.mp hm), fun c hc => ?_⟩
      obtain rfl := Option.some.inj hc
      exact ⟨s, hs, hup⟩
    · rintro ⟨hacc, hup⟩
      obtain ⟨s, hs, hsp⟩ := hup ⟨container, outer⟩ rfl
      exact ⟨s, hs, mem_matchingBelow.mpr ⟨hne s hs, hsp, mem_matching.mpr (accepts_iff.mpr hacc)⟩⟩

/-- Of what a locator admits, in document order, its occurrence picks. -/
theorem find_eq_pick (l : Locator) (forest : Forest) :
    l.find forest = l.own.pick (l.admitted forest) := by
  obtain ⟨level, containers⟩ := l
  induction containers generalizing level with
  | nil => exact find_step forest level [] nofun
  | cons container outer ih =>
    refine find_step forest level (container :: outer) fun c hc => ?_
    obtain rfl := Option.some.inj hc
    have hpick := pick_sublist container (admitted ⟨container, outer⟩ forest)
    rw [ih container]
    exact ⟨(pairwise_admitted _ forest).sublist hpick,
      fun p hp => (mem_admitted.mp (hpick.subset hp)).mem_positions⟩

/-- What is found is in document order. -/
theorem pairwise_find (l : Locator) (forest : Forest) : (l.find forest).Pairwise (· < ·) := by
  rw [find_eq_pick]
  exact (pairwise_admitted l forest).sublist (pick_sublist l.own _)

/-- What is found is admitted. -/
theorem Admits.of_mem_find {l : Locator} {forest : Forest} {p : Position}
    (h : p ∈ l.find forest) : l.Admits forest p := by
  rw [find_eq_pick] at h
  exact mem_admitted.mp ((pick_sublist l.own _).subset h)

/-- **Reference semantics of a search.** A locator means the positions of the forest, in document
order, whose elements meet all own criteria and lie strictly inside of something that the container
means; with an occurrence, the one of these with that number, counted from one. So no position is
found twice, all come in document order, none is missing, and nothing is found inside of itself. To
meet a criterion means what `Criterion.MetBy` says of each. -/
theorem find_eq (l : Locator) (forest : Forest) :
    l.find forest =
        (match l.own.occurrence with
          | none => forest.positions.filter (l.Admits forest ·)
          | some n => (forest.positions.filter (l.Admits forest ·))[n.toNat - 1]?.toList)
      ∧ (forest.positions.Pairwise (· < ·) ∧ ∀ p, p ∈ forest.positions ↔ (forest.at? p).isSome)
      ∧ (l.find forest).Nodup
      ∧ (l.find forest).Pairwise (· < ·)
      ∧ (l.own.occurrence = none → ∀ p, p ∈ l.find forest ↔ l.Admits forest p)
      ∧ (∀ c ∈ l.container?, ∀ p ∈ l.find forest, ∃ q ∈ c.find forest, IsAbove q p)
      ∧ ∀ p, l.Admits forest p ↔
        (∃ e ∈ forest.at? p, ∀ c ∈ l.own.criteria, c.MetBy e.attributes) ∧
          ∀ c ∈ l.container?, ∃ q ∈ c.find forest, IsAbove q p := by
  have hpick := find_eq_pick l forest
  have hsorted := pairwise_find l forest
  refine ⟨?_, ⟨Forest.pairwise_positions forest, fun p => ?_⟩, ?_, hsorted, ?_, ?_, fun p => ?_⟩
  · rw [hpick, Level.pick, admitted]
    cases l.own.occurrence <;> rfl
  · rw [Forest.mem_positions, Option.isSome_iff_exists]
  · exact hsorted.nodup
  · intro hall p
    rw [hpick, Level.pick, hall]
    exact mem_admitted
  · exact fun c hc p hp => (Admits.of_mem_find hp).2 c hc
  · simp only [Admits, Criterion.accepts_iff_metBy]

/-- Where matches of the container lie within each other, what is below both is found once, and the
second of all is the one that is deepest. None of the panes has a number, which reads as the empty
text, and only one is in a cell. -/
theorem find_eq_nested_panes :
    let pane : Attributes := { kind := some "Pane" }
    let forest : Forest :=
      [.node pane [.node pane [.node { pane with row := some 0, column := some 1 } []],
        .node { pane with row := some 0 } []], .node pane []]
    let any : Level := ⟨[.kind "Pane", .id ""], none⟩
    find ⟨any, [any]⟩ forest = [[0, 0], [0, 0, 0], [0, 1]]
      ∧ find ⟨{ any with occurrence := some 2 }, [any]⟩ forest = [[0, 0, 0]]
      ∧ find ⟨⟨[.cell 0 1], none⟩, []⟩ forest = [[0, 0, 0]]
      ∧ (Criterion.id "").MetBy pane ∧ ¬(Criterion.cell 0 1).MetBy { pane with row := some 0 } := by
  refine ⟨(find_eq _ _).1.trans ?_, (find_eq _ _).1.trans ?_, (find_eq _ _).1.trans ?_,
    Or.inr ⟨rfl, rfl⟩, nofun⟩
  all_goals decide

end Locator

end GuiTest
