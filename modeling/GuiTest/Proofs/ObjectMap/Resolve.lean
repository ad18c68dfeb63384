import GuiTest.Proofs.ObjectMap.Entry
import GuiTest.Proofs.ObjectMap.NameTable

/-!
# Resolving an object map

What an entry should resolve to is a matter of its chain of containers alone (`Resolves`): its
locator is made inside the locator of its container. The memo of the resolver holds nothing else
(`Correct`), in whatever order the names come, so what it answers is right (`resolve_sound`). And it
answers wherever there is something to answer (`resolve_complete`): the depth of the locators falls
along a chain, so no name on it is met twice. `parse_sound_complete` puts together when there is an
object map and what is in it.
-/

namespace GuiTest.ObjectMap

/-- The chain of containers of a name ends, after so many hops. -/
inductive Hops (table : NameTable Entry) : String → Nat → Prop where
  | root {name : String} {e : Entry} (hname : table.get? name = some e)
    (hcontainer : e.container = none) : Hops table name 0
  | inside {name container : String} {e : Entry} {n : Nat} (hname : table.get? name = some e)
    (hcontainer : e.container = some container) (h : Hops table container n) :
    Hops table name (n + 1)

/-- The locator that a name stands for. -/
inductive Resolves (table : NameTable Entry) : String → Locator → Prop where
  | root {name : String} {e : Entry} {l : Locator} (hname : table.get? name = some e)
    (hcontainer : e.container = none) (hl : locatorOf name e [] = .ok l) : Resolves table name l
  | inside {name container : String} {e : Entry} {l parent : Locator}
    (hname : table.get? name = some e) (hcontainer : e.container = some container)
    (hparent : Resolves table container parent) (hl : locatorOf name e parent.levels = .ok l) :
    Resolves table name l

/-- What is required of a table: all containers are there, no chain of them goes on for ever, and
each entry is valid by itself. -/
structure Sound (table : NameTable Entry) : Prop where
  known : ∀ name e, (name, e) ∈ table → ∀ container, e.container = some container →
    container ∈ table.names
  ends : ∀ name ∈ table.names, ∃ n, Hops table name n
  valid : ∀ name e, (name, e) ∈ table → e.Valid

variable {table : NameTable Entry} {done done' : NameTable Locator} {name : String} {e : Entry}
  {l l' : Locator} {unvisited : List String}

/-! ## What names stand for -/

/-- The containers of a locator are those it was made with. -/
theorem containers_of_locatorOf {containers : List Level}
    (h : locatorOf name e containers = .ok l) : l.containers = containers := by
  obtain ⟨-, rfl⟩ := locatorOf_eq_ok_iff.mp h
  rfl

namespace Resolves

/-- What resolves is in the table. -/
theorem exists_entry (h : Resolves table name l) : ∃ e, table.get? name = some e := by
  cases h with
  | root hname => exact ⟨_, hname⟩
  | inside hname => exact ⟨_, hname⟩

/-- A name stands for one locator at most. -/
theorem unique (h : Resolves table name l) (h' : Resolves table name l') : l = l' := by
  induction h generalizing l' with
  | root hname hcontainer hl =>
    cases h' with
    | root hname' _ hl' =>
      cases hname.symm.trans hname'
      exact Except.ok.inj (hl.symm.trans hl')
    | inside hname' hcontainer' =>
      cases hname.symm.trans hname'
      cases hcontainer.symm.trans hcontainer'
  | inside hname hcontainer _ hl ih =>
    cases h' with
    | root hname' hcontainer' =>
      cases hname.symm.trans hname'
      cases hcontainer.symm.trans hcontainer'
    | inside hname' hcontainer' hparent' hl' =>
      cases hname.symm.trans hname'
      cases hcontainer.symm.trans hcontainer'
      cases ih hparent'
      exact Except.ok.inj (hl.symm.trans hl')

/-- The depth of a locator is the number of hops to the outermost container. -/
theorem hops (h : Resolves table name l) : Hops table name l.depth := by
  induction h with
  | root hname hcontainer hl =>
    rw [Locator.depth, containers_of_locatorOf hl]
    exact .root hname hcontainer
  | inside hname hcontainer _ hl ih =>
    rw [Locator.depth, containers_of_locatorOf hl]
    exact .inside hname hcontainer ih

/-- And its entry makes a locator. -/
theorem valid (h : Resolves table name l) (hname : table.get? name = some e) : e.Valid := by
  cases h with
  | root hname' _ hl =>
    cases hname.symm.trans hname'
    exact (locatorOf_eq_ok_iff.mp hl).1
  | inside hname' _ _ hl =>
    cases hname.symm.trans hname'
    exact (locatorOf_eq_ok_iff.mp hl).1

/-- A locator has no container exactly if its entry names none. -/
theorem containers_isEmpty (h : Resolves table name l) (hname : table.get? name = some e) :
    l.containers.isEmpty = e.container.isNone := by
  cases h with
  | root hname' hcontainer hl =>
    cases hname.symm.trans hname'
    rw [containers_of_locatorOf hl, hcontainer]
    rfl
  | inside hname' hcontainer _ hl =>
    cases hname.symm.trans hname'
    rw [containers_of_locatorOf hl, hcontainer]
    rfl

end Resolves

/-- In a sound table each name stands for a locator. -/
theorem Sound.resolves (h : Sound table) {n : Nat} (hn : Hops table name n) :
    ∃ l, Resolves table name l := by
  induction hn with
  | root hname hcontainer =>
    have hvalid := h.valid _ _ (NameTable.mem_of_get? hname)
    exact ⟨_, .root hname hcontainer (locatorOf_eq_ok_iff.mpr ⟨hvalid, rfl⟩)⟩
  | inside hname hcontainer _ ih =>
    obtain ⟨parent, hparent⟩ := ih
    have hvalid := h.valid _ _ (NameTable.mem_of_get? hname)
    exact ⟨_, .inside hname hcontainer hparent (locatorOf_eq_ok_iff.mpr ⟨hvalid, rfl⟩)⟩

/-- A table is sound exactly if each of its names stands for a locator. -/
theorem sound_iff (hsorted : table.IsSorted) :
    Sound table ↔ ∀ name ∈ table.names, ∃ l, Resolves table name l := by
  constructor
  · intro h name hname
    obtain ⟨n, hn⟩ := h.ends name hname
    exact h.resolves hn
  · intro h
    refine ⟨fun name e he container hcontainer => ?_, fun name hname => ?_, fun name e he => ?_⟩
    · obtain ⟨l, hl⟩ := h name (NameTable.mem_names_of_mem he)
      cases hl with
      | root hname hnone =>
        cases (hsorted.get?_of_mem he).symm.trans hname
        cases hcontainer.symm.trans hnone
      | inside hname hsome hparent =>
        cases (hsorted.get?_of_mem he).symm.trans hname
        cases hcontainer.symm.trans hsome
        obtain ⟨outer, houter⟩ := hparent.exists_entry
        exact NameTable.mem_names_of_get? houter
    · obtain ⟨l, hl⟩ := h name hname
      exact ⟨l.depth, hl.hops⟩
    · obtain ⟨l, hl⟩ := h name (NameTable.mem_names_of_mem he)
      exact hl.valid (hsorted.get?_of_mem he)

/-! ## The memo -/

/-- The memo is in order, and holds what its names stand for and nothing else. -/
structure Correct (table : NameTable Entry) (done : NameTable Locator) : Prop where
  sorted : done.IsSorted
  resolves : ∀ name l, done.get? name = some l → Resolves table name l

theorem Correct.nil : Correct table [] := ⟨List.Pairwise.nil, nofun⟩

/-- What one memo holds, another one holds too. -/
def Extends (done done' : NameTable Locator) : Prop :=
  ∀ name l, done.get? name = some l → done'.get? name = some l

/-- What is done stays correct when one more locator is. -/
theorem Correct.insert (h : Correct table done) (hl : Resolves table name l) :
    Correct table (done.insert name l) := by
  refine ⟨h.sorted.insert, fun other l' h' => ?_⟩
  rw [NameTable.get?_insert] at h'
  split at h'
  next heq =>
    cases h'
    rwa [heq]
  next => exact h.resolves other l' h'

/-- To add a name that is new or stands for the same changes nothing else. -/
theorem Correct.extends_insert (h : Correct table done) (hl : Resolves table name l) :
    Extends done (done.insert name l) := by
  intro other l' h'
  rw [NameTable.get?_insert]
  split
  next heq => rw [(h.resolves other l' h').unique (heq ▸ hl)]
  next => exact h'

theorem get?_insert_self : (done.insert name l).get? name = some l := by
  rw [NameTable.get?_insert, if_pos rfl]

/-! ## Resolving one name -/

/-- **What the resolver answers is right**, and it leaves a memo that is right and holds more. -/
theorem resolve_sound (hdone : Correct table done) (hname : table.get? name = some e)
    (h : resolve table unvisited done name e = .ok (l, done')) :
    Resolves table name l ∧ Correct table done' ∧ Extends done done'
      ∧ done'.get? name = some l := by
  -- The memo does not change on the way up the chain, only on the way back.
  fun_induction resolve table unvisited done name e generalizing l done' with
  | case1 _ name _ _ hfound =>
    cases h
    exact ⟨hdone.resolves name _ hfound, hdone, fun _ _ h => h, hfound⟩
  | case2 _ _ _ _ _ hcontainer _ hl =>
    cases h
    have hresolves := Resolves.root hname hcontainer hl
    exact ⟨hresolves, hdone.insert hresolves, hdone.extends_insert hresolves, get?_insert_self⟩
  | case7 _ _ _ _ _ _ hcontainer _ houter _ _ hparent _ hl ih =>
    cases h
    obtain ⟨hparent, hdone', hextends, -⟩ := ih houter hparent
    have hresolves := Resolves.inside hname hcontainer hparent hl
    exact ⟨hresolves, hdone'.insert hresolves,
      fun other l' h => hdone'.extends_insert hresolves other l' (hextends other l' h),
      get?_insert_self⟩
  | case3 | case4 | case5 | case6 | case8 | case9 => cases h

/-- A name that was resolved before is answered from the memo. -/
theorem Correct.resolve_found (h : Correct table done) (hl : Resolves table name l)
    (hfound : done.get? name = some l') :
    resolve table unvisited done name e = .ok (l, done) := by
  rw [resolve, hfound, hl.unique (h.resolves name l' hfound)]

/-- An entry in nothing is resolved at once. -/
theorem resolve_root (hnew : done.get? name = none) (hmem : name ∈ unvisited)
    (hcontainer : e.container = none) (hl : locatorOf name e [] = .ok l) :
    resolve table unvisited done name e = .ok (l, done.insert name l) := by
  rw [resolve, hnew]
  dsimp only
  rw [dif_pos hmem]
  split
  next => rw [hl]
  next hsome => cases hcontainer.symm.trans hsome

/-- An entry in a container is resolved after that. -/
theorem resolve_inside {container : String} {outer : Entry} {parent : Locator}
    (hnew : done.get? name = none) (hmem : name ∈ unvisited)
    (hcontainer : e.container = some container) (houter : table.get? container = some outer)
    (hparent : resolve table (unvisited.erase name) done container outer = .ok (parent, done'))
    (hl : locatorOf name e parent.levels = .ok l) :
    resolve table unvisited done name e = .ok (l, done'.insert name l) := by
  rw [resolve, hnew]
  dsimp only
  rw [dif_pos hmem]
  split
  next hnone => cases hcontainer.symm.trans hnone
  next hsome =>
    cases hcontainer.symm.trans hsome
    rw [houter]
    dsimp only
    rw [hparent]
    dsimp only
    rw [hl]

/-- **Where there is something to answer, the resolver answers it**, if it may yet visit all names
that are no deeper. -/
theorem resolve_complete (hdone : Correct table done) (hl : Resolves table name l)
    (hname : table.get? name = some e)
    (hunvisited : ∀ other l', Resolves table other l' → l'.depth ≤ l.depth → other ∈ unvisited) :
    ∃ done', resolve table unvisited done name e = .ok (l, done') := by
  induction hl generalizing e unvisited with
  | @root name _ l hname' hcontainer hl =>
    cases hname.symm.trans hname'
    have hresolves := Resolves.root hname hcontainer hl
    cases hfound : done.get? name with
    | some l' => exact ⟨done, hdone.resolve_found hresolves hfound⟩
    | none =>
      have hmem := hunvisited name l hresolves (Nat.le_refl _)
      exact ⟨_, resolve_root hfound hmem hcontainer hl⟩
  | @inside name container _ l parent hname' hcontainer hparent hl ih =>
    cases hname.symm.trans hname'
    have hresolves := Resolves.inside hname hcontainer hparent hl
    cases hfound : done.get? name with
    | some l' => exact ⟨done, hdone.resolve_found hresolves hfound⟩
    | none =>
      have hmem := hunvisited name l hresolves (Nat.le_refl _)
      have hdeeper : parent.depth < l.depth := by
        rw [Locator.depth, Locator.depth, containers_of_locatorOf hl]
        exact Nat.lt_succ_self _
      obtain ⟨outer, houter⟩ := hparent.exists_entry
      -- The name itself is deeper than all that is still to be visited, so it is not missed.
      obtain ⟨done', hresolve⟩ := ih houter fun other l' hother hle => by
        have hne : other ≠ name := by
          rintro rfl
          rw [hother.unique hresolves] at hle
          omega
        exact (List.mem_erase_of_ne hne).mpr (hunvisited other l' hother (by omega))
      exact ⟨_, resolve_inside hfound hmem hcontainer houter hresolve hl⟩

/-! ## Resolving all names -/

/-- What is resolved in the end is what resolves. -/
theorem resolveAll_sound {members : List (String × Entry)} (hdone : Correct table done)
    (hmembers : ∀ name e, (name, e) ∈ members → table.get? name = some e)
    (h : resolveAll table done members = .ok done') :
    Correct table done' ∧ Extends done done'
      ∧ ∀ name e, (name, e) ∈ members → ∃ l, done'.get? name = some l := by
  induction members generalizing done with
  | nil =>
    cases h
    exact ⟨hdone, fun _ _ h => h, fun _ _ h => absurd h List.not_mem_nil⟩
  | cons member rest ih =>
    obtain ⟨name, e⟩ := member
    rw [resolveAll] at h
    split at h
    next l done₁ hresolve =>
      obtain ⟨-, hdone₁, hextends₁, hfound⟩ :=
        resolve_sound hdone (hmembers name e List.mem_cons_self) hresolve
      obtain ⟨hdone', hextends', hall⟩ :=
        ih hdone₁ (fun n e' h => hmembers n e' (List.mem_cons_of_mem _ h)) h
      refine ⟨hdone', fun n l h => hextends' n l (hextends₁ n l h), fun n e' hmem => ?_⟩
      rcases List.mem_cons.mp hmem with heq | hmem
      · cases heq
        exact ⟨l, hextends' name l hfound⟩
      · exact hall n e' hmem
    next => cases h

/-- If everything resolves, nothing stops the way through the table. -/
theorem resolveAll_complete {members : List (String × Entry)} (hdone : Correct table done)
    (hmembers : ∀ name e, (name, e) ∈ members →
      table.get? name = some e ∧ ∃ l, Resolves table name l) :
    ∃ done', resolveAll table done members = .ok done' := by
  induction members generalizing done with
  | nil => exact ⟨done, rfl⟩
  | cons member rest ih =>
    obtain ⟨name, e⟩ := member
    obtain ⟨hname, l, hl⟩ := hmembers name e List.mem_cons_self
    have hnames : ∀ other l', Resolves table other l' → l'.depth ≤ l.depth →
        other ∈ table.names := fun other l' hother _ => by
      obtain ⟨e', he'⟩ := hother.exists_entry
      exact NameTable.mem_names_of_get? he'
    obtain ⟨done₁, hresolve⟩ := resolve_complete hdone hl hname hnames
    obtain ⟨-, hdone₁, -⟩ := resolve_sound hdone hname hresolve
    rw [resolveAll, hresolve]
    exact ih hdone₁ fun n e' h => hmembers n e' (List.mem_cons_of_mem _ h)

/-! ## The object map of a table -/

/-- What a map says about the entries of a table: it has their names and no others, and each name
has a locator with what the entry sets, inside the locator that the map has for its container. -/
structure Describes (m : ObjectMap) (table : NameTable Entry) : Prop where
  names : m.entries.names = table.names
  locator : ∀ name e, (name, e) ∈ table → ∃ l, m.entries.get? name = some l
    ∧ l.own.criteria = e.criteria ∧ l.own.occurrence = e.occurrence
    ∧ l.container? = e.container.bind m.entries.get? ∧ Hops table name l.depth
  roots : m.roots = NameTable.names (table.filter fun x => x.2.container.isNone)

/-- A map is what the way through the table leaves. -/
theorem ofEntries_eq_ok_iff {m : ObjectMap} :
    ofEntries table = .ok m ↔ resolveAll table [] table = .ok m.entries := by
  rw [ofEntries]
  cases resolveAll table [] table with
  | error f => exact ⟨nofun, nofun⟩
  | ok entries =>
    constructor
    · rintro ⟨⟩
      rfl
    · rintro ⟨⟩
      rfl

/-- **There is an object map exactly if the table is sound.** -/
theorem exists_ofEntries_iff (hsorted : table.IsSorted) :
    (∃ m, ofEntries table = .ok m) ↔ Sound table := by
  rw [sound_iff hsorted]
  constructor
  · rintro ⟨m, hm⟩ name hname
    obtain ⟨hcorrect, -, hall⟩ := resolveAll_sound .nil (fun _ _ => hsorted.get?_of_mem)
      (ofEntries_eq_ok_iff.mp hm)
    obtain ⟨e, he⟩ := NameTable.exists_get?_of_mem_names hname
    obtain ⟨l, hl⟩ := hall name e (NameTable.mem_of_get? he)
    exact ⟨l, hcorrect.resolves name l hl⟩
  · intro h
    have hall : ∀ name e, (name, e) ∈ table →
        table.get? name = some e ∧ ∃ l, Resolves table name l := fun name e he =>
      ⟨hsorted.get?_of_mem he, h name (NameTable.mem_names_of_mem he)⟩
    obtain ⟨entries, hentries⟩ := resolveAll_complete .nil hall
    exact ⟨⟨entries⟩, ofEntries_eq_ok_iff.mpr hentries⟩

/-- What a locator of the map is made of. -/
theorem Resolves.own_container {m : ObjectMap} (h : Resolves table name l)
    (hname : table.get? name = some e)
    (hall : ∀ other l', Resolves table other l' → m.entries.get? other = some l') :
    l.own.criteria = e.criteria ∧ l.own.occurrence = e.occurrence
      ∧ l.container? = e.container.bind m.entries.get? := by
  cases h with
  | root hname' hcontainer hl =>
    cases hname.symm.trans hname'
    obtain ⟨-, rfl⟩ := locatorOf_eq_ok_iff.mp hl
    exact ⟨rfl, rfl, by rw [hcontainer]; rfl⟩
  | inside hname' hcontainer hparent hl =>
    cases hname.symm.trans hname'
    obtain ⟨-, rfl⟩ := locatorOf_eq_ok_iff.mp hl
    exact ⟨rfl, rfl, by rw [hcontainer, Option.bind_some, hall _ _ hparent]; rfl⟩

/-- A map that is made describes its table. -/
theorem describes_of_ofEntries {m : ObjectMap} (hsorted : table.IsSorted)
    (h : ofEntries table = .ok m) : Describes m table := by
  obtain ⟨hcorrect, -, hall⟩ := resolveAll_sound .nil (fun _ _ => hsorted.get?_of_mem)
    (ofEntries_eq_ok_iff.mp h)
  have hfound : ∀ other l', Resolves table other l' → m.entries.get? other = some l' := by
    intro other l' hl'
    obtain ⟨e, he⟩ := hl'.exists_entry
    obtain ⟨l, hl⟩ := hall other e (NameTable.mem_of_get? he)
    rw [hl, (hcorrect.resolves other l hl).unique hl']
  -- Both tables are sorted, so they list the same names in the same order.
  have hnames : m.entries.names = table.names := by
    refine hcorrect.sorted.names_eq hsorted fun name => ⟨fun hname => ?_, fun hname => ?_⟩
    · obtain ⟨l, hl⟩ := NameTable.exists_get?_of_mem_names hname
      obtain ⟨e, he⟩ := (hcorrect.resolves name l hl).exists_entry
      exact NameTable.mem_names_of_get? he
    · obtain ⟨e, he⟩ := NameTable.exists_get?_of_mem_names hname
      obtain ⟨l, hl⟩ := hall name e (NameTable.mem_of_get? he)
      exact NameTable.mem_names_of_get? hl
  have hlocator : ∀ name e, (name, e) ∈ table → ∃ l, m.entries.get? name = some l
      ∧ l.own.criteria = e.criteria ∧ l.own.occurrence = e.occurrence
      ∧ l.container? = e.container.bind m.entries.get? ∧ Hops table name l.depth := by
    intro name e he
    obtain ⟨l, hl⟩ := hall name e he
    have hresolves := hcorrect.resolves name l hl
    obtain ⟨hcriteria, hoccurrence, hcontainer⟩ :=
      hresolves.own_container (hsorted.get?_of_mem he) hfound
    exact ⟨l, hl, hcriteria, hoccurrence, hcontainer, hresolves.hops⟩
  have hroot : ∀ name ∈ table.names, ((m.entries.get? name).any fun l => l.containers.isEmpty)
      = (table.get? name).any fun e => e.container.isNone := by
    intro name hname
    obtain ⟨e, he⟩ := NameTable.exists_get?_of_mem_names hname
    obtain ⟨l, hl⟩ := hall name e (NameTable.mem_of_get? he)
    rw [hl, he, Option.any_some, Option.any_some,
      (hcorrect.resolves name l hl).containers_isEmpty he]
  have hroots : m.roots = NameTable.names (table.filter fun x => x.2.container.isNone) := by
    have hm := hcorrect.sorted.names_filter fun l => l.containers.isEmpty
    rw [hnames, List.filter_congr hroot] at hm
    exact hm.trans (hsorted.names_filter fun e => e.container.isNone).symm
  exact ⟨hnames, hlocator, hroots⟩

/-- The names of a file are sorted by its reader. -/
theorem isSorted_of_run {json : String} (h : decodeEntries.run json = some table) :
    table.IsSorted := by
  obtain ⟨v, -, hv⟩ := Option.bind_eq_some_iff.mp h
  unfold decodeEntries at hv
  split at hv
  next =>
    obtain ⟨members, -, rfl⟩ := Option.map_eq_some_iff.mp hv
    exact NameTable.isSorted_ofList members
  next => cases hv

/-- **Reading an object map is sound and complete.** A table that is read makes an object map
exactly if it is sound, and the map then describes the table. -/
theorem parse_sound_complete (json : String) (table : NameTable Entry)
    (h : decodeEntries.run json = some table) :
    ((∃ m, parse json = .ok m) ↔ Sound table) ∧ ∀ m, parse json = .ok m → Describes m table := by
  have hsorted := isSorted_of_run h
  rw [parse, h]
  exact ⟨exists_ofEntries_iff hsorted, fun m => describes_of_ofEntries hsorted⟩

/-- A button inside a window that is written after it. -/
theorem parse_sound_complete_button :
    let json := "\x7b\"ok\":\x7b\"type\":\"Button\",\"container\":\"win\"\x7d,"
      ++ "\"win\":\x7b\"id\":\"w\",\"text\":\x7b\"wildcard\":\"A*\"\x7d\x7d\x7d"
    let button : Entry := ⟨some "win", some "Button", none, none, none, none, none, none, none⟩
    let window : Entry :=
      ⟨none, none, some (.wildcard "A*"), none, some "w", none, none, none, none⟩
    decodeEntries.run json = some [("ok", button), ("win", window)]
      ∧ ∃ m, parse json = .ok m ∧ m.roots = ["win"] := by
  intro json button window
  have hread : decodeEntries.run json = some [("ok", button), ("win", window)] := by
    decide +kernel
  obtain ⟨hiff, hdescribes⟩ := parse_sound_complete json _ hread
  have hwindow : Hops [("ok", button), ("win", window)] "win" 0 := .root rfl rfl
  have hsound : Sound [("ok", button), ("win", window)] := by
    refine ⟨?_, ?_, ?_⟩
    · rintro name e (_ | ⟨_, _ | ⟨_, ⟨⟩⟩⟩) container ⟨⟩
      decide
    · rintro name (_ | ⟨_, _ | ⟨_, ⟨⟩⟩⟩)
      · exact ⟨1, .inside rfl rfl hwindow⟩
      · exact ⟨0, hwindow⟩
    · rintro name e (_ | ⟨_, _ | ⟨_, ⟨⟩⟩⟩)
      · exact ⟨rfl, by decide, nofun, nofun⟩
      · exact ⟨rfl, by decide, nofun, nofun⟩
  obtain ⟨m, hm⟩ := hiff.mpr hsound
  refine ⟨hread, m, hm, ?_⟩
  rw [(hdescribes m hm).roots]
  rfl

end GuiTest.ObjectMap
