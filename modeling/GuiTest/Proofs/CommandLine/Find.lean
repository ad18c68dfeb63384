import GuiTest.CommandLine.Execution
import GuiTest.Proofs.Application.Ownership
import GuiTest.Proofs.ObjectMap.Fault
import GuiTest.Proofs.Waiting.Sighting

/-!
# How looking for an element in files ends

`find` reads an object map, takes a locator from it, reads a snapshot, picks a context and waits for
an element; each of these may fail, and each failure has its exit code (`Verdict.exitCode`). `Ends`
says when it ends how, in terms of the two files, the name and the context alone. Waiting changes
nothing, because a desktop that was loaded shows the same at every look: it gives what the first
look gives (`found_tryUntil_of_constant`), whatever the time, the pauses and the clock. So neither
the exit code nor the output depends on them, and `find_exit` says what they are. The output is told
in words of its own (`Verdict.output`), and `output_showFound` says that it is what is shown.
-/

namespace GuiTest

/-! ## Waiting on a desktop -/

theorem Attempt.value_adapt {σ ε δ α : Type} (x : Attempt σ ε α) (g : ε → δ) (now : Nat) (s : σ) :
    ((x.adapt g).run now s).value = (x.run now s).value.mapError g := rfl

/-- What comes of one attempt after another. -/
theorem Attempt.value_bind {σ ε α β : Type} (x : Attempt σ ε α) (g : α → Attempt σ ε β) (now : Nat)
    (s : σ) :
    ((x >>= g).run now s).value =
      match (x.run now s).value with
      | .ok a => ((g a).run (now + (x.run now s).took) (x.run now s).state).value
      | .error e => .error e := by
  rw [ExceptT.run_bind]
  show (Timed.bind x.run _ now s).value = _
  rw [Timed.bind]
  cases (x.run now s).value <;> rfl

/-- Attempts that always find the same, and change nothing, come to that. -/
theorem found_tryFrom_of_constant [Clock] {σ α : Type} {o : WaitOptions}
    {x : Timed σ (Option α)} {start attempts spent : Nat} {s : σ} {found : Option α}
    (hx : ∀ now, (x now s).value = found ∧ (x now s).state = s) :
    (tryFrom o x start attempts spent s).value.found = found := by
  -- Along the loop: nothing is found at any attempt, or something at the first.
  induction attempts, spent, s using tryFrom.induct o x start with
  | case1 attempts spent s _ a hfound =>
    rw [tryFrom_of_some hfound, ← (hx (start + spent)).1]
    exact hfound.symm
  | case2 attempts spent s _ _ hnone hup =>
    rw [tryFrom_of_up hnone hup, ← (hx (start + spent)).1]
    exact hnone.symm
  | case3 attempts spent s _ _ hnone hleft ih =>
    rw [tryFrom_of_left hnone hleft]
    refine ih fun now => ?_
    rw [show (x (start + spent) s).state = s from (hx (start + spent)).2]
    exact hx now

/-- So does waiting for them. -/
theorem found_tryUntil_of_constant [Clock] {σ α : Type} {o : WaitOptions}
    {x : Timed σ (Option α)} {start : Nat} {s : σ} {found : Option α}
    (hx : ∀ now, (x now s).value = found ∧ (x now s).state = s) :
    (tryUntil o x start s).value.found = found := found_tryFrom_of_constant hx

namespace Desktop

/-- A wait on a desktop finds what is shown, or nothing however long it goes on. -/
theorem exists_value_waitForElement [Clock] (ctx : AppContext) (l : Locator) (o : WaitOptions)
    (now : Nat) (d : Desktop) :
    ∃ waited, ((waitForElement driver ctx l o).run now d).value =
      match l.seenIn (d.shown ctx) with
      | some e => .ok e
      | none => .error (.elementNotFound l.describe waited) := by
  have hfound : (tryUntil o (driver.sight ctx l) now d).value.found = l.seenIn (d.shown ctx) :=
    found_tryUntil_of_constant fun now => by
      rw [UiDriver.sight, Timed.map_apply, run_dump]
      exact ⟨rfl, rfl⟩
  refine ⟨(tryUntil o (driver.sight ctx l) now d).value.elapsed, ?_⟩
  rw [run_waitForElement, Timed.map_apply]
  cases hseen : l.seenIn (d.shown ctx) <;>
    simp only [Tried.toExcept, hfound, hseen]

/-- A context that was picked shows something. -/
theorem exists_shown {ctx : AppContext} {d : Desktop} (h : ctx ∈ d.liveContexts) :
    ∃ forest, d.shown ctx = .ok forest := by
  obtain ⟨c, hc, hctx⟩ := List.mem_map.mp h
  have hfirst : (d.contexts.find? fun c => c.context.id == ctx.id).isSome := by
    rw [List.find?_isSome]
    exact ⟨c, hc, by rw [hctx, beq_self_eq_true]⟩
  obtain ⟨first, hfirst⟩ := Option.isSome_iff_exists.mp hfirst
  refine ⟨first.tree, ?_⟩
  rw [shown, tree?, hfirst]
  rfl

end Desktop

namespace ObjectMap

/-- A table that does not resolve is no malformed map, and no name was asked for. -/
theorem checkFailed_of_ofEntries {table : NameTable Entry} {f : Fault} (hsorted : table.IsSorted)
    (h : ofEntries table = .error f) :
    CommandLine.Failure.ofMapFault f = .checkFailed f.message := by
  obtain ⟨n, -, hreported⟩ := ofEntries_reports hsorted h
  cases hreported with
  | unknownContainer => rfl
  | cycle => rfl
  | entry _ _ _ hf => cases hf <;> rfl

end ObjectMap

namespace CommandLine

/-! ## How it ends -/

/-- How looking for an element in files ends. -/
inductive Verdict where
  | noMap
  | unresolved
  | unknownName
  | noSnapshot
  | noContext
  | noElement
  | found (ctx : AppContext) (l : Locator) (e : Element)

namespace Verdict

/-- The exit code. -/
def exitCode : Verdict → Nat
  | noMap => 2
  | unresolved => 1
  | unknownName => 2
  | noSnapshot => 2
  | noContext => 3
  | noElement => 3
  | found _ _ _ => 0

/-- The lines that show an element: what it is, with its text or else its name, and below that its
text, that it is disabled, and how many children it has. -/
def shownLines (e : Element) : List String :=
  let kind := e.attributes.kind.getD "Element"
  let heading :=
    match e.attributes.text, e.attributes.name with
    | some text, _ => kind ++ " '" ++ text ++ "'"
    | none, some name => kind ++ " [" ++ name ++ "]"
    | none, none => kind
  let details : List (Option String) :=
    [e.attributes.text.map fun text => "  text: " ++ text,
     if e.attributes.enabled = false then some "  disabled" else none,
     if 0 < e.children.length then some ("  children: " ++ toString e.children.length) else none]
  heading :: details.filterMap id

/-- The record that shows an element: where it was found, the element with all that is below it, how
it was looked for, and its name in the map. -/
def shownRecord (name : String) (ctx : AppContext) (l : Locator) (e : Element) : Json.Value :=
  .record
    [("context", ctx.toJson.sorted), ("element", e.toJson.sorted),
     ("locator", .text l.describe), ("name", .text name)]

/-- What shows an element, in lines or as a record. -/
def shown (name : String) (ctx : AppContext) (l : Locator) (e : Element) : OutputFormat → String
  | .text => String.join ((shownLines e).map (· ++ "\n"))
  | .json => (shownRecord name ctx l e).pretty ++ "\n"

/-- The output: the element that was found, or nothing. -/
def output (name : String) (format : OutputFormat) : Verdict → String
  | found ctx l e => shown name ctx l e format
  | _ => ""

end Verdict

/-- What is shown of an element that was found is the output for it. -/
theorem output_showFound (name : String) (ctx : AppContext) (l : Locator) (e : Element)
    (format : OutputFormat) :
    (showFound name ctx l e format).output
      = (Verdict.found ctx l e).output name format := by
  cases format with
  | json =>
    have hsorted : (Json.Value.record
        [("name", .text name), ("context", ctx.toJson), ("locator", .text l.describe),
          ("element", e.toJson)]).sorted = Verdict.shownRecord name ctx l e := by
      simp +decide [Verdict.shownRecord, Json.Value.record, Json.Value.sorted,
        Json.Value.sortedMembers, Json.Value.text, List.mergeSort,
        List.MergeSort.Internal.splitInTwo]
    rw [showFound, Outcome.ofJson, hsorted]
    exact String.empty_append
  | text =>
    rw [showFound, Outcome.ofLines, Verdict.output, Verdict.shown, Verdict.shownLines,
      Element.describe]
    cases e.attributes.text <;> cases e.attributes.enabled <;> cases e.children <;> rfl

/-- A file holds an object map whose entries resolve. -/
def HoldsMap (file : Except ReadFault String) (map : ObjectMap) : Prop :=
  ∃ text table, file = .ok text ∧ ObjectMap.decodeEntries.run text = some table
    ∧ ObjectMap.ofEntries table = .ok map

/-- A file holds a snapshot. -/
def HoldsSnapshot (file : Except ReadFault String) (s : Snapshot) : Prop :=
  ∃ text, file = .ok text ∧ Snapshot.parse? text = some s

/-- What the driver answers when it is asked for the elements of a context that was loaded. -/
def dumped (s : Snapshot) (ctx : AppContext) : Except DriverError Forest :=
  ((Desktop.driver.dump ctx).run 0 (Desktop.ofSnapshot s)).value

/-- How looking for a name in the files of a map and of a snapshot ends. Each case supposes that
what the cases before it are about went well. -/
inductive Ends (mapFile snapshotFile : Except ReadFault String) (name context : String) :
    Verdict → Prop where
  | unreadableMap {f : ReadFault} (h : mapFile = .error f) :
    Ends mapFile snapshotFile name context .noMap
  | malformedMap {text : String} (hmap : mapFile = .ok text)
    (h : ObjectMap.decodeEntries.run text = none) :
    Ends mapFile snapshotFile name context .noMap
  | unresolved {text : String} {table : NameTable ObjectMap.Entry} (hmap : mapFile = .ok text)
    (htable : ObjectMap.decodeEntries.run text = some table)
    (h : ∀ map, ObjectMap.ofEntries table ≠ .ok map) :
    Ends mapFile snapshotFile name context .unresolved
  | unknownName {map : ObjectMap} (hmap : HoldsMap mapFile map)
    (h : map.entries.get? name = none) :
    Ends mapFile snapshotFile name context .unknownName
  | unreadableSnapshot {map : ObjectMap} {l : Locator} {f : ReadFault}
    (hmap : HoldsMap mapFile map) (hl : map.entries.get? name = some l)
    (h : snapshotFile = .error f) :
    Ends mapFile snapshotFile name context .noSnapshot
  | malformedSnapshot {map : ObjectMap} {l : Locator} {text : String}
    (hmap : HoldsMap mapFile map) (hl : map.entries.get? name = some l)
    (hsnapshot : snapshotFile = .ok text) (h : Snapshot.parse? text = none) :
    Ends mapFile snapshotFile name context .noSnapshot
  | noContext {map : ObjectMap} {l : Locator} {s : Snapshot}
    (hmap : HoldsMap mapFile map) (hl : map.entries.get? name = some l)
    (hsnapshot : HoldsSnapshot snapshotFile s) (h : ∀ c ∈ s, c.context.name ≠ context) :
    Ends mapFile snapshotFile name context .noContext
  | noElement {map : ObjectMap} {l : Locator} {s : Snapshot} {c : LiveContext} {forest : Forest}
    (hmap : HoldsMap mapFile map) (hl : map.entries.get? name = some l)
    (hsnapshot : HoldsSnapshot snapshotFile s)
    (hc : s.find? (fun c => c.context.name == context) = some c)
    (hforest : dumped s c.context = .ok forest) (h : l.find forest = []) :
    Ends mapFile snapshotFile name context .noElement
  | found {map : ObjectMap} {l : Locator} {s : Snapshot} {c : LiveContext} {forest : Forest}
    {p : Position} {e : Element}
    (hmap : HoldsMap mapFile map) (hl : map.entries.get? name = some l)
    (hsnapshot : HoldsSnapshot snapshotFile s)
    (hc : s.find? (fun c => c.context.name == context) = some c)
    (hforest : dumped s c.context = .ok forest) (hp : (l.find forest).head? = some p)
    (he : forest.at? p = some e) :
    Ends mapFile snapshotFile name context (.found c.context l e)

/-- Every look ends in some way. -/
theorem exists_ends (mapFile snapshotFile : Except ReadFault String) (name context : String) :
    ∃ v, Ends mapFile snapshotFile name context v := by
  -- The cases are split in the order in which the files and what is in them are looked at.
  cases hmap : mapFile with
  | error f => exact ⟨_, .unreadableMap rfl⟩
  | ok mapText =>
    cases htable : ObjectMap.decodeEntries.run mapText with
    | none => exact ⟨_, .malformedMap rfl htable⟩
    | some table =>
      cases hresolved : ObjectMap.ofEntries table with
      | error f => exact ⟨_, .unresolved rfl htable fun map h => by cases hresolved.symm.trans h⟩
      | ok map =>
        have hholds : HoldsMap (.ok mapText) map := ⟨mapText, table, rfl, htable, hresolved⟩
        cases hl : map.entries.get? name with
        | none => exact ⟨_, .unknownName hholds hl⟩
        | some l =>
          cases hsnapshot : snapshotFile with
          | error f => exact ⟨_, .unreadableSnapshot hholds hl rfl⟩
          | ok text =>
            cases hs : Snapshot.parse? text with
            | none => exact ⟨_, .malformedSnapshot hholds hl rfl hs⟩
            | some s =>
              have hshows : HoldsSnapshot (.ok text) s := ⟨text, rfl, hs⟩
              cases hc : s.find? fun c => c.context.name == context with
              | none =>
                refine ⟨_, .noContext hholds hl hshows fun c hc' => ?_⟩
                exact ne_of_beq_false (Bool.eq_false_iff.mpr (List.find?_eq_none.mp hc c hc'))
              | some c =>
                -- The driver may show the elements of another context with the same number, but
                -- it shows some.
                have hlive : c.context ∈ (Desktop.ofSnapshot s).liveContexts :=
                  List.mem_map_of_mem (List.mem_of_find?_eq_some hc)
                obtain ⟨forest, hforest⟩ := Desktop.exists_shown hlive
                have hdumped : dumped s c.context = .ok forest := by
                  rw [dumped, Desktop.run_dump, hforest]
                cases hp : (l.find forest).head? with
                | none =>
                  exact ⟨_, .noElement hholds hl hshows hc hdumped (List.head?_eq_none_iff.mp hp)⟩
                | some p =>
                  obtain ⟨e, he⟩ := Locator.exists_at?_of_locate? hp
                  exact ⟨_, .found hholds hl hshows hc hdumped hp he⟩

/-! ## What `find` does -/

section Find

variable {files : FileAccess Id} {env : Environment} {r : FindRequest} {format : OutputFormat}
  {p : Path} {map : ObjectMap} {l : Locator} {s : Snapshot} {f : Failure}

theorem loadMap_of_error {fault : ReadFault} (h : files.readText p = .error fault) :
    loadMap files p = .error (.invalidInput (readMessage fault)) := by
  simp only [loadMap, bind, pure, h]

/-- A text that is no map fails as the fault in it does. -/
theorem loadMap_of_fault {text : String} {fault : ObjectMap.Fault}
    (h : files.readText p = .ok text) (hparse : ObjectMap.parse text = .error fault) :
    loadMap files p = .error (.ofMapFault fault) := by
  simp only [loadMap, bind, pure, h, hparse]

/-- A file that holds a map is loaded. -/
theorem loadMap_of_holds (h : HoldsMap (files.readText p) map) : loadMap files p = .ok map := by
  obtain ⟨text, table, htext, htable, hmap⟩ := h
  have hparse : ObjectMap.parse text = .ok map := by
    rw [ObjectMap.parse, htable]
    exact hmap
  simp only [loadMap, bind, pure, htext, hparse]

/-- A snapshot that cannot be read as a text is invalid input. -/
theorem loadSnapshot_of_error {fault : ReadFault} (h : files.readText p = .error fault) :
    loadSnapshot files p
      = .error (.invalidInput (p.text ++ ": " ++ (DriverError.io fault).message)) := by
  simp only [loadSnapshot, bind, pure, h]

/-- A text that is no snapshot is invalid input. -/
theorem loadSnapshot_of_none {text : String} (h : files.readText p = .ok text)
    (hparse : Snapshot.parse? text = none) :
    loadSnapshot files p = .error
      (.invalidInput (p.text ++ ": " ++ (DriverError.json "not a snapshot").message)) := by
  simp only [loadSnapshot, bind, pure, h, hparse]

/-- A file that holds a snapshot is loaded. -/
theorem loadSnapshot_of_holds (h : HoldsSnapshot (files.readText p) s) :
    loadSnapshot files p = .ok s := by
  obtain ⟨text, htext, hs⟩ := h
  simp only [loadSnapshot, bind, pure, htext, hs]

/-- To pick a context, and to take a failure for an element that is not there. -/
theorem run_pick (d : Desktop) (context : String) :
    ((fixContext Desktop.driver context).adapt fun e => Failure.notFound e.message).run 0 d =
      ⟨match d.liveContexts.find? fun c => c.name == context with
        | some ctx => .ok ctx
        | none =>
          .error
            (.notFound (ContextError.unexpected context (d.liveContexts.map (·.name))).message),
        d, 0⟩ := by
  show (Except.mapError _ <$> (fixContext Desktop.driver context).run) 0 d = _
  rw [Timed.map_apply, Desktop.run_fixContext]
  cases d.liveContexts.find? fun c => c.name == context <;> rfl

theorem failure_showFound (name : String) (ctx : AppContext) (l : Locator) (e : Element)
    (format : OutputFormat) : (showFound name ctx l e format).failure = none := by
  cases format <;> rfl

variable [Clock]

theorem find_of_map_error (h : loadMap files r.map = .error f) :
    find files env r format = .failed f := by
  simp only [CommandLine.find, bind, pure, h]

/-- A name that the map lacks is reported before the snapshot is read. -/
theorem find_of_unknownName (h : loadMap files r.map = .ok map)
    (hl : map.entries.get? r.name = none) :
    find files env r format = .failed (.ofMapFault (.unknownName r.name)) := by
  have hget : map.get r.name = .error (.unknownName r.name) := by rw [ObjectMap.get, hl]
  simp only [CommandLine.find, bind, pure, h, hget]

theorem find_of_snapshot_error (h : loadMap files r.map = .ok map)
    (hl : map.entries.get? r.name = some l) (hs : loadSnapshot files r.snapshot = .error f) :
    find files env r format = .failed f := by
  have hget : map.get r.name = .ok l := by rw [ObjectMap.get, hl]
  simp only [CommandLine.find, bind, pure, h, hget, hs]

/-- With both files loaded, what is left is to look. -/
theorem find_of_loaded (h : loadMap files r.map = .ok map)
    (hl : map.entries.get? r.name = some l) (hs : loadSnapshot files r.snapshot = .ok s) :
    find files env r format = findIn s r l (loadTiming files env) format := by
  have hget : map.get r.name = .ok l := by rw [ObjectMap.get, hl]
  simp only [CommandLine.find, bind, pure, h, hget, hs]

/-- Waiting for an element in a context that is picked by its name. -/
theorem exists_value_awaitElement (d : Desktop) (context : String) (l : Locator)
    (o : WaitOptions) :
    ∃ waited, ((awaitElement Desktop.driver context l o).run 0 d).value =
      match d.liveContexts.find? fun c => c.name == context with
      | none =>
        .error (.notFound (ContextError.unexpected context (d.liveContexts.map (·.name))).message)
      | some ctx =>
        match l.seenIn (d.shown ctx) with
        | some e => .ok (ctx, e)
        | none => .error (.notFound (WaitError.elementNotFound l.describe waited).message) := by
  rw [awaitElement, Attempt.value_bind, run_pick]
  cases d.liveContexts.find? fun c => c.name == context with
  | none => exact ⟨0, rfl⟩
  | some ctx =>
    obtain ⟨waited, hvalue⟩ := Desktop.exists_value_waitForElement ctx l o 0 d
    refine ⟨waited, ?_⟩
    dsimp only
    rw [Attempt.value_bind, Attempt.value_adapt, hvalue]
    cases l.seenIn (d.shown ctx) <;> rfl

/-- Looking in a snapshot is waiting for the element. -/
def findAnswer (s : Snapshot) (r : FindRequest) (l : Locator) (timing : TimingSettings) :
    Except Failure (AppContext × Element) :=
  ((awaitElement Desktop.driver r.context l
    ⟨r.timeout.toNat * nanosPerMilli, timing.waitOptions.interval⟩).run 0
      (Desktop.ofSnapshot s)).value

theorem findIn_of_error {timing : TimingSettings} (h : findAnswer s r l timing = .error f) :
    (findIn s r l timing format).exitCode = f.exitCode
      ∧ (findIn s r l timing format).output = "" := by
  rw [findAnswer, Desktop.ofSnapshot] at h
  rw [findIn, h]
  exact ⟨rfl, rfl⟩

theorem findIn_of_ok {timing : TimingSettings} {ctx : AppContext} {e : Element}
    (h : findAnswer s r l timing = .ok (ctx, e)) :
    (findIn s r l timing format).exitCode = 0
      ∧ (findIn s r l timing format).output
        = (Verdict.found ctx l e).output r.name format := by
  rw [findAnswer, Desktop.ofSnapshot] at h
  rw [findIn, h, Outcome.exitCode, ← output_showFound]
  dsimp only
  rw [failure_showFound]
  exact ⟨rfl, rfl⟩

/-- A context that the snapshot lacks is not found, and nothing is waited for. -/
theorem findAnswer_of_noContext (l : Locator) (timing : TimingSettings)
    (h : ∀ c ∈ s, c.context.name ≠ r.context) :
    ∃ message, findAnswer s r l timing = .error (.notFound message) := by
  have hnone : (Desktop.ofSnapshot s).liveContexts.find? (fun c => c.name == r.context) = none := by
    rw [List.find?_eq_none, Desktop.liveContexts, List.forall_mem_map]
    exact fun c hc => by rw [beq_iff_eq]; exact h c hc
  obtain ⟨waited, hvalue⟩ := exists_value_awaitElement (Desktop.ofSnapshot s) r.context l
    ⟨r.timeout.toNat * nanosPerMilli, timing.waitOptions.interval⟩
  rw [findAnswer, hvalue, hnone]
  exact ⟨_, rfl⟩

/-- With a context, the answer is what the first look gives. -/
theorem findAnswer_of_context (l : Locator) (timing : TimingSettings) {c : LiveContext}
    (hc : s.find? (fun c => c.context.name == r.context) = some c) :
    ∃ waited, findAnswer s r l timing =
      match l.seenIn (dumped s c.context) with
      | some e => .ok (c.context, e)
      | none => .error (.notFound (WaitError.elementNotFound l.describe waited).message) := by
  have hfirst : (Desktop.ofSnapshot s).liveContexts.find? (fun c => c.name == r.context)
      = some c.context := by
    rw [Desktop.liveContexts, List.find?_map]
    exact congrArg (Option.map LiveContext.context) hc
  obtain ⟨waited, hvalue⟩ := exists_value_awaitElement (Desktop.ofSnapshot s) r.context l
    ⟨r.timeout.toNat * nanosPerMilli, timing.waitOptions.interval⟩
  refine ⟨waited, ?_⟩
  rw [findAnswer, hvalue, hfirst, dumped, Desktop.run_dump]

/-- Looking for an element ends as the files say, with that exit code and that output. -/
theorem Ends.exit {v : Verdict}
    (h : Ends (files.readText r.map) (files.readText r.snapshot) r.name r.context v) :
    (find files env r format).exitCode = v.exitCode
      ∧ (find files env r format).output = v.output r.name format := by
  cases h with
  | unreadableMap h =>
    rw [find_of_map_error (loadMap_of_error h)]
    exact ⟨rfl, rfl⟩
  | @malformedMap text hmap h =>
    have hparse : ObjectMap.parse text = .error .malformed := by rw [ObjectMap.parse, h]
    rw [find_of_map_error (loadMap_of_fault hmap hparse)]
    exact ⟨rfl, rfl⟩
  | @unresolved text table hmap htable h =>
    cases hf : ObjectMap.ofEntries table with
    | ok map => exact absurd hf (h map)
    | error fault =>
      have hparse : ObjectMap.parse text = .error fault := by
        rw [ObjectMap.parse, htable]
        exact hf
      -- Two faults of maps count as invalid input, but resolving reports neither of them.
      have hfailed := ObjectMap.checkFailed_of_ofEntries (ObjectMap.isSorted_of_run htable) hf
      rw [find_of_map_error (loadMap_of_fault hmap hparse), hfailed]
      exact ⟨rfl, rfl⟩
  | unknownName hmap h =>
    rw [find_of_unknownName (loadMap_of_holds hmap) h]
    exact ⟨rfl, rfl⟩
  | unreadableSnapshot hmap hl h =>
    rw [find_of_snapshot_error (loadMap_of_holds hmap) hl (loadSnapshot_of_error h)]
    exact ⟨rfl, rfl⟩
  | malformedSnapshot hmap hl hsnapshot h =>
    rw [find_of_snapshot_error (loadMap_of_holds hmap) hl (loadSnapshot_of_none hsnapshot h)]
    exact ⟨rfl, rfl⟩
  | noContext hmap hl hsnapshot h =>
    obtain ⟨message, hanswer⟩ := findAnswer_of_noContext _ (loadTiming files env) h
    rw [find_of_loaded (loadMap_of_holds hmap) hl (loadSnapshot_of_holds hsnapshot)]
    exact findIn_of_error hanswer
  | @noElement map l s c forest hmap hl hsnapshot hc hforest h =>
    obtain ⟨waited, hanswer⟩ := findAnswer_of_context l (loadTiming files env) hc
    rw [hforest, Locator.seenIn, Locator.findFirst?_eq_none_iff.mpr h] at hanswer
    rw [find_of_loaded (loadMap_of_holds hmap) hl (loadSnapshot_of_holds hsnapshot)]
    exact findIn_of_error hanswer
  | @found map l s c forest p e hmap hl hsnapshot hc hforest hp he =>
    obtain ⟨waited, hanswer⟩ := findAnswer_of_context l (loadTiming files env) hc
    rw [hforest, Locator.seenIn, Locator.findFirst?_eq_some_iff.mpr ⟨p, hp, he⟩] at hanswer
    rw [find_of_loaded (loadMap_of_holds hmap) hl (loadSnapshot_of_holds hsnapshot)]
    exact findIn_of_ok hanswer

end Find

/-- **How `find` ends, whatever the time to wait.** Whatever is in the files, it ends in one of the
ways of `Ends`, with the exit code and the output of that; a program that is called with the same
files, the same name and the same context, in the same format, but with another time to wait, in
another environment, with other timing settings or on another clock, has the same exit code and the
same output. -/
theorem find_exit [Clock] (files : FileAccess Id) (env : Environment) (arguments : List String)
    (r : FindRequest) (format : OutputFormat)
    (h : Invocation.ofArguments? env arguments = some (.run (.find r) format)) :
    let outcome := run files env arguments
    (∃ v, Ends (files.readText r.map) (files.readText r.snapshot) r.name r.context v)
      ∧ (∀ v, Ends (files.readText r.map) (files.readText r.snapshot) r.name r.context v →
        outcome.exitCode = v.exitCode ∧ outcome.output = v.output r.name format)
      ∧ ∀ (clock' : Clock) (files' : FileAccess Id) env' arguments' timeout,
        Invocation.ofArguments? env' arguments' = some (.run (.find { r with timeout }) format) →
        files'.readText r.map = files.readText r.map →
        files'.readText r.snapshot = files.readText r.snapshot →
        let outcome' := @run Id _ clock' files' env' arguments'
        outcome'.exitCode = outcome.exitCode ∧ outcome'.output = outcome.output := by
  intro outcome
  have hrun : outcome = find files env r format := by
    show run files env arguments = _
    rw [run, h]
    rfl
  have hexit {v} (hv : Ends (files.readText r.map) (files.readText r.snapshot) r.name r.context v) :
      outcome.exitCode = v.exitCode ∧ outcome.output = v.output r.name format := by
    rw [hrun]
    exact hv.exit
  refine ⟨exists_ends .., fun v => hexit, ?_⟩
  intro clock' files' env' arguments' timeout h' hmap hsnapshot outcome'
  -- How it ends is said by the two files alone, so both calls end in the same way.
  obtain ⟨v, hv⟩ := exists_ends (files.readText r.map) (files.readText r.snapshot) r.name r.context
  have hrun' : outcome' = @find Id _ clock' files' env' { r with timeout } format := by
    show run files' env' arguments' = _
    rw [run, h']
    rfl
  have hexit' : outcome'.exitCode = v.exitCode ∧ outcome'.output = v.output r.name format := by
    rw [← hmap, ← hsnapshot] at hv
    rw [hrun']
    exact @Ends.exit _ _ { r with timeout } _ clock' _ hv
  rw [hexit'.1, hexit'.2, (hexit hv).1, (hexit hv).2]
  exact ⟨rfl, rfl⟩

/-- A button that is there is found, and found alike with five seconds to wait and with other timing
settings. -/
theorem find_exit_button :
    letI : Clock := .punctual
    let bytes (text : String) : List UInt8 := text.toList.map fun c => .ofNat c.toNat
    let names := "\x7b\"ok\": \x7b\"type\": \"Button\", \"text\": \"OK\"\x7d\x7d"
    let snapshot := "\x7b\"contexts\": [\x7b\"id\": 1, \"name\": \"devenv\", \"tree\": ["
      ++ "\x7b\"type\": \"Button\", \"text\": \"OK\"\x7d]\x7d]\x7d"
    let config := "\x7b\"poll_interval_ms\": 100\x7d"
    let read (config : Except ReadFault (List UInt8)) (path : String) :
        Except ReadFault (List UInt8) :=
      if path = "names.json" then .ok (bytes names)
      else if path = "snapshot.json" then .ok (bytes snapshot)
      else config
    let files : FileAccess Id := ⟨read (.error .notFound), fun _ => none⟩
    let filesWithConfig : FileAccess Id := ⟨read (.ok (bytes config)), fun _ => none⟩
    let env : Environment := fun _ => none
    let arguments := ["find", "names.json", "snapshot.json", "ok"]
    let r : FindRequest := ⟨.ofText "names.json", .ofText "snapshot.json", "ok", "devenv", 0⟩
    Invocation.ofArguments? env arguments = some (.run (.find r) .text)
      ∧ (run files env arguments).exitCode = 0
      ∧ (run files env arguments).output = "Button 'OK'\n  text: OK\n"
      ∧ (run files env ("-f" :: "json" :: arguments)).output
        = "\x7b\n  \"context\": \x7b\n    \"id\": 1,\n    \"name\": \"devenv\"\n  \x7d,\n"
          ++ "  \"element\": \x7b\n    \"class_name\": null,\n    \"enabled\": true,\n"
          ++ "    \"id\": null,\n    \"name\": null,\n    \"text\": \"OK\",\n"
          ++ "    \"type\": \"Button\"\n  \x7d,\n"
          ++ "  \"locator\": \"\x7btype='Button' text='OK'\x7d\",\n  \"name\": \"ok\"\n\x7d\n"
      ∧ (run filesWithConfig env (arguments ++ ["--timeout", "5000"])).exitCode = 0
      ∧ (run filesWithConfig env (arguments ++ ["--timeout", "5000"])).output
        = (run files env arguments).output := by
  let _ : Clock := .punctual
  intro bytes names snapshot config read files filesWithConfig env arguments r
  have hinvoked : Invocation.ofArguments? env arguments = some (.run (.find r) .text) := by
    decide +kernel
  have hjson : Invocation.ofArguments? env ("-f" :: "json" :: arguments)
      = some (.run (.find r) .json) := by
    decide +kernel
  have hlonger : Invocation.ofArguments? env (arguments ++ ["--timeout", "5000"])
      = some (.run (.find { r with timeout := 5000 }) .text) := by
    decide +kernel
  obtain ⟨-, hends, hsame⟩ := find_exit files env arguments r .text hinvoked
  obtain ⟨-, hendsJson, -⟩ := find_exit files env ("-f" :: "json" :: arguments) r .json hjson
  let button : Element := .node { kind := some "Button", text := some "OK" } []
  let ok : Locator := ⟨⟨[.kind "Button", .text (.exact "OK")], none⟩, []⟩
  let entry : ObjectMap.Entry :=
    ⟨none, some "Button", some (.exact "OK"), none, none, none, none, none, none⟩
  have hresolved : ObjectMap.ofEntries [("ok", entry)] = .ok ⟨[("ok", ok)]⟩ := by
    rw [ObjectMap.ofEntries, ObjectMap.resolveAll, ObjectMap.resolve]
    rfl
  have hmap : HoldsMap (files.readText r.map) ⟨[("ok", ok)]⟩ :=
    ⟨names, [("ok", entry)], by decide +kernel, by decide +kernel, hresolved⟩
  have hsnapshot : HoldsSnapshot (files.readText r.snapshot) [⟨⟨1, "devenv", none⟩, [button]⟩] :=
    ⟨snapshot, by decide +kernel, by decide +kernel⟩
  have hfound : Ends (files.readText r.map) (files.readText r.snapshot) r.name r.context
      (.found ⟨1, "devenv", none⟩ ok button) :=
    .found (c := ⟨⟨1, "devenv", none⟩, [button]⟩) hmap rfl hsnapshot rfl rfl rfl rfl
  have hv := hends _ hfound
  have hctx : (AppContext.toJson ⟨1, "devenv", none⟩).sorted
      = .record [("id", .nat 1), ("name", .text "devenv")] := by
    simp [AppContext.toJson, AppContext.members, Json.Value.record, Json.Value.sorted,
      Json.Value.sortedMembers, Json.Value.text, Json.Value.nat, List.mergeSort,
      List.MergeSort.Internal.splitInTwo]
  have hbutton : button.toJson.sorted
      = .record [("class_name", .null), ("enabled", .bool true), ("id", .null), ("name", .null),
        ("text", .text "OK"), ("type", .text "Button")] := by
    simp +decide [button, Element.toJson, Element.attributeMembers, Json.Value.record,
      Json.Value.sorted, Json.Value.sortedMembers, Json.Value.text, Json.Value.optionalText,
      List.mergeSort, List.MergeSort.Internal.splitInTwo]
  have hshown := congrArg (· ++ "\n") (congrArg Json.Value.pretty
    (show Verdict.shownRecord "ok" ⟨1, "devenv", none⟩ ok button = _ by
      rw [Verdict.shownRecord, hctx, hbutton]))
  obtain ⟨hexit, houtput⟩ := hsame .punctual filesWithConfig env _ 5000 hlonger rfl rfl
  exact ⟨hinvoked, hv.1, hv.2.trans (by decide +kernel),
    (hendsJson _ hfound).2.trans (hshown.trans (by decide +kernel)), hexit.trans hv.1, houtput⟩

end CommandLine

end GuiTest
