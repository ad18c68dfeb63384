import GuiTest.Proofs.Report.Log

/-!
# Sections nest

A section may enclose any computation on a report (`Body`): what it does next may depend on the
answers it got and on what it finds in the report. Of its steps in one run some open sections and
some close them. If they are balanced (`Balanced`), then the section leaves open what was open
before it, and every entry that was added names the sections on the way to it: those that were open
before, the section itself, and those that the body had open then (`inSection_nests`).

The sections that steps leave open are told without a stack (`leftOpen`): a section stays open if
the steps after the one that opened it do not close more than they open. `sections_after` says that
this is what the report does, for all steps; where they close more than they open, the report loses
sections that were open before.
-/

namespace GuiTest.Report

/-! ## Bodies -/

namespace Remark

/-- What a remark answers: whether it was a pass, if it depends on something. -/
def Answer : Remark → Type
  | verify _ _ => Bool
  | compare _ _ _ _ => Bool
  | poll _ _ _ => Bool
  | _ => Unit

/-- The operation, with what it answers. -/
def ask : (x : Remark) → Operation x.Answer
  | record severity message detail => Report.record severity message detail
  | pass message => Report.pass message
  | fail message detail => Report.fail message detail
  | warning message => Report.warning message
  | fatal message detail => Report.fatal message detail
  | note message => Report.note message
  | verify condition message => Report.verify condition message
  | compare shown actual expected message => Report.compare shown actual expected message
  | poll result onTimeout message => Report.poll result onTimeout message

theorem after_ask (x : Remark) (r : Report) : after x.ask r = after x.operation r := by
  cases x <;> rfl

end Remark

/-- A computation on a report, as a section may enclose it: what comes next may depend on all
answers so far, and on the report as it is when it is looked at. -/
inductive Body : Type → Type 1
  | done {α : Type} (result : α) : Body α
  | look {α : Type} (next : Report → Body α) : Body α
  | remark {α : Type} (x : Remark) (next : x.Answer → Body α) : Body α
  | beginSection {α : Type} (name : String) (next : Body α) : Body α
  | endSection {α : Type} (next : Body α) : Body α
  | inSection {α β : Type} (name : String) (body : Body β) (next : β → Body α) : Body α

namespace Body

/-- The operation that a body is. -/
def operation : {α : Type} → Body α → Operation α
  | _, done result => pure result
  | _, look next => do
    let r ← get
    (next r).operation
  | _, remark x next => do
    let answer ← x.ask
    (next answer).operation
  | _, beginSection name next => do
    Report.beginSection name
    next.operation
  | _, endSection next => do
    Report.endSection
    next.operation
  | _, inSection name body next => do
    let answer ← Report.inSection name body.operation
    (next answer).operation

/-- The steps that a body takes on a report. -/
def steps : {α : Type} → Body α → Report → List Step
  | _, done _, _ => []
  | _, look next, r => (next r).steps r
  | _, remark x next, r => .remark x :: (next (x.ask.run r).1).steps (after x.ask r)
  | _, beginSection name next, r =>
    .beginSection name :: next.steps (after (Report.beginSection name) r)
  | _, endSection next, r => .endSection :: next.steps (after Report.endSection r)
  | _, inSection name body next, r =>
    .inSection name (body.steps (after (Report.beginSection name) r))
      :: (next ((Report.inSection name body.operation).run r).1).steps
        (after (Report.inSection name body.operation) r)

/-- A body does what its steps do. -/
theorem after_operation (body : Body α) (r : Report) :
    after body.operation r = after (operations (body.steps r)) r := by
  induction body generalizing r with
  | done result => rfl
  | look next ih => exact ih r r
  | remark x next ih =>
    rw [steps, after_operations_cons, Step.operation, ← x.after_ask]
    exact ih _ _
  | beginSection name next ih =>
    rw [steps, after_operations_cons]
    exact ih _
  | endSection next ih =>
    rw [steps, after_operations_cons]
    exact ih _
  | inSection name body next ihbody ih =>
    have hinside : after (Report.inSection name body.operation) r
        = after (Report.inSection name
            (operations (body.steps (after (Report.beginSection name) r)))) r := by
      rw [after_inSection, ← ihbody]
      rfl
    rw [steps, after_operations_cons, Step.operation, ← hinside]
    exact ih _ _

end Body

/-! ## Sections that are opened and closed -/

variable {steps before : List Step} {r r' : Report}

/-- How many sections steps open, apart from those put around other steps. -/
def openings (steps : List Step) : Nat :=
  steps.countP fun | .beginSection _ => true | _ => false

/-- How many sections steps close, apart from those put around other steps. -/
def closings (steps : List Step) : Nat :=
  steps.countP fun | .endSection => true | _ => false

/-- No beginning of the steps closes more sections than it opens, all that are opened are closed in
the end, and the same holds of the steps within a section that is put around them. -/
inductive Balanced : List Step → Prop
  | intro {steps : List Step}
      (beginnings : ∀ begun, begun <+: steps → closings begun ≤ openings begun)
      (all : closings steps = openings steps)
      (bodies : ∀ name body, Step.inSection name body ∈ steps → Balanced body) : Balanced steps

/-- How many sections steps close beyond those that they open before. -/
def unmatched : List Step → Nat
  | [] => 0
  | .beginSection _ :: steps => unmatched steps - 1
  | .endSection :: steps => unmatched steps + 1
  | .remark _ :: steps => unmatched steps
  | .inSection _ _ :: steps => unmatched steps

/-- The sections that steps open and leave open, the outermost first: a section is left open if the
steps after it close no more than they open. -/
def leftOpen : List Step → List String
  | [] => []
  | .beginSection name :: steps =>
    if unmatched steps = 0 then name :: leftOpen steps else leftOpen steps
  | .endSection :: steps => leftOpen steps
  | .remark _ :: steps => leftOpen steps
  | .inSection _ _ :: steps => leftOpen steps

theorem openings_beginSection (name : String) (steps : List Step) :
    openings (.beginSection name :: steps) = openings steps + 1 :=
  List.countP_cons_of_pos rfl

theorem closings_endSection (steps : List Step) :
    closings (.endSection :: steps) = closings steps + 1 :=
  List.countP_cons_of_pos rfl

/-- The beginnings of steps are the empty one and the first step before those of the rest. -/
theorem forall_prefix_cons_iff {step : Step} {n : Nat} :
    (∀ begun, begun <+: step :: steps → closings begun ≤ openings begun + n)
      ↔ ∀ begun, begun <+: steps → closings (step :: begun) ≤ openings (step :: begun) + n := by
  constructor
  · intro h begun hbegun
    exact h (step :: begun) ((List.prefix_cons_inj step).mpr hbegun)
  · intro h begun hbegun
    rcases List.prefix_cons_iff.mp hbegun with rfl | ⟨begun, rfl, hrest⟩
    · exact Nat.zero_le _
    · exact h begun hrest

/-- So many sections are closed beyond those opened, for the beginning that has most of them. -/
theorem unmatched_le_iff {n : Nat} :
    unmatched steps ≤ n ↔ ∀ begun, begun <+: steps → closings begun ≤ openings begun + n := by
  induction steps generalizing n with
  | nil =>
    refine iff_of_true (Nat.zero_le n) fun begun hbegun => ?_
    rw [List.prefix_nil.mp hbegun]
    exact Nat.zero_le _
  | cons step steps ih =>
    rw [forall_prefix_cons_iff]
    cases step with
    | beginSection name =>
      have hcount (begun : List Step) :
          openings (.beginSection name :: begun) + n = openings begun + (n + 1) := by
        rw [openings_beginSection]
        omega
      simp only [hcount]
      rw [unmatched, Nat.sub_le_iff_le_add, ih]
      rfl
    | endSection =>
      cases n with
      | zero =>
        -- The section that is closed first was not opened here.
        refine iff_of_false (Nat.not_succ_le_zero _) fun h => ?_
        exact absurd (h [] List.nil_prefix) (by decide)
      | succ n =>
        rw [unmatched, Nat.succ_le_succ_iff, ih]
        refine forall₂_congr fun begun _ => ?_
        rw [closings_endSection, ← Nat.add_assoc, Nat.succ_le_succ_iff]
        rfl
    | remark x => exact ih
    | inSection name body => exact ih

/-- The sections left open are those that were opened and not closed again. -/
theorem length_leftOpen (steps : List Step) :
    (leftOpen steps).length + closings steps = openings steps + unmatched steps := by
  induction steps with
  | nil => rfl
  | cons step steps ih =>
    cases step with
    | beginSection name =>
      have hclosings : closings (.beginSection name :: steps) = closings steps := rfl
      rw [hclosings, openings_beginSection, unmatched, leftOpen]
      split
      next h =>
        rw [List.length_cons]
        omega
      next h => omega
    | endSection =>
      have hopenings : openings (.endSection :: steps) = openings steps := rfl
      rw [hopenings, closings_endSection, unmatched, leftOpen]
      omega
    | remark x => exact ih
    | inSection name body => exact ih

theorem Balanced.of_unmatched (hnone : unmatched steps = 0) (all : closings steps = openings steps)
    (bodies : ∀ name body, Step.inSection name body ∈ steps → Balanced body) : Balanced steps :=
  ⟨unmatched_le_iff.mp hnone.le, all, bodies⟩

theorem Balanced.unmatched_eq_zero (h : Balanced steps) : unmatched steps = 0 := by
  obtain ⟨beginnings, -, -⟩ := h
  exact Nat.le_zero.mp (unmatched_le_iff.mpr beginnings)

/-- Balanced steps leave nothing open. -/
theorem Balanced.leftOpen_eq_nil (h : Balanced steps) : leftOpen steps = [] := by
  have hnone := h.unmatched_eq_zero
  have hlength := length_leftOpen steps
  obtain ⟨-, all, -⟩ := h
  exact List.length_eq_zero_iff.mp (by omega)

/-! ## The sections of a report after steps -/

/-- The steps within each section that is put around some leave the sections of a report as they
were. -/
def BodiesNeutral (steps : List Step) : Prop :=
  ∀ name body, Step.inSection name body ∈ steps →
    ∀ r, (after (operations body) r).sections = r.sections

/-- A section put around steps that leave the sections alone leaves them alone. -/
theorem sections_inSection {name : String} {body : List Step}
    (h : ∀ r, (after (operations body) r).sections = r.sections) (r : Report) :
    (after (inSection name (operations body)) r).sections = r.sections := by
  have hopened : (after (beginSection name) r).sections = r.sections ++ [name] := rfl
  rw [after_inSection]
  show ((after (operations body) (after (beginSection name) r)).sections).dropLast = r.sections
  rw [h, hopened, List.dropLast_concat]

/-- **What is open after steps**: what was open before, less what they close beyond what they open,
and what they leave open. -/
theorem sections_after (h : BodiesNeutral steps) (r : Report) :
    (after (operations steps) r).sections
      = r.sections.take (r.sections.length - unmatched steps) ++ leftOpen steps := by
  induction steps generalizing r with
  | nil =>
    rw [unmatched, Nat.sub_zero, List.take_length, leftOpen, List.append_nil]
    rfl
  | cons step steps ih =>
    have hrest : BodiesNeutral steps := fun name body hbody =>
      h name body (List.mem_cons_of_mem _ hbody)
    rw [after_operations_cons, ih hrest]
    cases step with
    | beginSection name =>
      have hopened : (after (beginSection name) r).sections = r.sections ++ [name] := rfl
      rw [Step.operation, hopened, unmatched, leftOpen, List.length_append, List.length_singleton]
      -- If the steps after it close more than they open, they close this section first.
      split
      next hnone =>
        rw [hnone, Nat.sub_zero, Nat.sub_zero, List.take_length, ← List.length_singleton,
          ← List.length_append, List.take_length, List.append_assoc]
        rfl
      next hsome =>
        have hlength : r.sections.length + 1 - unmatched steps
            = r.sections.length - (unmatched steps - 1) := by omega
        rw [hlength, List.take_append_of_le_length (Nat.sub_le _ _)]
    | endSection =>
      have hclosed : (after endSection r).sections = r.sections.dropLast := rfl
      rw [Step.operation, hclosed, unmatched, leftOpen, List.dropLast_eq_take, List.take_take,
        List.length_take]
      congr 2
      omega
    | remark x =>
      rw [Step.operation, x.after_operation, unmatched, leftOpen]
      rfl
    | inSection name body =>
      rw [Step.operation, sections_inSection (h name body List.mem_cons_self), unmatched, leftOpen]

/-- Steps that close no more than they open keep what was open before. -/
theorem sections_after_of_matched (h : BodiesNeutral steps) (hmatched : unmatched steps = 0)
    (r : Report) : (after (operations steps) r).sections = r.sections ++ leftOpen steps := by
  rw [sections_after h, hmatched, Nat.sub_zero, List.take_length]

/-- Balanced steps leave open what was open before. -/
theorem Balanced.sections_after (h : Balanced steps) (r : Report) :
    (after (operations steps) r).sections = r.sections := by
  induction h generalizing r with
  | intro beginnings all bodies ih =>
    have hbalanced : Balanced _ := ⟨beginnings, all, bodies⟩
    rw [sections_after_of_matched ih hbalanced.unmatched_eq_zero, hbalanced.leftOpen_eq_nil,
      List.append_nil]

theorem Balanced.bodiesNeutral (h : Balanced steps) : BodiesNeutral steps := by
  obtain ⟨-, -, bodies⟩ := h
  exact fun name body hbody => (bodies name body hbody).sections_after

/-! ## The entries that steps add -/

mutual

/-- The remarks of a step, each with the sections that are open when it is made, where the sections
of a path are open when the step is taken. -/
def Step.told (path : List String) : Step → List (List String × Remark)
  | .remark x => [(path, x)]
  | .beginSection _ => []
  | .endSection => []
  | .inSection name body => toldAfter (path ++ [name]) [] body

/-- The remarks of the steps of a body that come after some of its steps, each with the sections
that are open when it is made: those on the path to the body and those that the steps before leave
open. -/
def toldAfter (path : List String) (before : List Step) :
    List Step → List (List String × Remark)
  | [] => []
  | step :: steps =>
    step.told (path ++ leftOpen before) ++ toldAfter path (before ++ [step]) steps

end

/-- The second report has the entries of the first, and one more for each remark, in order, with its
verdict and its sections. -/
def Adds (told : List (List String × Remark)) (r r' : Report) : Prop :=
  ∃ added, r'.entries = r.entries ++ added
    ∧ added.map (fun e => (e.sections, Verdict.ofEntry e))
      = told.map fun said => (said.1, said.2.verdict)

namespace Adds

variable {told told' : List (List String × Remark)} {r'' : Report}

theorem nil (h : r'.entries = r.entries) : Adds [] r r' :=
  ⟨[], h.trans (List.append_nil _).symm, rfl⟩

theorem remark (x : Remark) (r : Report) : Adds [(r.sections, x)] r (after x.operation r) := by
  rw [x.after_operation]
  exact ⟨[r.entryFor x.verdict], rfl, rfl⟩

/-- What one operation adds and what the next one adds come in that order. -/
theorem append (h : Adds told r r') (h' : Adds told' r' r'') : Adds (told ++ told') r r'' := by
  obtain ⟨added, hentries, hadded⟩ := h
  obtain ⟨added', hentries', hadded'⟩ := h'
  refine ⟨added ++ added', ?_, ?_⟩
  · rw [hentries', hentries, List.append_assoc]
  · rw [List.map_append, List.map_append, hadded, hadded']

end Adds

/-- The steps within each section that is put around some add the entries that they should. -/
def BodiesTell (steps : List Step) : Prop :=
  ∀ name body, Step.inSection name body ∈ steps →
    ∀ r, Adds (toldAfter r.sections [] body) r (after (operations body) r)

/-- A step adds an entry for each of its remarks, with the sections told for it. -/
theorem adds_step {step : Step} (h : BodiesTell [step]) (r : Report) :
    Adds (step.told r.sections) r (after step.operation r) := by
  cases step with
  | remark x => exact Adds.remark x r
  | beginSection name => exact Adds.nil rfl
  | endSection => exact Adds.nil rfl
  | inSection name body =>
    obtain ⟨added, hentries, hadded⟩ :=
      h name body List.mem_cons_self (after (beginSection name) r)
    -- Opening and closing the section adds no entry.
    exact ⟨added, hentries, hadded⟩

theorem after_operations_append (before steps : List Step) (r : Report) :
    after (operations (before ++ steps)) r
      = after (operations steps) (after (operations before) r) := by
  induction before generalizing r with
  | nil => rfl
  | cons step before ih => rw [List.cons_append, after_operations_cons, ih, after_operations_cons]

theorem unmatched_eq_zero_of_append (h : unmatched (before ++ steps) = 0) :
    unmatched before = 0 := by
  rw [← Nat.le_zero, unmatched_le_iff] at h ⊢
  exact fun begun hbegun => h begun (hbegun.trans (List.prefix_append before steps))

/-- **What steps add after others.** Where no more sections are closed than were opened, the steps
before leave open, besides what was open at first, just what `leftOpen` says. -/
theorem adds_after (hneutral : BodiesNeutral (before ++ steps)) (htell : BodiesTell steps)
    (hmatched : unmatched (before ++ steps) = 0) (r : Report) :
    Adds (toldAfter r.sections before steps) (after (operations before) r)
      (after (operations (before ++ steps)) r) := by
  induction steps generalizing before with
  | nil =>
    rw [List.append_nil]
    exact Adds.nil rfl
  | cons step steps ih =>
    have hsections : (after (operations before) r).sections = r.sections ++ leftOpen before :=
      sections_after_of_matched
        (fun name body hbody => hneutral name body (List.mem_append_left _ hbody))
        (unmatched_eq_zero_of_append hmatched) r
    -- The step is taken with what the steps before leave open, and then it is one of them.
    have hstep : Adds (step.told (r.sections ++ leftOpen before)) (after (operations before) r)
        (after (operations (before ++ [step])) r) := by
      rw [after_operations_append, after_operations_cons, ← hsections]
      exact adds_step (fun name body hbody =>
        htell name body (List.mem_singleton.mp hbody ▸ List.mem_cons_self)) _
    rw [List.append_cons] at hneutral hmatched ⊢
    have hrest : BodiesTell steps := fun name body hbody =>
      htell name body (List.mem_cons_of_mem _ hbody)
    rw [toldAfter]
    exact hstep.append (ih hneutral hrest hmatched)

/-- Balanced steps add an entry for each remark, with the sections that they should name. -/
theorem Balanced.adds (h : Balanced steps) (r : Report) :
    Adds (toldAfter r.sections [] steps) r (after (operations steps) r) := by
  induction h generalizing r with
  | intro beginnings all bodies ih =>
    have hbalanced : Balanced _ := ⟨beginnings, all, bodies⟩
    have hneutral : BodiesNeutral ([] ++ _) := hbalanced.bodiesNeutral
    exact adds_after hneutral ih hbalanced.unmatched_eq_zero r

mutual

theorem Step.told_remarks (path : List String) (step : Step) :
    (step.told path).map (·.2) = step.remarks := by
  cases step with
  | inSection name body => exact toldAfter_remarks (path ++ [name]) [] body
  | _ => rfl

/-- Nothing is told but the remarks, in order. -/
theorem toldAfter_remarks (path : List String) (before steps : List Step) :
    (toldAfter path before steps).map (·.2) = remarks steps := by
  cases steps with
  | nil => rfl
  | cons step steps =>
    rw [toldAfter, List.map_append, step.told_remarks, toldAfter_remarks, remarks]

end

/-! ## Counts -/

instance : Add Summary :=
  ⟨fun a b => ⟨a.passes + b.passes, a.fails + b.fails, a.warnings + b.warnings,
    a.fatals + b.fatals⟩⟩

/-- How many of the severities are verdicts of each kind. -/
def tally (severities : List Severity) : Summary :=
  ⟨severities.count .pass, severities.count .fail, severities.count .warning,
    severities.count .fatal⟩

theorem tally_append (xs ys : List Severity) : tally (xs ++ ys) = tally xs + tally ys := by
  simp only [tally, List.count_append]
  rfl

/-- A summary counts the entries by their severity. -/
theorem summary_eq_tally (r : Report) : r.summary = tally (r.entries.map (·.severity)) := by
  have hcount (severity : Severity) :
      r.count severity = (r.entries.map (·.severity)).count severity := by
    rw [Report.count, List.count, List.countP_map, List.countP_eq_length_filter]
    rfl
  simp only [summary, hcount, tally]

/-- The summary of what was added is added to the one before. -/
theorem Adds.summary {told : List (List String × Remark)} (h : Adds told r r') :
    r'.summary = r.summary + tally (told.map fun said => said.2.verdict.severity) := by
  obtain ⟨added, hentries, hadded⟩ := h
  have hseverities : added.map (·.severity) = told.map fun said => said.2.verdict.severity := by
    have hsame := congrArg (List.map fun said => said.2.severity) hadded
    rwa [List.map_map, List.map_map] at hsame
  rw [summary_eq_tally, summary_eq_tally, hentries, List.map_append, tally_append, hseverities]

/-- There are failures if the summary counts some. -/
theorem hasFailures_iff (r : Report) :
    r.hasFailures = true ↔ 0 < r.summary.fails ∨ 0 < r.summary.fatals := by
  have hfailure (severity : Severity) :
      severity.isFailure = true ↔ severity = .fail ∨ severity = .fatal := by
    cases severity <;> decide
  rw [summary_eq_tally, tally, List.count_pos_iff, List.count_pos_iff, hasFailures,
    List.any_eq_true]
  simp only [hfailure, List.mem_map, ← exists_or, ← and_or_left]

/-- **Sections nest.** A section around a body whose steps are balanced leaves open what was open
before, and answers what the body answers. The entries before stay; those that are added are one for
each remark of the body, in order, and each names the sections that were open before, the section
itself and those that the body had open then. The summary is the old one and what was added, and
there are failures if it counts some. -/
theorem inSection_nests {α : Type} (r : Report) (name : String) (body : Body α)
    (hbody : Balanced (body.steps (after (beginSection name) r))) :
    let opened := after (beginSection name) r
    let told := toldAfter (r.sections ++ [name]) [] (body.steps opened)
    let r' := after (inSection name body.operation) r
    r'.sections = r.sections
      ∧ ((inSection name body.operation).run r).1 = (body.operation.run opened).1
      ∧ (∃ added, r'.entries = r.entries ++ added
          ∧ added.map (fun e => (e.sections, Verdict.ofEntry e))
            = told.map fun said => (said.1, said.2.verdict))
      ∧ told.map (·.2) = remarks (body.steps opened)
      ∧ r'.summary = r.summary + tally (told.map fun said => said.2.verdict.severity)
      ∧ (r'.hasFailures = true ↔ 0 < r'.summary.fails ∨ 0 < r'.summary.fatals) := by
  intro opened told r'
  have hopened : opened.sections = r.sections ++ [name] := rfl
  have hclosed : r' = after endSection (after (operations (body.steps opened)) opened) := by
    rw [← body.after_operation]
    rfl
  have hsections : r'.sections = r.sections := by
    rw [hclosed]
    show (after (operations (body.steps opened)) opened).sections.dropLast = r.sections
    rw [hbody.sections_after, hopened, List.dropLast_concat]
  have hadds : Adds told r r' := by
    -- Opening and closing the section adds no entry.
    rw [hclosed]
    exact hbody.adds opened
  exact ⟨hsections, rfl, hadds, toldAfter_remarks _ _ _, hadds.summary, r'.hasFailures_iff⟩

/-- A body that opens and closes a section by hand, gives up in another one within it because a
check has failed, and answers what it then finds in the report. -/
theorem inSection_nests_giving_up :
    let stamp : Stamp := ⟨⟨7⟩, ⟨19723, 3661, 0⟩⟩
    let first : ReportEntry := ⟨stamp, .pass, "started", none, ["Build"]⟩
    let r : Report := ⟨"t", fun _ => stamp, [first], ["Build"], none⟩
    let giveUp (checked : Bool) : Body Unit :=
      if checked then .done () else .remark (.fatal "no window" none) fun _ => .done ()
    let body : Body Bool :=
      .beginSection "Open" (.remark (.verify false "shown") fun checked =>
        .inSection "Give up" (giveUp checked) fun _ =>
          .endSection (.remark (.note "over") fun _ => .look fun found => .done found.hasFailures))
    let r' := after (inSection "Wizard" body.operation) r
    r'.sections = ["Build"]
      ∧ ((inSection "Wizard" body.operation).run r).1 = true
      ∧ r'.entries.map (·.sections) = [["Build"], ["Build", "Wizard", "Open"],
        ["Build", "Wizard", "Open", "Give up"], ["Build", "Wizard"]]
      ∧ r'.summary = ⟨1, 1, 0, 1⟩
      ∧ r'.hasFailures = true := by
  intro stamp first r giveUp body r'
  have hbody : Balanced (body.steps (after (beginSection "Wizard") r)) := by
    refine Balanced.of_unmatched rfl rfl fun name steps hsteps => ?_
    -- The only body of a section put around steps is the remark that gives up.
    have hsteps : Step.inSection name steps ∈ [Step.beginSection "Open",
        .remark (.verify false "shown"), .inSection "Give up" [.remark (.fatal "no window" none)],
        .endSection, .remark (.note "over")] := hsteps
    obtain ⟨-, rfl⟩ : name = "Give up" ∧ steps = [.remark (.fatal "no window" none)] := by
      simpa using hsteps
    exact Balanced.of_unmatched rfl rfl (by simp)
  obtain ⟨hsections, hresult, ⟨added, hentries, hadded⟩, -, hsummary, hfailures⟩ :=
    inSection_nests r "Wizard" body hbody
  have hcounts : r'.summary = ⟨1, 1, 0, 1⟩ := hsummary
  have hpaths := congrArg (List.map Prod.fst) hadded
  rw [List.map_map] at hpaths
  refine ⟨hsections, hresult, ?_, hcounts, hfailures.mpr (.inl ?_)⟩
  · rw [hentries, List.map_append]
    exact congrArg ([["Build"]] ++ ·) hpaths
  · rw [hcounts]
    exact Nat.one_pos

end GuiTest.Report
