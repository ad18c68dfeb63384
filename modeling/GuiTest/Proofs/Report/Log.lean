import GuiTest.Proofs.Report.Entry
import GuiTest.Proofs.Text.Cutting

/-!
# The log is a copy of the report

Every operation that says something adds one entry to the report and the line of that entry to the
log (`Remark.after_operation`); the others touch neither. The line of an entry holds no line break,
so the log falls apart into the lines that were added (`Text.splitBy_lines`), and each of them is
read as its entry. This is an invariant (`Mirrored`) of every operation, of those within a section
too, and so of whatever is done with a report (`log_holds_entries`).
-/

namespace GuiTest

open Json

/-! ## Lines -/

/-- The lines of a text in which every line is ended by a line break. -/
def Text.endedLines? (text : String) : Option (List String) :=
  match (splitBy (· == '\n') text.toList).reverse with
  | [] :: lines => some (lines.reverse.map String.ofList)
  | _ => none

/-- Lines without line breaks fall apart at the line breaks that end them. -/
theorem Text.splitBy_lines {lines : List (List Char)} (h : ∀ line ∈ lines, '\n' ∉ line) :
    splitBy (· == '\n') (lines.flatMap (· ++ ['\n'])) = lines ++ [[]] := by
  induction lines with
  | nil => rfl
  | cons line lines ih =>
    have hrest := ih fun l hl => h l (List.mem_cons_of_mem _ hl)
    have hline := beq_eq_false_of_mem (h line List.mem_cons_self)
    rw [List.flatMap_cons, List.append_assoc, List.singleton_append,
      splitBy_append hline (beq_self_eq_true _), hrest, List.cons_append]

/-- Lines are found again in the text of all of them. -/
theorem Text.endedLines?_lines {text : String} {lines : List String}
    (h : ∀ line ∈ lines, '\n' ∉ line.toList)
    (htext : text.toList = lines.flatMap fun line => line.toList ++ ['\n']) :
    endedLines? text = some lines := by
  have hpieces : splitBy (· == '\n') text.toList = lines.map String.toList ++ [[]] := by
    rw [htext, ← Text.splitBy_lines (List.forall_mem_map.mpr h), List.flatMap_map]
  rw [endedLines?, hpieces, List.reverse_append]
  simp [Function.comp_def]

namespace Report

/-! ## What can be done with a report -/

/-- The report after an operation. -/
def after {α : Type} (x : Operation α) (r : Report) : Report := (x.run r).2

/-- An operation that says something. -/
inductive Remark : Type 1 where
  | record (severity : Severity) (message : String) (detail : Option String)
  | pass (message : String)
  | fail (message : String) (detail : Option String)
  | warning (message : String)
  | fatal (message : String) (detail : Option String)
  | note (message : String)
  | verify (condition : Bool) (message : String)
  | compare {α : Type} [BEq α] (shown : α → String) (actual expected : α) (message : String)
  | poll (result : PollResult) (onTimeout : Severity) (message : String)

/-- What is said: an entry without its stamp and the sections. -/
structure Verdict where
  severity : Severity
  message : String
  detail : Option String
  deriving DecidableEq, Repr

/-- What an entry says. -/
def Verdict.ofEntry (e : ReportEntry) : Verdict := ⟨e.severity, e.message, e.detail⟩

namespace Remark

/-- The operation; what it answers does not matter here. -/
def operation : Remark → Operation Unit
  | record severity message detail => Report.record severity message detail
  | pass message => Report.pass message
  | fail message detail => Report.fail message detail
  | warning message => Report.warning message
  | fatal message detail => Report.fatal message detail
  | note message => Report.note message
  | verify condition message => discard (Report.verify condition message)
  | compare shown actual expected message => discard (Report.compare shown actual expected message)
  | poll result onTimeout message => discard (Report.poll result onTimeout message)

/-- What it says. -/
def verdict : Remark → Verdict
  | record severity message detail => ⟨severity, message, detail⟩
  | pass message => ⟨.pass, message, none⟩
  | fail message detail => ⟨.fail, message, detail⟩
  | warning message => ⟨.warning, message, none⟩
  | fatal message detail => ⟨.fatal, message, detail⟩
  | note message => ⟨.log, message, none⟩
  | verify condition message => ⟨if condition then .pass else .fail, message, none⟩
  | compare shown actual expected message =>
    if actual == expected then ⟨.pass, message, none⟩
    else
      ⟨.fail, message,
        some ("'" ++ shown actual ++ "' and '" ++ shown expected ++ "' are not equal")⟩
  | poll (.satisfied _ _) _ message => ⟨.pass, message, none⟩
  | poll (.timedOut attempts elapsed) onTimeout message =>
    ⟨onTimeout, message, some ("timed out after " ++ toString (elapsed / nanosPerMilli) ++ "ms ("
      ++ toString attempts ++ " attempts)")⟩

end Remark

/-- Something that is done with a report: a remark, or a section opened, closed, or put around other
steps. The steps are those of one run, so it does not matter whether they were chosen beforehand. -/
inductive Step : Type 1 where
  | remark (x : Remark)
  | beginSection (name : String)
  | endSection
  | inSection (name : String) (body : List Step)

mutual

/-- The operation that a step is. -/
def Step.operation : Step → Operation Unit
  | .remark x => x.operation
  | .beginSection name => Report.beginSection name
  | .endSection => Report.endSection
  | .inSection name body => Report.inSection name (operations body)

/-- The steps, one after the other. -/
def operations : List Step → Operation Unit
  | [] => pure ()
  | step :: steps => do
    step.operation
    operations steps

end

mutual

/-- The remarks of a step, in order. -/
def Step.remarks : Step → List Remark
  | .remark x => [x]
  | .beginSection _ => []
  | .endSection => []
  | .inSection _ body => remarks body

/-- The remarks of steps, in order. -/
def remarks : List Step → List Remark
  | [] => []
  | step :: steps => step.remarks ++ remarks steps

end

mutual

/-- The reports after each operation of a step, of those within a section too, in order. -/
def Step.seen (r : Report) : Step → List Report
  | .remark x => [after x.operation r]
  | .beginSection name => [after (Report.beginSection name) r]
  | .endSection => [after Report.endSection r]
  | .inSection name body =>
    after (Report.beginSection name) r :: seen (after (Report.beginSection name) r) body
      ++ [after (Report.inSection name (operations body)) r]

/-- The reports after each operation of steps, in order. -/
def seen (r : Report) : List Step → List Report
  | [] => []
  | step :: steps => step.seen r ++ seen (after step.operation r) steps

end

/-! ## What an operation adds -/

/-- The entry for a verdict that is recorded now. -/
def entryFor (r : Report) (v : Verdict) : ReportEntry where
  stamp := r.supply r.entries.length
  severity := v.severity
  message := v.message
  detail := v.detail
  sections := r.sections

/-- The report with one entry more, and its line in the log. -/
def add (r : Report) (e : ReportEntry) : Report :=
  { r with entries := r.entries ++ [e], log := r.log.map (· ++ logLine e) }

/-- Every remark adds the entry of what it says, with the sections that are open. -/
theorem Remark.after_operation (x : Remark) (r : Report) :
    after x.operation r = r.add (r.entryFor x.verdict) := by
  cases x with
  | compare shown actual expected message =>
    by_cases h : (actual == expected) = true <;>
      simp only [operation, Report.compare, verdict, h] <;> rfl
  | poll result onTimeout message => cases result <;> rfl
  | _ => rfl

theorem after_operations_cons (step : Step) (steps : List Step) (r : Report) :
    after (operations (step :: steps)) r
      = after (operations steps) (after step.operation r) := by
  rw [operations]
  rfl

theorem after_inSection (name : String) (body : List Step) (r : Report) :
    after (inSection name (operations body)) r
      = after endSection (after (operations body) (after (beginSection name) r)) := rfl

/-! ## The log after each operation -/

/-- The log of a report is a copy of its entries, and that of every later entry can be. -/
structure Mirrored (r : Report) : Prop where
  log : r.log.map String.toList = some (r.entries.flatMap fun e => (logLine e).toList)
  stamps : ∀ e ∈ r.entries, e.stamp.ReadsBack
  supply : ∀ n, (r.supply n).ReadsBack

namespace Mirrored

/-- One entry more is one line more in the log. -/
theorem add {r : Report} (h : Mirrored r) {e : ReportEntry} (he : e.stamp.ReadsBack) :
    Mirrored (r.add e) where
  log := by
    obtain ⟨text, htext, hlog⟩ := Option.map_eq_some_iff.mp h.log
    simp [Report.add, htext, hlog]
  stamps := by
    intro a ha
    rcases List.mem_append.mp ha with ha | ha
    · exact h.stamps a ha
    · rw [List.mem_singleton.mp ha]
      exact he
  supply := h.supply

/-- Sections do not matter to the log. -/
theorem withSections {r : Report} (h : Mirrored r) (sections : List String) :
    Mirrored { r with sections := sections } :=
  ⟨h.log, h.stamps, h.supply⟩

/-- Every remark leaves the log a copy of the entries. -/
theorem remark {r : Report} (h : Mirrored r) (x : Remark) : Mirrored (after x.operation r) := by
  rw [x.after_operation]
  exact h.add (h.supply _)

mutual

theorem step {r : Report} (h : Mirrored r) (s : Step) : Mirrored (after s.operation r) := by
  cases s with
  | remark x => exact h.remark x
  | beginSection name => exact h.withSections _
  | endSection => exact h.withSections _
  | inSection name body =>
    have hopened : Mirrored (after (beginSection name) r) := h.withSections _
    -- Before and after its body a section changes nothing but which sections are open.
    rw [Step.operation, after_inSection]
    exact (hopened.steps body).withSections _

/-- So do all steps, one after the other. -/
theorem steps {r : Report} (h : Mirrored r) (ss : List Step) :
    Mirrored (after (operations ss) r) := by
  cases ss with
  | nil => exact h
  | cons s rest =>
    rw [after_operations_cons]
    exact (h.step s).steps rest

end

mutual

theorem seenInStep {r : Report} (h : Mirrored r) (s : Step) : ∀ q ∈ s.seen r, Mirrored q := by
  cases s with
  | remark x => exact List.forall_mem_singleton.mpr (h.remark x)
  | beginSection name => exact List.forall_mem_singleton.mpr (h.step (.beginSection name))
  | endSection => exact List.forall_mem_singleton.mpr (h.step .endSection)
  | inSection name body =>
    have hopened : Mirrored (after (beginSection name) r) := h.withSections _
    have hclosed := h.step (.inSection name body)
    rw [Step.seen, List.forall_mem_append, List.forall_mem_cons]
    exact ⟨⟨hopened, hopened.seen body⟩, List.forall_mem_singleton.mpr hclosed⟩

/-- The log is a copy after every operation on the way, not only in the end. -/
theorem seen {r : Report} (h : Mirrored r) (ss : List Step) :
    ∀ q ∈ Report.seen r ss, Mirrored q := by
  cases ss with
  | nil => exact fun q hq => absurd hq List.not_mem_nil
  | cons s rest =>
    rw [Report.seen, List.forall_mem_append]
    exact ⟨h.seenInStep s, (h.step s).seen rest⟩

end

end Mirrored

/-! ## What the log holds -/

/-- A report has a log that holds its entries: as many lines, each ended by a line break, and each
is read as the entry in its place. -/
def Logged (r : Report) : Prop :=
  ∃ text lines, r.log = some text ∧ Text.endedLines? text = some lines
    ∧ lines.length = r.entries.length
    ∧ lines.map (Decode.run ReportEntry.decode) = r.entries.map some

/-- A copy of the entries has a line for each of them that is read as that entry. -/
theorem Mirrored.logged {r : Report} (h : Mirrored r) : Logged r := by
  obtain ⟨text, htext, hlog⟩ := Option.map_eq_some_iff.mp h.log
  -- A line break in a message would end its line early; the printer lets none through.
  have hlines : Text.endedLines? text = some (r.entries.map fun e => e.toJson.compact) := by
    apply Text.endedLines?_lines
    · rw [List.forall_mem_map]
      exact fun e _ => Value.newline_not_mem_compact e.natural_toJson
    · rw [hlog, List.flatMap_map]
      simp only [logLine, String.toList_append]
      rfl
  refine ⟨text, _, htext, hlines, List.length_map _, ?_⟩
  rw [List.map_map]
  exact List.map_congr_left fun e he => e.run_compact (h.stamps e he)

/-- The report that is seen last is the one after the step. -/
theorem Step.getLast?_seen (s : Step) (r : Report) :
    (s.seen r).getLast? = some (after s.operation r) := by
  cases s with
  | inSection name body =>
    rw [Step.seen, List.getLast?_concat, Step.operation]
  | _ => rfl

/-- The report after the last operation is the one after all of them. -/
theorem getLast?_seen (steps : List Step) (r : Report) :
    (r :: seen r steps).getLast? = some (after (operations steps) r) := by
  induction steps generalizing r with
  | nil => rfl
  | cons s rest ih =>
    -- The last report of the first step is where the rest begins, and is last if nothing follows.
    rw [after_operations_cons, ← ih, seen, List.getLast?_cons, List.getLast?_append,
      s.getLast?_seen, List.getLast?_cons]
    cases (seen (after s.operation r) rest).getLast? <;> rfl

mutual

/-- A step adds what its remarks say, and keeps what was said. -/
theorem Step.verdicts_after (s : Step) (r : Report) :
    (after s.operation r).entries.map Verdict.ofEntry
      = r.entries.map Verdict.ofEntry ++ s.remarks.map Remark.verdict := by
  cases s with
  | remark x =>
    rw [Step.operation, x.after_operation, add, List.map_append]
    rfl
  | beginSection name => exact (List.append_nil _).symm
  | endSection => exact (List.append_nil _).symm
  | inSection name body =>
    rw [Step.operation, after_inSection]
    exact verdicts_after body (after (beginSection name) r)

/-- There is one entry for each remark, in order, and it says the same. -/
theorem verdicts_after (steps : List Step) (r : Report) :
    (after (operations steps) r).entries.map Verdict.ofEntry
      = r.entries.map Verdict.ofEntry ++ (remarks steps).map Remark.verdict := by
  cases steps with
  | nil => exact (List.append_nil _).symm
  | cons s rest =>
    rw [after_operations_cons, verdicts_after rest, s.verdicts_after, remarks, List.map_append,
      List.append_assoc]

end

/-- **The log is a copy of the report.** Whatever is done with a report that begins with an empty
log, after each operation the log has one line for each entry, each ended by a line break, and each
line is read as the entry in its place: with its stamp, severity, message, detail and sections. The
entries are those of what was said, in order. All that is asked is that stamps are read as they are
written. -/
theorem log_holds_entries (name : String) (supply : Nat → Stamp)
    (hstamps : ∀ n, (supply n).ReadsBack) (steps : List Step) :
    let start : Report := { name, supply, log := some "" }
    (∀ r ∈ start :: seen start steps, Logged r)
      ∧ (start :: seen start steps).getLast? = some (after (operations steps) start)
      ∧ (after (operations steps) start).entries.map Verdict.ofEntry
        = (remarks steps).map Remark.verdict := by
  intro start
  have hstart : Mirrored start := ⟨rfl, fun e he => absurd he List.not_mem_nil, hstamps⟩
  refine ⟨?_, getLast?_seen steps start, verdicts_after steps start⟩
  rw [List.forall_mem_cons]
  exact ⟨hstart.logged, fun r hr => (hstart.seen steps r hr).logged⟩

/-- Four remarks, two of them in nested sections, with line breaks, quotes and a control character
in their texts, stamped with two stamps in turn. -/
theorem log_holds_entries_nested :
    let early : Stamp := ⟨⟨7⟩, ⟨19723, 3661, 500000000⟩⟩
    let late : Stamp := ⟨⟨0xffffffffffffffffffffffffffffffff⟩, ⟨-1, 86399, 1000000001⟩⟩
    let supply (n : Nat) : Stamp := if n % 2 = 0 then early else late
    let steps : List Step :=
      [.beginSection "Build\nSystem",
        .inSection "a \"quoted\" one"
          [.remark (.fail "line\x01\nbreak" (some "de\ttail")),
            .remark (.compare toString 2 1 "rows")],
        .endSection, .remark (.verify true ""),
        .remark (.poll (.timedOut 3 20000000) .warning "\\")]
    let r := after (operations steps) { name := "t", supply, log := some "" }
    (∀ n, (supply n).ReadsBack) ∧ Logged r
      ∧ r.entries.map (·.sections) = [["Build\nSystem", "a \"quoted\" one"],
        ["Build\nSystem", "a \"quoted\" one"], [], []]
      ∧ r.entries.map Verdict.ofEntry = [⟨.fail, "line\x01\nbreak", some "de\ttail"⟩,
        ⟨.fail, "rows", some "'2' and '1' are not equal"⟩, ⟨.pass, "", none⟩,
        ⟨.warning, "\\", some "timed out after 20ms (3 attempts)"⟩] := by
  intro early late supply steps r
  have hearly : early.ReadsBack := by decide +kernel
  have hlate : late.ReadsBack := by decide +kernel
  have hstamps (n : Nat) : (supply n).ReadsBack := by
    by_cases hn : n % 2 = 0
    · have hsupply : supply n = early := if_pos hn
      rw [hsupply]
      exact hearly
    · have hsupply : supply n = late := if_neg hn
      rw [hsupply]
      exact hlate
  obtain ⟨hlogged, hlast, hverdicts⟩ := log_holds_entries "t" supply hstamps steps
  exact ⟨hstamps, hlogged r (List.mem_of_getLast? hlast), by decide +kernel, hverdicts⟩

end Report

end GuiTest
