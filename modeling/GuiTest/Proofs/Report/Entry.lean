import GuiTest.Proofs.Json.Decode
import GuiTest.Report.Basic

/-!
# Entries are read back from their lines

An entry is written as a record without blanks, which is one line whatever its message, its detail
and its sections hold. The detail and the sections are left out where there are none, and come back
as none (`ReportEntry.decode_toJson`). So the line is read as the entry that it was written for
(`ReportEntry.run_compact`), if its stamp is read as it was written.
-/

namespace GuiTest

open Json

/-- The name of a severity is read as that severity. -/
theorem Severity.decode_name (depth : Nat) (s : Severity) :
    Severity.decode depth (.text s.name) = some s := by
  have hname : ofName? s.name = some s := by cases s <;> decide
  cases depth <;> exact hname

/-- An identifier and a moment that are read as they are written. -/
structure Stamp.ReadsBack (s : Stamp) : Prop where
  id : Uuid.parse? s.id.toText = some s.id
  time : Timestamp.parse? s.time.toText = some s.time

instance (s : Stamp) : Decidable s.ReadsBack :=
  decidable_of_iff
    (Uuid.parse? s.id.toText = some s.id ∧ Timestamp.parse? s.time.toText = some s.time)
    ⟨fun h => ⟨h.1, h.2⟩, fun h => ⟨h.id, h.time⟩⟩

/-- A list of texts is read back, one level deep. -/
theorem Json.Decode.list_texts (depth : Nat) (l : List String) :
    Decode.list Decode.text (depth + 1) (.texts l) = some l := by
  have htext : ReadsBack Decode.text Value.text :=
    ⟨fun _ => trivial, fun depth s => (if_pos (Nat.zero_le depth)).symm⟩
  have hnesting : (Value.texts l).nesting ≤ depth + 1 := by
    rw [Value.texts, Value.nesting, Nat.succ_le_succ_iff, Value.nestingOfItems_le_iff,
      List.forall_mem_map]
    exact fun s _ => Nat.zero_le depth
  exact (htext.list.decode (depth + 1) l).trans (if_pos hnesting)

namespace ReportEntry

/-- The members of an entry. -/
def members (e : ReportEntry) : List (String × Value) :=
  [("id", .text e.stamp.id.toText), ("timestamp", .text e.stamp.time.toText),
    ("severity", .text e.severity.name), ("message", .text e.message)]
    ++ (match e.detail with | some d => [("detail", .text d)] | none => [])
    ++ (if e.sections = [] then [] else [("section", .texts e.sections)])

theorem toJson_eq (e : ReportEntry) : e.toJson = .record e.members := rfl

theorem names_members_sublist (e : ReportEntry) : (e.members.map (·.1)).Sublist memberNames := by
  obtain ⟨stamp, severity, message, detail, sections⟩ := e
  cases detail <;> by_cases h : sections = [] <;> simp [members, memberNames, h]

theorem natural_members (e : ReportEntry) : ∀ m ∈ e.members, m.2.Natural := by
  obtain ⟨stamp, severity, message, detail, sections⟩ := e
  have hsections : (Value.texts sections).Natural := by
    rw [Value.texts, Value.Natural, Value.allNatural_iff, List.forall_mem_map]
    exact fun _ _ => trivial
  have htext (s : String) : (Value.text s).Natural := trivial
  cases detail <;> by_cases h : sections = [] <;> simp [members, h, hsections, htext]

theorem natural_toJson (e : ReportEntry) : e.toJson.Natural :=
  Value.natural_record e.natural_members

/-- An entry is read from its record, if its stamp is read as it was written. -/
theorem decode_toJson (e : ReportEntry) (h : e.stamp.ReadsBack) (depth : Nat) :
    decode (depth + 2) e.toJson = some e := by
  rw [toJson_eq, decode, Decode.record, ofRecord_record (by decide) e.names_members_sublist]
  obtain ⟨⟨id, time⟩, severity, message, detail, sections⟩ := e
  have hid : Uuid.parse? id.toText = some id := h.id
  have htime : Timestamp.parse? time.toText = some time := h.time
  have hseverity : Severity.decode (depth + 1) (.string (some severity.name)) = some severity :=
    Severity.decode_name ..
  cases detail <;> by_cases hs : sections = [] <;>
    simp [members, hs, Fields.required, Fields.optional, List.lookup_cons, Decode.text, Value.text,
      Decode.optional, Decode.list_texts, hid, htime, hseverity]

/-- **The line of an entry is read as that entry**, if its stamp is read as it was written. -/
theorem run_compact (e : ReportEntry) (h : e.stamp.ReadsBack) :
    Decode.run decode e.toJson.compact = some e := by
  have hparse : Value.parse? e.toJson.compact = some e.toJson :=
    Value.parse?_write .compact e.natural_toJson
  rw [Decode.run, hparse]
  exact e.decode_toJson h 125

end ReportEntry

end GuiTest
