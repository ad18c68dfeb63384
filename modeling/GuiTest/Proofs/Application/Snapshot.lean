import GuiTest.Proofs.Application.Ownership
import GuiTest.Proofs.Element.Json

/-!
# Snapshots and gestures are read as they were written

A context is written without its process number if that is not known, and within a snapshot its
members stand beside its elements, from which they are told apart again
(`AppContext.ofFields_membersWith`). All members but the elements are looked at as a whole there, as
those of a gesture are; none of them is too large for it (`LiveContext.membersArePlain_members`).
So contexts, snapshots and gestures read back (`readsBack`). What was read from any text is written
no deeper than could be read (`Snapshot.nesting_le_of_parse?`), hence it can be read again.
`texts_read_back` says this of the texts, and what it comes to for desktops.
-/

namespace GuiTest

open Json

/-! ## Contexts -/

namespace AppContext

/-- The members of a context, and of the elements it shows if they are among them. -/
def membersWith (c : AppContext) (tree? : Option Value) : List (String × Value) :=
  c.members ++ (tree?.map fun v => ("tree", v)).toList

theorem names_membersWith_sublist (c : AppContext) (tree? : Option Value) :
    ((c.membersWith tree?).map (·.1)).Sublist (memberNames ++ ["tree"]) := by
  obtain ⟨id, name, pid⟩ := c
  cases pid <;> cases tree? <;> simp [membersWith, members, memberNames]

/-- A context is told apart from the elements beside it. -/
theorem ofFields_membersWith (c : AppContext) (tree? : Option Value) (depth : Nat) :
    ofFields (c.membersWith tree?) depth = some c := by
  obtain ⟨id, name, pid⟩ := c
  cases pid <;> cases tree? <;>
    simp [ofFields, membersWith, members, Fields.required, Fields.optional, List.lookup_cons,
      Decode.uint64_nat, Decode.optional_uint32, Decode.text, Value.text]

theorem flat_members (c : AppContext) : ∀ m ∈ c.members, m.2.Flat := by
  obtain ⟨id, name, pid⟩ := c
  cases pid <;> simp [members]

theorem nesting_toJson (c : AppContext) : c.toJson.nesting = 1 := by
  have hpos : 0 < c.toJson.nesting := Value.nesting_record_pos c.members
  have hle : c.toJson.nesting ≤ 0 + 1 :=
    Value.nesting_record_le_iff.mpr fun m hm => (c.flat_members m hm).nesting_le 0
  omega

/-- A context is read back. -/
theorem readsBack : ReadsBack decode toJson := by
  refine ReadsBack.record (by decide) (fun c => ?_) (fun c m hm => (c.flat_members m hm).2)
    fun depth c => ?_
  · obtain ⟨id, name, pid⟩ := c
    cases pid <;> simp [members, memberNames]
  · rw [if_pos]
    · have h := c.ofFields_membersWith none depth
      simpa [membersWith] using h
    · have h := c.nesting_toJson
      rw [toJson] at h
      omega

end AppContext

namespace LiveContext

theorem toJson_eq (c : LiveContext) :
    c.toJson = .record (c.context.membersWith (some c.tree.toJson)) := rfl

/-- What a context is told by can be looked at as a whole: its numbers are finite. -/
theorem membersArePlain_members (c : LiveContext) (depth : Nat) :
    membersArePlain depth
      ((c.context.membersWith (some c.tree.toJson)).map fun (name, v) => (some name, v))
        = true := by
  obtain ⟨⟨id, name, pid⟩, tree⟩ := c
  have hid : (Value.nat id.toNat).isPlain depth = true := Value.isPlain_nat depth id.toNat_lt
  have hpid : ∀ n : UInt32, (Value.nat n.toNat).isPlain depth = true :=
    fun n => Value.isPlain_nat depth (Nat.lt_trans n.toNat_lt (by decide))
  have hname : (Value.text name).isPlain depth = true := rfl
  rw [membersArePlain, Value.membersArePlain_iff]
  cases pid <;> simp [AppContext.membersWith, AppContext.members, hid, hpid, hname]

/-- A context that shows elements is one level deeper than they are. -/
theorem nesting_toJson_le_iff {c : LiveContext} {depth : Nat} :
    c.toJson.nesting ≤ depth + 1 ↔ c.tree.toJson.nesting ≤ depth := by
  have hflat : ∀ m ∈ c.context.members, m.2.nesting ≤ depth :=
    fun m hm => (c.context.flat_members m hm).nesting_le depth
  rw [toJson, Value.nesting_record_le_iff, List.forall_mem_append, List.forall_mem_singleton]
  exact ⟨fun h => h.2, fun h => ⟨hflat, h⟩⟩

theorem lookup_tree (c : AppContext) (v : Value) :
    (c.membersWith (some v)).lookup "tree" = some v := by
  obtain ⟨id, name, pid⟩ := c
  cases pid <;> rfl

/-- A context that shows elements is read back if they are. -/
theorem decode_toJson (c : LiveContext) (depth : Nat) :
    decode (depth + 1) c.toJson
      = (Decode.list Element.decode depth c.tree.toJson).map fun tree => ⟨c.context, tree⟩ := by
  have hfields : Fields.ofMembers (AppContext.memberNames ++ ["tree"]) false
      ((c.context.membersWith (some c.tree.toJson)).map fun (name, v) => (some name, v))
        = some (c.context.membersWith (some c.tree.toJson)) :=
    ofRecord_record (by decide) (c.context.names_membersWith_sublist _)
  rw [toJson_eq, Value.record, decode, hfields]
  -- The members are taken apart; what is left to fail is the reading of the elements.
  show (if membersArePlain depth _ = true then _ else none) = _
  rw [if_pos (c.membersArePlain_members depth), AppContext.ofFields_membersWith]
  show (Fields.optional _ _ _ _ _).bind _ = _
  rw [Fields.optional, lookup_tree, Option.map_eq_bind]
  rfl

/-- A context is read back with its elements. -/
theorem readsBack : ReadsBack decode toJson where
  natural c := by
    refine Value.natural_record fun m hm => ?_
    rcases List.mem_append.mp hm with hm | hm
    · exact (c.context.flat_members m hm).2
    · rw [List.mem_singleton.mp hm]
      exact Forest.readsBack.natural c.tree
  decode depth c := by
    cases depth with
    | zero => rfl
    | succ depth =>
      have htree := Forest.readsBack.decode depth c.tree
      rw [decode_toJson, htree]
      by_cases h : c.tree.toJson.nesting ≤ depth
      · rw [if_pos h, if_pos (nesting_toJson_le_iff.mpr h)]
        rfl
      · rw [if_neg h, if_neg fun hle => h (nesting_toJson_le_iff.mp hle)]
        rfl

/-- What was read is written no deeper than could be read. Elements that were not given are written
as an empty list, which takes the second level. -/
theorem nesting_le_of_decode {depth : Nat} {v : Value} {c : LiveContext}
    (h : decode (depth + 2) v = some c) : c.toJson.nesting ≤ depth + 2 := by
  cases v with
  | object members =>
    obtain ⟨fields, -, h⟩ := Option.bind_eq_some_iff.mp h
    split at h
    · obtain ⟨ctx, -, h⟩ := Option.bind_eq_some_iff.mp h
      obtain ⟨tree, htree, h⟩ := Option.bind_eq_some_iff.mp h
      cases h
      rw [nesting_toJson_le_iff]
      rw [Fields.optional] at htree
      split at htree
      · exact Forest.nesting_le_of_decode htree
      · cases htree
        exact Nat.succ_le_succ (Nat.zero_le depth)
    · cases h
  | null | bool | number | string | array => cases h

end LiveContext

/-! ## Snapshots -/

namespace Snapshot

/-- A snapshot is a level deeper than its contexts. -/
theorem nesting_toJson_le_iff {s : Snapshot} {depth : Nat} :
    s.toJson.nesting ≤ depth + 2 ↔ ∀ c ∈ s, c.toJson.nesting ≤ depth := by
  rw [toJson, Value.nesting_record_le_iff, List.forall_mem_singleton, Value.nesting,
    Nat.succ_le_succ_iff, Value.nestingOfItems_le_iff, List.forall_mem_map]

/-- A snapshot is read back. -/
theorem readsBack : ReadsBack decode toJson := by
  refine ReadsBack.record (by decide) (fun s => List.Sublist.refl _) (fun s m hm => ?_)
    fun depth s => ?_
  · rw [List.mem_singleton.mp hm]
    exact LiveContext.readsBack.list.natural s
  · have hlist := LiveContext.readsBack.list.decode depth s
    have hnesting : (Value.record [("contexts", Value.array (s.map LiveContext.toJson))]).nesting
        ≤ depth + 1 ↔ (Value.array (s.map LiveContext.toJson)).nesting ≤ depth := by
      rw [Value.nesting_record_le_iff, List.forall_mem_singleton]
    simp only [hnesting]
    exact hlist

/-- What was read is written no deeper than could be read. -/
theorem nesting_le_of_decode {depth : Nat} {v : Value} {s : Snapshot}
    (h : decode (depth + 4) v = some s) : s.toJson.nesting ≤ depth + 4 := by
  obtain ⟨fields, -, h⟩ := Option.bind_eq_some_iff.mp h
  dsimp only at h
  unfold Fields.required at h
  cases hlookup : fields.lookup "contexts" with
  | none =>
    rw [hlookup] at h
    cases h
  | some list =>
    rw [hlookup] at h
    cases list with
    | array items =>
      rw [nesting_toJson_le_iff]
      intro c hc
      obtain ⟨w, hw⟩ := exists_of_mem_mapM h c hc
      exact LiveContext.nesting_le_of_decode hw
    | null | bool | number | string | object => cases h

/-- What was read is not too deep to be read again. -/
theorem nesting_le_of_parse? {text : String} {s : Snapshot} (h : parse? text = some s) :
    s.toJson.nesting ≤ maxNesting := by
  obtain ⟨v, -, h⟩ := Option.bind_eq_some_iff.mp h
  exact @nesting_le_of_decode 123 v s h

end Snapshot

/-! ## Gestures -/

namespace Gesture

theorem nesting_toJson (g : Gesture) : g.toJson.nesting = 1 := by
  obtain ⟨action, context, target⟩ := g
  cases action <;> rfl

/-- A gesture is read back. -/
theorem readsBack : ReadsBack decode toJson where
  natural g := by
    obtain ⟨action, context, target⟩ := g
    cases action <;> simp [toJson, Action.argument?, Value.record, Value.text, Value.Natural,
      Value.MembersNatural]
  decode depth g := by
    rw [nesting_toJson]
    obtain ⟨action, context, target⟩ := g
    cases depth with
    | zero => rfl
    | succ depth => cases action <;> rfl

end Gesture

/-! ## Desktops -/

namespace Desktop

/-- The text of what a desktop shows. -/
def textOf (layout : Value.Layout) (d : Desktop) : String :=
  (Snapshot.toJson d.contexts).write layout

/-- The desktop that a text shows, if it is the text of a snapshot. -/
def ofText? (text : String) : Option Desktop := (Snapshot.parse? text).map ofSnapshot

variable (layout : Value.Layout) (d : Desktop)

/-- The text of a desktop is read as one that shows the same, if it is not too deep. -/
theorem ofText?_textOf (h : (Snapshot.toJson d.contexts).nesting ≤ maxNesting) :
    ofText? (d.textOf layout) = some (ofSnapshot d.contexts) := by
  have hread := Snapshot.readsBack.texts.read layout d.contexts h
  rw [ofText?, textOf, Snapshot.parse?, hread, Option.map_some]

/-- The text of a desktop that is too deep is not read. -/
theorem ofText?_textOf_eq_none (h : maxNesting < (Snapshot.toJson d.contexts).nesting) :
    ofText? (d.textOf layout) = none := by
  have hrefused := Snapshot.readsBack.texts.refused layout d.contexts h
  rw [ofText?, textOf, Snapshot.parse?, hrefused, Option.map_none]

/-- A desktop that was loaded from any text is loaded again from its own. -/
theorem ofText?_again {text : String} {d : Desktop} (h : ofText? text = some d) :
    ofText? (d.textOf layout) = some d := by
  obtain ⟨s, hs, hd⟩ := Option.map_eq_some_iff.mp h
  rw [← hd]
  exact ofText?_textOf layout (ofSnapshot s) (Snapshot.nesting_le_of_parse? hs)

end Desktop

/-- **What is written is read back.** Elements, contexts, snapshots and gestures are read from their
texts as what they were written for, and refused only where they nest deeper than is read, which
contexts and gestures never do. So a desktop that is loaded from what another one shows lists the
same contexts and shows the same elements; and whatever text a desktop was loaded from, it is loaded
again from the text of what it shows. -/
theorem texts_read_back :
    TextsReadBack Element.decode Element.toJson
      ∧ TextsReadBack AppContext.decode AppContext.toJson
      ∧ TextsReadBack Snapshot.decode Snapshot.toJson
      ∧ TextsReadBack Gesture.decode Gesture.toJson
      ∧ (∀ c : AppContext, c.toJson.nesting = 1)
      ∧ (∀ g : Gesture, g.toJson.nesting = 1)
      ∧ (∀ layout (d : Desktop), (Snapshot.toJson d.contexts).nesting ≤ maxNesting →
        ∃ e, Desktop.ofText? (d.textOf layout) = some e
          ∧ (∀ now, (Desktop.driver.contexts.run now e).value
            = (Desktop.driver.contexts.run now d).value)
          ∧ ∀ ctx now, ((Desktop.driver.dump ctx).run now e).value
            = ((Desktop.driver.dump ctx).run now d).value)
      ∧ (∀ layout (d : Desktop), maxNesting < (Snapshot.toJson d.contexts).nesting →
        Desktop.ofText? (d.textOf layout) = none)
      ∧ ∀ layout text d, Desktop.ofText? text = some d →
        Desktop.ofText? (d.textOf layout) = some d := by
  refine ⟨Element.readsBack.texts, AppContext.readsBack.texts, Snapshot.readsBack.texts,
    Gesture.readsBack.texts, AppContext.nesting_toJson, Gesture.nesting_toJson, ?_,
    Desktop.ofText?_textOf_eq_none, fun layout text d => Desktop.ofText?_again layout⟩
  intro layout d h
  refine ⟨Desktop.ofSnapshot d.contexts, Desktop.ofText?_textOf layout d h, fun now => rfl, ?_⟩
  -- The elements are found in what the desktop shows; its gestures and reactions do not matter.
  intro ctx now
  rw [Desktop.run_dump, Desktop.run_dump]
  rfl

/-- A desktop with two contexts of one number, with a cell without a row and with texts that are not
written as they are, is loaded as it was. So is one that was given otherwise than it is written: an
element as an array, a member that is not known, the number last. An element in 64 others is
refused. -/
theorem texts_read_back_same_number :
    let e : Element :=
      .node { text := some "\x01\"", enabled := false, column := some 3 } [.ofKind "Edit"]
    let d : Desktop := { contexts := [⟨⟨7, "a\\b", some 12⟩, [e]⟩, ⟨⟨7, "\n", none⟩, []⟩] }
    let deep : Element := (fun e => Element.node {} [e])^[64] (.ofKind "Edit")
    let text := "\x7b\"contexts\": [\x7b\"tree\": [[\"Pane\"]], \"more\": 1.5,"
      ++ " \"name\": \"a\", \"id\": 1\x7d]\x7d"
    let loaded := Desktop.ofSnapshot [⟨⟨1, "a", none⟩, [.ofKind "Pane"]⟩]
    Decode.run Element.decode (e.toJson.write .pretty) = some e
      ∧ Decode.run Element.decode (deep.toJson.write .compact) = none
      ∧ (∃ e, Desktop.ofText? (d.textOf .pretty) = some e
        ∧ (Desktop.driver.contexts.run 0 e).value = .ok [⟨7, "a\\b", some 12⟩, ⟨7, "\n", none⟩])
      ∧ Desktop.ofText? text = some loaded
      ∧ Desktop.ofText? (loaded.textOf .compact) = some loaded := by
  intro e d deep text loaded
  obtain ⟨helement, -, -, -, -, -, hdesktop, -, hagain⟩ := texts_read_back
  have hparse : Snapshot.parse? text = some loaded.contexts := by decide +kernel
  have hloaded : Desktop.ofText? text = some loaded :=
    congrArg (Option.map Desktop.ofSnapshot) hparse
  have hshallow : e.toJson.nesting ≤ maxNesting := by decide +kernel
  have hdeep : maxNesting < deep.toJson.nesting := by decide +kernel
  have hnesting : (Snapshot.toJson d.contexts).nesting ≤ maxNesting := by decide +kernel
  obtain ⟨read, hread, hcontexts, -⟩ := hdesktop .pretty d hnesting
  exact ⟨helement.read .pretty e hshallow, helement.refused .compact deep hdeep,
    ⟨read, hread, hcontexts 0⟩, hloaded, hagain .compact text loaded hloaded⟩

end GuiTest
