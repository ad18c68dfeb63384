import GuiTest.Element.Json
import GuiTest.Proofs.Json.Decode

/-!
# Elements are read as they were written

What is written of an element is a part of its members, in their order (`names_members_sublist`):
the cell and the children are left out where there are none, and what is left out is read as if it
had been there (`decodeAttributes_members`). So an element is read back, whatever its children
(`readsBack`), by induction on its tree. Conversely an element that was read is written no deeper
than could be read (`nesting_le_of_decode`), although it may have been given otherwise: with members
that are not known, without those that may be missing, or as an array.
-/

namespace GuiTest.Element

open Json

/-! ## The members of an element -/

/-- The members of an element, with the value of its children if there are any. -/
def members (a : Attributes) (children? : Option Value) : List (String × Value) :=
  attributeMembers a ++ (children?.map fun v => ("children", v)).toList

/-- Without children there is no such member. -/
theorem toJson_leaf (a : Attributes) : toJson (node a []) = .record (members a none) := by
  rw [toJson, members]
  exact congrArg Value.record (List.append_nil _).symm

/-- With children there is one more. -/
theorem toJson_node (a : Attributes) (c : Element) (cs : List Element) :
    toJson (node a (c :: cs)) = .record (members a (some (.array (toJsonAll (c :: cs))))) := by
  rw [toJson, toJsonAll]
  rfl

/-- Each child is written by itself. -/
theorem toJsonAll_eq_map (es : List Element) : toJsonAll es = es.map toJson := by
  induction es with
  | nil => rfl
  | cons e rest ih => rw [toJsonAll, ih, List.map_cons]

/-- The names are some of those that an element can have, in their order. -/
theorem names_members_sublist (a : Attributes) (children? : Option Value) :
    ((members a children?).map (·.1)).Sublist memberNames := by
  obtain ⟨kind, text, name, id, className, enabled, row, column⟩ := a
  cases row <;> cases column <;> cases children? <;> simp [members, attributeMembers, memberNames]

/-- Children are the member of that name. -/
theorem lookup_children (a : Attributes) (children? : Option Value) :
    (members a children?).lookup "children" = children? := by
  obtain ⟨kind, text, name, id, className, enabled, row, column⟩ := a
  cases row <;> cases column <;> cases children? <;> rfl

/-- The attributes are read back, also those that are left out. -/
theorem decodeAttributes_members (a : Attributes) (children? : Option Value) (depth : Nat) :
    decodeAttributes (members a children?) depth = some a := by
  obtain ⟨kind, text, name, id, className, enabled, row, column⟩ := a
  cases row <;> cases column <;> cases children? <;>
    simp [decodeAttributes, members, attributeMembers, Fields.optional, Decode.optional_text,
      Decode.optional_uint32, Decode.bool, List.lookup_cons]

theorem flat_attributeMembers (a : Attributes) : ∀ m ∈ attributeMembers a, m.2.Flat := by
  obtain ⟨kind, text, name, id, className, enabled, row, column⟩ := a
  cases row <;> cases column <;> simp [attributeMembers]

/-- An element nests as deeply as the list of its children, and once more. -/
theorem nesting_members_le_iff {a : Attributes} {children? : Option Value} {depth : Nat} :
    (Value.record (members a children?)).nesting ≤ depth + 1
      ↔ ∀ v ∈ children?, v.nesting ≤ depth := by
  have hflat : ∀ m ∈ attributeMembers a, m.2.nesting ≤ depth :=
    fun m hm => (flat_attributeMembers a m hm).nesting_le depth
  rw [Value.nesting_record_le_iff, members, List.forall_mem_append]
  cases children? with
  | none => simpa using fun name v hm => hflat (name, v) hm
  | some v => simpa using fun _ name v hm => hflat (name, v) hm

/-- So an element without children is one level. -/
theorem nesting_leaf_le (a : Attributes) (depth : Nat) :
    (node a []).toJson.nesting ≤ depth + 1 := by
  rw [toJson_leaf]
  exact nesting_members_le_iff.mpr (by simp)

/-- And one with children nests one level deeper than these. -/
theorem nesting_node_le_iff {a : Attributes} {c : Element} {cs : List Element} {depth : Nat} :
    (node a (c :: cs)).toJson.nesting ≤ depth + 1
      ↔ (Value.array (toJsonAll (c :: cs))).nesting ≤ depth := by
  rw [toJson_node, nesting_members_le_iff]
  simp only [Option.mem_some_iff, forall_eq']

/-- Every element is a level of its own. -/
theorem nesting_toJson_pos (e : Element) : 0 < e.toJson.nesting := by
  obtain ⟨a, cs⟩ := e
  cases cs with
  | nil => rw [toJson_leaf]; exact Value.nesting_record_pos _
  | cons c cs => rw [toJson_node]; exact Value.nesting_record_pos _

/-- Attributes are written with natural numbers only. -/
theorem natural_members {a : Attributes} {children? : Option Value}
    (h : ∀ v ∈ children?, v.Natural) : (Value.record (members a children?)).Natural := by
  refine Value.natural_record fun m hm => ?_
  rcases List.mem_append.mp hm with hm | hm
  · exact (flat_attributeMembers a m hm).2
  · cases children? with
    | none => cases hm
    | some v =>
      rw [List.mem_singleton.mp hm]
      exact h v rfl

/-! ## Reading back -/

mutual

/-- So are elements with all that is in them. -/
theorem natural_toJson : ∀ e : Element, e.toJson.Natural
  | node a [] => by
    rw [toJson_leaf]
    exact natural_members (by simp)
  | node a (c :: cs) => by
    rw [toJson_node]
    refine natural_members fun v hv => ?_
    cases hv
    exact allNatural_toJsonAll (c :: cs)

theorem allNatural_toJsonAll : ∀ es : List Element, Value.AllNatural (toJsonAll es)
  | [] => trivial
  | e :: rest => ⟨natural_toJson e, allNatural_toJsonAll rest⟩

end

/-- Attributes are read back, whatever the children are. -/
theorem decode_members (a : Attributes) (children? : Option Value) (depth : Nat) :
    decode (depth + 1) (.record (members a children?)) =
      match children? with
      | none => some (node a [])
      | some list => (decodeAll depth list).map (node a) := by
  rw [decode, ofRecord_record (by decide) (names_members_sublist a children?)]
  show (decodeAttributes (members a children?) depth).bind _ = _
  rw [decodeAttributes_members, Option.bind_some, lookup_children]
  cases children? with
  | none => rfl
  | some list =>
    show (decodeAll depth list).bind _ = (decodeAll depth list).map _
    rw [Option.map_eq_bind]
    rfl

/-- Children are read as lists are. -/
theorem decodeAll_eq_list (depth : Nat) (v : Value) :
    decodeAll depth v = Decode.list decode depth v := by
  cases depth with
  | zero => rfl
  | succ depth => cases v <;> rfl

mutual

/-- **An element is read back if it does not nest too deeply**, and else refused. -/
theorem decode_toJson : ∀ (e : Element) (depth : Nat),
    decode depth e.toJson = if e.toJson.nesting ≤ depth then some e else none
  | e, 0 => by
    have hpos := nesting_toJson_pos e
    rw [if_neg (by omega)]
    rfl
  | node a [], depth + 1 => by
    rw [if_pos (nesting_leaf_le a depth), toJson_leaf, decode_members]
  | node a (c :: cs), depth + 1 => by
    -- One level is entered for the element, and the next for the list of its children.
    have hchildren := list_array (mapM_toJsonAll (c :: cs)) depth
    rw [← decodeAll_eq_list] at hchildren
    by_cases h : (Value.array (toJsonAll (c :: cs))).nesting ≤ depth
    · rw [if_pos h] at hchildren
      rw [if_pos (nesting_node_le_iff.mpr h), toJson_node, decode_members]
      dsimp only
      rw [hchildren, Option.map_some]
    · rw [if_neg h] at hchildren
      rw [if_neg fun hle => h (nesting_node_le_iff.mp hle), toJson_node, decode_members]
      dsimp only
      rw [hchildren, Option.map_none]

/-- So are elements in a row. -/
theorem mapM_toJsonAll : ∀ (es : List Element) (depth : Nat),
    (toJsonAll es).mapM (decode depth)
      = if Value.nestingOfItems (toJsonAll es) ≤ depth then some es else none
  | [], _ => rfl
  | e :: rest, depth => mapM_cons_of_eq_ite (decode_toJson e depth) (mapM_toJsonAll rest depth)

end

/-- **An element is read back**, whatever its tree. -/
theorem readsBack : ReadsBack decode toJson :=
  ⟨natural_toJson, fun depth e => decode_toJson e depth⟩

/-! ## What was read was not too deep -/

mutual

/-- **An element that was read is written no deeper than could be read.** Children that were given
as an empty list are not written, all others were read as deep as they are written. -/
theorem nesting_le_of_decode : ∀ (depth : Nat) {v : Value} {e : Element},
    decode depth v = some e → e.toJson.nesting ≤ depth
  | 0, _, _, h => by cases h
  | depth + 1, v, e, h => by
    rw [decode] at h
    obtain ⟨fields, -, h⟩ := Option.bind_eq_some_iff.mp h
    obtain ⟨a, -, h⟩ := Option.bind_eq_some_iff.mp h
    cases hchildren : fields.lookup "children" with
    | none =>
      rw [hchildren] at h
      cases h
      exact nesting_leaf_le a depth
    | some list =>
      rw [hchildren] at h
      obtain ⟨cs, hcs, h⟩ := Option.bind_eq_some_iff.mp h
      have hdeep := nesting_le_of_decodeAll depth hcs
      cases h
      cases cs with
      | nil => exact nesting_leaf_le a depth
      | cons c cs => exact nesting_node_le_iff.mpr hdeep

/-- What was read did not nest too deeply. -/
theorem nesting_le_of_decodeAll : ∀ (depth : Nat) {v : Value} {es : List Element},
    decodeAll depth v = some es → (Value.array (toJsonAll es)).nesting ≤ depth
  | 0, _, _, h => by cases h
  | depth + 1, .array items, es, h => by
    rw [Value.nesting, Nat.succ_le_succ_iff, Value.nestingOfItems_le_iff, toJsonAll_eq_map,
      List.forall_mem_map]
    intro e he
    obtain ⟨v, hv⟩ := exists_of_mem_mapM (d := decode) h e he
    exact nesting_le_of_decode depth hv

end

end GuiTest.Element

namespace GuiTest.Forest

open Json

/-- A forest is read back. -/
theorem readsBack : ReadsBack (Decode.list Element.decode) toJson := by
  have hforest : toJson = fun forest => Value.array (forest.map Element.toJson) :=
    funext fun forest => congrArg Value.array (Element.toJsonAll_eq_map forest)
  rw [hforest]
  exact Element.readsBack.list

/-- The same for the elements of a context. -/
theorem nesting_le_of_decode {depth : Nat} {v : Value} {forest : Forest}
    (h : Decode.list Element.decode depth v = some forest) : forest.toJson.nesting ≤ depth := by
  rw [← Element.decodeAll_eq_list] at h
  exact Element.nesting_le_of_decodeAll depth h

end GuiTest.Forest
