import GuiTest.Application.Context
import GuiTest.Element.Json

/-!
# Snapshots

A snapshot is what a set of running processes shows: each context with its forest of elements. It is
written as a record with the single member `contexts`; the members of a context and its `tree` form
one object.
-/

namespace GuiTest

/-- A context with what it shows. -/
structure LiveContext where
  context : AppContext
  tree : Forest
  deriving DecidableEq, Repr

/-- Contexts with what they show. -/
abbrev Snapshot := List LiveContext

namespace LiveContext

open Json

/-- The JSON value of a context with its elements. -/
def toJson (c : LiveContext) : Value :=
  .record (c.context.members ++ [("tree", c.tree.toJson)])

/-- Whether the members that are not the elements can be looked at as a whole. -/
def membersArePlain (depth : Nat) (members : List (Option String × Value)) : Bool :=
  Value.membersArePlain depth (members.filter fun (name, _) => name != some "tree")

/-- Reads a context with its elements, which must be an object. All its members but the elements are
looked at as a whole, also the unknown ones. -/
def decode : Decode LiveContext
  | depth + 1, .object members => do
    let fields ← Fields.ofMembers (AppContext.memberNames ++ ["tree"]) false members
    if membersArePlain depth members then
      return {
        context := ← AppContext.ofFields fields depth
        tree := ← fields.optional "tree" (Decode.list Element.decode) [] depth
      }
    else none
  | _, _ => none

end LiveContext

namespace Snapshot

open Json

/-- The JSON value of a snapshot. -/
def toJson (s : Snapshot) : Value :=
  .record [("contexts", .array (s.map LiveContext.toJson))]

/-- Reads a snapshot. -/
def decode : Decode Snapshot := Decode.record ["contexts"] false fun fields depth =>
  fields.required "contexts" (Decode.list LiveContext.decode) depth

/-- Reads the text of a snapshot. -/
def parse? (json : String) : Option Snapshot := decode.run json

end Snapshot

end GuiTest
