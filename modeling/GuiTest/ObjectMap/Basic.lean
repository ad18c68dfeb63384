import GuiTest.ObjectMap.Entry

/-!
# Object maps

An object map gives names to locators. Entries name their containers within the same map; a map is
accepted only if all these references lead to an end and all entries make locators. Names are taken
in order, and each entry is resolved once, after the entries that it is contained in.

Notes on the form of the definitions:
- On the way from an entry to what it is contained in, the names that were not yet met are kept, and
  not those that were. They get fewer at each step, which is why resolving ends.
- A cycle is found where a name is met again, and each entry on the way back puts its own name in
  its place. So the name where the way began is reported, be it on the cycle or not.
-/

namespace GuiTest

/-- Locators by name. -/
structure ObjectMap where
  entries : NameTable Locator

namespace ObjectMap

/-- Why there is no object map, or no such locator in it. -/
inductive Fault where
  | malformed
  | unknownContainer (name container : String)
  | cycle (name : String)
  | incompleteCell (name : String)
  | badLocator (name : String) (reason : Locator.Fault)
  | unknownName (name : String)
  deriving DecidableEq, Repr

namespace Fault

/-- What is wrong, without the reason why a regular expression was refused. -/
def summary : Fault → String
  | malformed => "JSON parse error"
  | unknownContainer name container =>
    "'" ++ name ++ "' refers to unknown container '" ++ container ++ "'"
  | cycle name => "container chain of '" ++ name ++ "' is cyclic"
  | incompleteCell name => "'" ++ name ++ "' sets only one of row/column"
  | badLocator name reason => "invalid locator '" ++ name ++ "': " ++ reason.summary
  | unknownName name => "no locator named '" ++ name ++ "'"

/-- What is wrong. -/
def message : Fault → String
  | malformed => "JSON parse error: not an object map"
  | badLocator name reason => "invalid locator '" ++ name ++ "': " ++ reason.message
  | f => f.summary

end Fault

/-- Makes the locator of an entry, given the levels of its container. -/
def locatorOf (name : String) (e : Entry) (containers : List Level) : Except Fault Locator :=
  match e.settings? with
  | none => .error (.incompleteCell name)
  | some settings =>
    match (settings.foldl Locator.Draft.set { Locator.Draft.empty with containers }).build with
    | .ok l => .ok l
    | .error reason => .error (.badLocator name reason)

/-- Resolves an entry and before it the entries that it is contained in. `unvisited` holds the names
that were not yet met on the way here; a name that is met again closes a cycle, which is reported by
the name where the way began. `done` holds what is resolved already. -/
def resolve (table : NameTable Entry) (unvisited : List String) (done : NameTable Locator)
    (name : String) (e : Entry) : Except Fault (Locator × NameTable Locator) :=
  match done.get? name with
  | some l => .ok (l, done)
  | none =>
    if _h : name ∈ unvisited then
      match e.container with
      | none =>
        match locatorOf name e [] with
        | .ok l => .ok (l, done.insert name l)
        | .error f => .error f
      | some container =>
        match table.get? container with
        | none => .error (.unknownContainer name container)
        | some outer =>
          match resolve table (unvisited.erase name) done container outer with
          | .error (.cycle _) => .error (.cycle name)
          | .error f => .error f
          | .ok (parent, done) =>
            match locatorOf name e parent.levels with
            | .ok l => .ok (l, done.insert name l)
            | .error f => .error f
    else .error (.cycle name)
termination_by unvisited.length
decreasing_by
  have := List.length_erase_of_mem _h
  have := List.length_pos_of_mem _h
  omega

/-- Resolves all entries of a list that belongs to a table. -/
def resolveAll (table : NameTable Entry) (done : NameTable Locator) :
    List (String × Entry) → Except Fault (NameTable Locator)
  | [] => .ok done
  | (name, e) :: rest =>
    match resolve table table.names done name e with
    | .ok (_, done) => resolveAll table done rest
    | .error f => .error f

/-- The object map of a table of entries. -/
def ofEntries (table : NameTable Entry) : Except Fault ObjectMap :=
  (resolveAll table [] table).map ObjectMap.mk

/-- Reads an object map. -/
def parse (json : String) : Except Fault ObjectMap :=
  match decodeEntries.run json with
  | some table => ofEntries table
  | none => .error .malformed

/-- The object map without entries. -/
def empty : ObjectMap := ⟨[]⟩

/-- The locator with a name. -/
def get (m : ObjectMap) (name : String) : Except Fault Locator :=
  match m.entries.get? name with
  | some l => .ok l
  | none => .error (.unknownName name)

/-- Whether there is a locator with a name. -/
def contains (m : ObjectMap) (name : String) : Bool := (m.entries.get? name).isSome

/-- The number of locators. -/
def size (m : ObjectMap) : Nat := m.entries.length

/-- The names of the locators without container. -/
def roots (m : ObjectMap) : List String :=
  (m.entries.filter fun (_, l) => l.containers.isEmpty).map (·.1)

end ObjectMap

end GuiTest
