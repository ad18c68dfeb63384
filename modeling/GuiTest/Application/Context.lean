import GuiTest.Json.Decode
import GuiTest.Json.Printer

/-!
# Application contexts

A context is one running process of the application under test. It is told apart by its number; the
name is that of the program.
-/

namespace GuiTest

/-- One running process. -/
structure AppContext where
  id : UInt64
  name : String
  pid : Option UInt32 := none
  deriving DecidableEq, Repr

namespace AppContext

open Json

/-- The name of the process that is the development environment. -/
def ideName : String := "devenv"

/-- The context as it is shown. -/
def describe (c : AppContext) : String :=
  c.name ++ "#" ++ toString c.id.toNat
    ++ (match c.pid with
        | some pid => " (pid " ++ toString pid.toNat ++ ")"
        | none => "")

/-- The member names of a context, in order. -/
def memberNames : List String := ["id", "name", "pid"]

/-- The members of a context as a record; the process number is left out if it is not known. -/
def members (c : AppContext) : List (String × Value) :=
  [("id", .nat c.id.toNat), ("name", .text c.name)]
    ++ (match c.pid with | some pid => [("pid", .nat pid.toNat)] | none => [])

/-- The JSON value of a context. -/
def toJson (c : AppContext) : Value := .record c.members

/-- Reads the members of a context. -/
def ofFields (fields : Fields) (depth : Nat) : Option AppContext := do
  return {
    id := ← fields.required "id" Decode.uint64 depth
    name := ← fields.required "name" Decode.text depth
    pid := ← fields.optional "pid" (Decode.optional Decode.uint32) none depth
  }

/-- Reads a context. -/
def decode : Decode AppContext := Decode.record memberNames false ofFields

end AppContext

end GuiTest
