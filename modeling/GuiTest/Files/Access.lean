import GuiTest.Files.Path

/-!
# Access to files

What the library may ask about files, in whatever monad the answers come. A path that is no text
leads nowhere.
-/

namespace GuiTest

/-- What may stand at a place. -/
inductive FileKind where
  | file
  | directory
  deriving DecidableEq, Repr

/-- Why a file cannot be read as a text: the system refused with a reason and its number, or the
bytes are no text. -/
inductive ReadFault where
  | system (reason : String) (code : Nat)
  | notText
  deriving DecidableEq, Repr

namespace ReadFault

/-- Nothing is there. -/
def notFound : ReadFault := system "No such file or directory" 2

/-- The way leads through a file. -/
def notADirectory : ReadFault := system "Not a directory" 20

/-- A directory is there. -/
def isADirectory : ReadFault := system "Is a directory" 21

/-- What went wrong. -/
def message : ReadFault → String
  | system reason code => reason ++ " (os error " ++ toString code ++ ")"
  | notText => "stream did not contain valid UTF-8"

end ReadFault

/-- What may be asked about files. -/
structure FileAccess (m : Type → Type) where
  readBytes : String → m (Except ReadFault (List UInt8))
  kindAt : String → m (Option FileKind)

namespace FileAccess

variable {m : Type → Type} [Monad m]

/-- The text in a file. -/
def readText (files : FileAccess m) (p : Path) : m (Except ReadFault String) := do
  if p.readable then
    match ← files.readBytes p.text with
    | .error f => return .error f
    | .ok bytes =>
      match Text.Utf8.decode? bytes with
      | some text => return .ok text
      | none => return .error .notText
  else return .error .notFound

/-- What stands at a path. -/
def kind? (files : FileAccess m) (p : Path) : m (Option FileKind) :=
  if p.readable then files.kindAt p.text else pure none

/-- Whether there is anything at a path. -/
def exists? (files : FileAccess m) (p : Path) : m Bool :=
  return (← files.kind? p).isSome

/-- Whether there is a directory at a path. -/
def isDirectory (files : FileAccess m) (p : Path) : m Bool :=
  return (← files.kind? p) == some .directory

/-- The paths of a list at which there is nothing. -/
def missing (files : FileAccess m) : List Path → m (List Path)
  | [] => return []
  | p :: rest => do
    let there ← files.exists? p
    let others ← files.missing rest
    return if there then others else p :: others

end FileAccess

end GuiTest
