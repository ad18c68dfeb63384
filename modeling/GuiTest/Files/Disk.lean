import GuiTest.Files.Access
import GuiTest.Text.Blank

/-!
# Disks

A disk holds files and directories by place, and knows the directory in which one works. A place is
the list of names on the way from the root. A path is walked part by part, and every part but the
last must lead to a directory.

There are no links and no permissions, and nobody else changes a disk between two questions.
-/

namespace GuiTest

/-- The names on the way from the root. -/
abbrev Place := List String

/-- Files and directories, and where one works. The directories on the way to a place are there
without being told. -/
structure Disk where
  files : List (Place × List UInt8)
  directories : List Place
  workdir : Place

namespace Disk

/-- Whether the way to some place that is told goes by this one. -/
def isOnTheWay (d : Disk) (place : Place) : Bool :=
  (d.workdir :: d.directories).any place.isPrefixOf
    || d.files.any fun (p, _) => place.isPrefixOf p && p != place

/-- What stands at a place. -/
def kindAt? (d : Disk) (place : Place) : Option FileKind :=
  if (d.files.lookup place).isSome then some .file
  else if d.isOnTheWay place then some .directory
  else none

/-- Goes on by one part of a path. An empty part and `.` stay, `..` goes up, and goes nowhere from
the root. -/
def step (d : Disk) (place : Place) (part : String) : Except ReadFault Place :=
  match d.kindAt? place with
  | none => .error .notFound
  | some .file => .error .notADirectory
  | some .directory =>
    if part = "" ∨ part = "." then .ok place
    else if part = ".." then .ok place.dropLast
    else
      match d.kindAt? (place ++ [part]) with
      | some _ => .ok (place ++ [part])
      | none => .error .notFound

/-- Where a path leads. -/
def resolve (d : Disk) (path : String) : Except ReadFault Place :=
  if path = "" then .error .notFound
  else
    let parts := (Text.splitBy (· == '/') path.toList).map String.ofList
    parts.foldlM d.step (if Path.isAbsolute path then [] else d.workdir)

/-- The bytes of the file to which a path leads. -/
def readBytes (d : Disk) (path : String) : Except ReadFault (List UInt8) :=
  match d.resolve path with
  | .error f => .error f
  | .ok place =>
    match d.files.lookup place with
    | some bytes => .ok bytes
    | none => .error .isADirectory

/-- The place of the file that a path names, whether it is there or not. The last part of the path
is its name in the directory to which the others lead. -/
def placeToWrite? (d : Disk) (path : String) : Option Place := do
  let parts := (Text.splitBy (· == '/') path.toList).map String.ofList
  let start := if Path.isAbsolute path then [] else d.workdir
  let parent ← (parts.dropLast.foldlM d.step start).toOption
  let name ← parts.getLast?
  if name = "" ∨ name = "." ∨ name = ".." ∨ d.kindAt? parent ≠ some .directory
      ∨ d.kindAt? (parent ++ [name]) = some .directory then none
  else some (parent ++ [name])

/-- The disk once a file has been written, in place of the one that may be there. -/
def writeBytes? (d : Disk) (path : String) (bytes : List UInt8) : Option Disk :=
  (d.placeToWrite? path).map fun place =>
    { d with files := (place, bytes) :: d.files.filter (·.1 != place) }

/-- What a path leads to. -/
def kind? (d : Disk) (path : String) : Option FileKind :=
  match d.resolve path with
  | .ok place => d.kindAt? place
  | .error _ => none

/-- Access to the files of a disk. -/
def access (d : Disk) : FileAccess Id where
  readBytes path := d.readBytes path
  kindAt path := d.kind? path

end Disk

end GuiTest
