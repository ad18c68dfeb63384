import GuiTest.CommandLine.Execution

/-!
# The program

The outer layer of the command line: it gives access to the files and the environment of the
process, waits as long as the run says that it waited, and writes the outputs. The run itself is on
the clock of a simulation, so all waiting is done at its end.
-/

namespace GuiTest.Main

/-- The reason that belongs to an error number, which some calls give with a minus sign. -/
def faultOfCode (code : UInt32) (details : String) : ReadFault :=
  match (min code.toNat (UInt32.size - code.toNat)) with
  | 2 => .notFound
  | 13 => .system "Permission denied" 13
  | 20 => .notADirectory
  | 21 => .isADirectory
  | n => .system details n

/-- The reason for which the system refused. -/
def readFault : IO.Error → ReadFault
  | .noFileOrDirectory _ _ _ => .notFound
  | .inappropriateType _ code details => faultOfCode code details
  | .permissionDenied _ code details => faultOfCode code details
  | e => .system e.toString 5

/-- Reads a file of the system. -/
def readBytes (path : String) : IO (Except ReadFault (List UInt8)) := do
  try
    return .ok (← IO.FS.readBinFile path).toList
  catch e => return .error (readFault e)

/-- What stands at a path. Directories are told by what happens when one is read. -/
def kindAt (path : String) : IO (Option FileKind) := do
  try
    let _ ← IO.FS.withFile path .read fun h => h.read 1
    return some .file
  catch e =>
    match readFault e with
    | .system _ 21 => return some .directory
    | .system _ 13 => return some .file
    | _ => return none

/-- The environment of the process. -/
def environment : IO Environment := do
  return Environment.ofBlock (← IO.FS.readBinFile "/proc/self/environ").toList

end GuiTest.Main

open GuiTest in
def main (arguments : List String) : IO UInt32 := do
  let files : FileAccess IO := ⟨Main.readBytes, Main.kindAt⟩
  let outcome ← @CommandLine.run IO _ .punctual files (← Main.environment) arguments
  IO.sleep (UInt32.ofNat (outcome.waited / nanosPerMilli))
  IO.print outcome.output
  IO.eprint outcome.errorOutput
  return UInt32.ofNat outcome.exitCode
