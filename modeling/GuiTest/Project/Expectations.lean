import GuiTest.Files.Access
import GuiTest.Json.Printer
import GuiTest.Project.Files

/-!
# What is expected of a new project

All that is checked when a project was created from a template, for one build system and perhaps one
version of the environment.
-/

namespace GuiTest

/-- Why nothing is expected. -/
inductive ProjectFault where
  | unknownTemplate (name : String)
  | unknownBuildSystem (name : String)
  | unsupported (template : ProjectTemplate) (buildSystem : BuildSystem)
  | unsupportedOnIde (buildSystem : BuildSystem) (ideVersion : UInt32)
  deriving DecidableEq, Repr

/-- What is wrong. -/
def ProjectFault.message : ProjectFault → String
  | unknownTemplate name => "unknown project template '" ++ name ++ "'"
  | unknownBuildSystem name => "unknown build system '" ++ name ++ "'"
  | unsupported t b => "'" ++ t.displayName ++ "' does not support " ++ b.displayName
  | unsupportedOnIde b version =>
    b.displayName ++ " projects are not exercised on IDE version " ++ toString version.toNat

/-- The template of a name. -/
def ProjectTemplate.parse (name : String) : Except ProjectFault ProjectTemplate :=
  match ofName? name with
  | some t => .ok t
  | none => .error (.unknownTemplate name)

/-- The build system of a name. -/
def BuildSystem.parse (name : String) : Except ProjectFault BuildSystem :=
  match ofName? name with
  | some b => .ok b
  | none => .error (.unknownBuildSystem name)

/-- What is expected of a new project. -/
structure ProjectExpectations where
  template : ProjectTemplate
  buildSystem : BuildSystem
  projectName : String
  creationPathLabel : Bool
  writtenFiles : List Path
  buildOutput : Option Path
  deriving DecidableEq, Repr

namespace ProjectExpectations

/-- Whether the wizard says on a version where the project will be. -/
def showsCreationPath (ideVersion : Option UInt32) : Bool :=
  ideVersion != some BuildSystem.oldVersion

/-- What is expected of a project. -/
def make (workdir : Path) (project : String) (t : ProjectTemplate) (b : BuildSystem) (x64 : Bool)
    (ideVersion : Option UInt32) : Except ProjectFault ProjectExpectations :=
  if !t.supports b then .error (.unsupported t b)
  else
    match ideVersion with
    | some version =>
      if b.supportedOn ideVersion then .ok (expected ideVersion)
      else .error (.unsupportedOnIde b version)
    | none => .ok (expected none)
where
  /-- The expectations, once it is clear that there are some. -/
  expected (ideVersion : Option UInt32) : ProjectExpectations :=
    { template := t
      buildSystem := b
      projectName := project
      creationPathLabel := showsCreationPath ideVersion
      writtenFiles := expectedFiles workdir project t b
      buildOutput := expectedOutput? workdir project t b x64 }

/-- The written files that are not there. -/
def missingFiles {m : Type → Type} [Monad m] (e : ProjectExpectations) (files : FileAccess m) :
    m (List Path) :=
  files.missing e.writtenFiles

open Json

/-- The JSON value of a path, if it is a text. -/
def pathJson? (p : Path) : Option Value := if p.readable then some (.text p.text) else none

/-- The members of the record of the expectations, if all paths are texts. -/
def members? (e : ProjectExpectations) : Option (List (String × Value)) := do
  let files ← e.writtenFiles.mapM pathJson?
  let output ← match e.buildOutput with
    | some p => pathJson? p
    | none => some .null
  return [("template", .text e.template.id), ("build_system", .text e.buildSystem.id),
    ("project_name", .text e.projectName), ("wizard_pages", .nat e.template.wizardPages),
    ("opened_file_pattern", .optionalText e.template.openedFilePattern?),
    ("creation_path_label", .bool e.creationPathLabel),
    ("written_files", .array files), ("build_output", output)]

/-- The JSON value of the expectations, if all paths are texts. -/
def toJson? (e : ProjectExpectations) : Option Value := e.members?.map .record

end ProjectExpectations

end GuiTest
