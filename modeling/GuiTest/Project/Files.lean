import GuiTest.Files.Path
import GuiTest.Project.Template

/-!
# Files of a project

The files that creating a project writes. The directory of the solution bears the name of the
project; within it is a directory of the same name for the sources.
-/

namespace GuiTest

namespace ProjectTemplate

/-- A name with each of some endings. -/
def withEndings (name : String) (endings : List String) : List String :=
  endings.map (name ++ ·)

/-- The names of the sources that belong to a template. -/
def sourceNames (t : ProjectTemplate) (project : String) (b : BuildSystem) : List String :=
  match t with
  | designerCustomWidget =>
    withEndings project [".cpp", ".h", "Plugin.cpp", "Plugin.h"]
      ++ [Unicode.Casing.lower project ++ "plugin.json"]
  | consoleApplication => ["main.cpp"]
  | activeQtServer => withEndings project [".cpp", ".def", ".h", ".ico", ".rc", ".ui"]
  | quickApplication => (if b = .msBuild then ["qml.qrc"] else []) ++ ["main.cpp", "main.qml"]
  | emptyApplication => []
  | classLibrary =>
    withEndings project [".cpp", ".h"] ++ [Unicode.Casing.lower project ++ "_global.h"]
  | widgetsApplication =>
    (if b = .msBuild then [project ++ ".qrc"] else []) ++ ["main.cpp"]
      ++ withEndings project [".cpp", ".h", ".ui"]

end ProjectTemplate

namespace BuildSystem

/-- The names of a build system's files in the directory of the solution. -/
def solutionNames (b : BuildSystem) (project : String) : List String :=
  match b with
  | cmake => ["CMakeLists.txt", "CMakePresets.json", "CMakeUserPresets.json"]
  | msBuild => [project ++ ".sln"]

/-- The names of a build system's files in the directory of the sources. -/
def projectNames (b : BuildSystem) (project : String) : List String :=
  match b with
  | cmake => ["CMakeLists.txt", "qt.cmake"]
  | msBuild =>
    ProjectTemplate.withEndings project [".vcxproj", ".vcxproj.filters", ".vcxproj.user"]

end BuildSystem

/-- The files that creating a project writes. -/
def expectedFiles (workdir : Path) (project : String) (t : ProjectTemplate) (b : BuildSystem) :
    List Path :=
  let solutionDir := workdir.join project
  let projectDir := solutionDir.join project
  (b.solutionNames project).map solutionDir.join
    ++ (b.projectNames project ++ t.sourceNames project b).map projectDir.join

/-- What a build makes, if it is checked. -/
def expectedOutput? (workdir : Path) (project : String) (t : ProjectTemplate) (b : BuildSystem)
    (x64 : Bool) : Option Path :=
  let dir := workdir.join project
  let outputDir :=
    match b with
    | .cmake => dir.joinAll ["out", "build", project]
    | .msBuild => dir.joinAll ((if x64 then ["x64"] else []) ++ ["Debug"])
  t.artifact?.map fun
    | .executable => outputDir.join (project ++ ".exe")
    | .library => outputDir.join (project ++ ".dll")
    | .directory => outputDir

/-- The text by which the wizard says where a project will be. -/
def creationMessage (location : Path) (solution project : String) : String :=
  "Project will be created in \"" ++ ((location.join solution).join project).text ++ "/\""

end GuiTest
