import GuiTest.Regex.Syntax

/-!
# Project templates

The kinds of project that a wizard offers, what the wizard shows for each, and what creating one
leaves behind. A template is recognised by its name in any case and spacing, with or without the
leading `Qt`.
-/

namespace GuiTest

/-- How a project is built. -/
inductive BuildSystem where
  | msBuild
  | cmake
  deriving DecidableEq, Repr

/-- What a build makes. A project without sources only makes its output directory. -/
inductive Artifact where
  | executable
  | library
  | directory
  deriving DecidableEq, Repr

/-- The kinds of project. -/
inductive ProjectTemplate where
  | designerCustomWidget
  | consoleApplication
  | activeQtServer
  | quickApplication
  | emptyApplication
  | classLibrary
  | widgetsApplication
  deriving DecidableEq, Repr

namespace BuildSystem

/-- The build systems in the order of the wizard. -/
def all : List BuildSystem := [msBuild, cmake]

/-- The name in records. -/
def id : BuildSystem → String
  | msBuild => "MsBuild"
  | cmake => "CMake"

/-- The name that the wizard shows. -/
def displayName : BuildSystem → String
  | msBuild => "Qt Visual Studio Project (Qt/MSBuild)"
  | cmake => "CMake Project for Qt (cmake-qt, Qt/CMake helper functions)"

/-- Whether it is CMake. -/
def isCMake : BuildSystem → Bool
  | msBuild => false
  | cmake => true

/-- The first version of the environment that is tested in both build systems comes after this one.
-/
def oldVersion : UInt32 := 16

/-- Whether projects of the build system are tested on a version, or on all if it is not known. -/
def supportedOn (b : BuildSystem) (ideVersion : Option UInt32) : Bool :=
  !(b.isCMake && ideVersion == some oldVersion)

/-- The build system of a name: a short name in any case, or exactly what the wizard shows. -/
def ofName? (name : String) : Option BuildSystem :=
  let short := String.ofList (name.toList.map Char.toLower)
  if short = "msbuild" ∨ short = "qt/msbuild" then some msBuild
  else if short = "cmake" ∨ short = "qt/cmake" then some cmake
  else all.find? fun b => b.displayName == name

end BuildSystem

namespace Artifact

/-- The name in records. -/
def id : Artifact → String
  | executable => "executable"
  | library => "library"
  | directory => "directory"

end Artifact

namespace ProjectTemplate

/-- The templates in the order of the wizard. -/
def all : List ProjectTemplate :=
  [designerCustomWidget, consoleApplication, activeQtServer, quickApplication, emptyApplication,
   classLibrary, widgetsApplication]

/-- The name in records. -/
def id : ProjectTemplate → String
  | designerCustomWidget => "DesignerCustomWidget"
  | consoleApplication => "ConsoleApplication"
  | activeQtServer => "ActiveQtServer"
  | quickApplication => "QuickApplication"
  | emptyApplication => "EmptyApplication"
  | classLibrary => "ClassLibrary"
  | widgetsApplication => "WidgetsApplication"

/-- The name that the wizard shows. -/
def displayName : ProjectTemplate → String
  | designerCustomWidget => "Qt Designer Custom Widget"
  | consoleApplication => "Qt Console Application"
  | activeQtServer => "Qt ActiveQt Server"
  | quickApplication => "Qt Quick Application"
  | emptyApplication => "Qt Empty Application"
  | classLibrary => "Qt Class Library"
  | widgetsApplication => "Qt Widgets Application"

/-- The beginning of the project name that the wizard proposes. A number follows if the name is
taken. -/
def expectedName : ProjectTemplate → String
  | activeQtServer => "ActiveQtServer"
  | designerCustomWidget => "QtDesignerWidget"
  | emptyApplication => "QtApplication"
  | t => String.ofList (t.displayName.toList.filter (· != ' '))

/-- The title of the wizard. -/
def wizardTitle (t : ProjectTemplate) : String := t.displayName ++ " Wizard"

/-- The text at the beginning of each page of the wizard. -/
def wizardWelcome : ProjectTemplate → String
  | designerCustomWidget => "Welcome to the Qt Custom Designer Widget"
  | t => "Welcome to the " ++ t.displayName ++ " Wizard"

/-- The number of pages of the wizard. One is for the name of a class, where there is one. -/
def wizardPages : ProjectTemplate → Nat
  | activeQtServer => 3
  | classLibrary => 3
  | designerCustomWidget => 3
  | widgetsApplication => 3
  | _ => 2

/-- Whether there is a choice of build systems. -/
def buildSystemSelectable (t : ProjectTemplate) : Bool := t != activeQtServer

/-- Whether a project can be built by a build system. -/
def supports (t : ProjectTemplate) (b : BuildSystem) : Bool :=
  !(t == activeQtServer && b == .cmake)

/-- The regular expression for the name of the file that is opened when a project was created, if
one is opened. -/
def openedFilePattern? : ProjectTemplate → Option String
  | designerCustomWidget => some "^QtDesigner.*\\.cpp$"
  | consoleApplication => some "^main\\.cpp$"
  | activeQtServer => some "^ActiveQtServer\\d*\\.cpp$"
  | quickApplication => some "^main\\.qml$"
  | emptyApplication => none
  | classLibrary => some "^QtClassLibrary\\d*\\.cpp$"
  | widgetsApplication => some "^QtWidgets.*\\.cpp$"

/-- Whether a file of this name is opened when a project was created. -/
def opensFile (t : ProjectTemplate) (name : String) : Bool :=
  match t.openedFilePattern? with
  | none => false
  | some source =>
    match Regex.read source.toList with
    | .ok pattern => pattern.occursIn name.toList
    | .error _ => false

/-- What a build makes, if it is checked. -/
def artifact? : ProjectTemplate → Option Artifact
  | consoleApplication => some .executable
  | quickApplication => some .executable
  | widgetsApplication => some .executable
  | classLibrary => some .library
  | designerCustomWidget => some .library
  | emptyApplication => some .directory
  | activeQtServer => none

/-- The form in which names are compared: lower case, without white space and a leading `qt` unless
that is all there is. -/
def normalize (name : String) : String :=
  let compact :=
    Unicode.Casing.lower (String.ofList (name.toList.filter fun c => !Text.isBlank c))
  match Text.dropLeading? ['q', 't'] compact.toList with
  | some (c :: rest) => String.ofList (c :: rest)
  | _ => compact

/-- The template of a name. -/
def ofName? (name : String) : Option ProjectTemplate :=
  all.find? fun t => normalize t.displayName == normalize name

end ProjectTemplate

end GuiTest
