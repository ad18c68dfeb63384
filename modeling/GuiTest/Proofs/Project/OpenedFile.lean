import GuiTest.Proofs.Project.Files
import GuiTest.Proofs.Regex.Anchored

/-!
# The file that is opened is one that is written

The names that a template's pattern matches are told by their parts (`opensFile_iff`). Under every
name that the wizard proposes, whatever number it ends with, one of the expected sources has such a
name (`exists_opened_file`).
-/

namespace GuiTest

open Regex

/-! ## Names of opened files -/

/-- What a dot takes, with the flags that are set at first. -/
def inLine : CharSet := fun c => !(c == '\n' || (({} : Flags).carriage && c == '\r'))

namespace ProjectTemplate

/-- The parts of the name of the file that is opened, if one is opened. -/
def openedParts? : ProjectTemplate → Option (List NamePart)
  | designerCustomWidget => some [.text "QtDesigner", .run inLine, .text ".cpp"]
  | consoleApplication => some [.text "main.cpp"]
  | activeQtServer => some [.text "ActiveQtServer", .run CharSet.digit, .text ".cpp"]
  | quickApplication => some [.text "main.qml"]
  | emptyApplication => none
  | classLibrary => some [.text "QtClassLibrary", .run CharSet.digit, .text ".cpp"]
  | widgetsApplication => some [.text "QtWidgets", .run inLine, .text ".cpp"]

/-- What is read from the pattern of a template is the pattern of the parts. -/
theorem read_openedFilePattern? (t : ProjectTemplate) :
    t.openedFilePattern?.map (fun source => Regex.read source.toList)
      = t.openedParts?.map fun parts => .ok (Pattern.anchored parts) := by
  cases t <;> rfl

/-- The file of a name is opened if and only if the parts spell the name. -/
theorem opensFile_iff (t : ProjectTemplate) (name : String) :
    t.opensFile name = true ↔ ∃ parts ∈ t.openedParts?, NamePart.Spells parts name.toList := by
  have hread := t.read_openedFilePattern?
  rw [opensFile]
  cases hpattern : t.openedFilePattern? with
  | none =>
    rw [hpattern, Option.map_none, eq_comm, Option.map_eq_none_iff] at hread
    simp [hread]
  | some source =>
    rw [hpattern, Option.map_some, eq_comm, Option.map_eq_some_iff] at hread
    obtain ⟨parts, hparts, hsource⟩ := hread
    simp only [← hsource, hparts, Option.mem_some_iff, exists_eq_left']
    exact Pattern.occursIn_anchored_iff parts name.toList

end ProjectTemplate

/-! ## Names that are proposed -/

theorem inLine_of_ne {c : Char} (h : c ≠ '\n') : inLine c = true := by
  simp [inLine, h]

theorem digit_of_isDigit {c : Char} (h : c.isDigit = true) : CharSet.digit c = true := by
  obtain ⟨hlow, hhigh⟩ := Char.isDigit_iff_toNat.mp h
  have hrange : (0x30, 0x30 + 9) ∈ Unicode.Category.decimalNumber.ranges :=
    List.mem_map_of_mem List.mem_cons_self
  have hcovers : Unicode.Category.decimalNumber.ranges.covers c = true :=
    Unicode.Ranges.covers_iff.mpr ⟨_, hrange, hlow, hhigh⟩
  exact List.any_eq_true.mpr ⟨_, List.mem_singleton_self _, hcovers⟩

namespace ProjectTemplate

/-- What the wizard proposes is the name of a part. -/
theorem isPart_proposed (t : ProjectTemplate) {number : String}
    (hnumber : ∀ c ∈ number.toList, c.isDigit = true) : IsPart (t.expectedName ++ number) := by
  have hname : '/' ∉ t.expectedName.toList ∧ 'Q' ∈ t.expectedName.toList := by
    cases t <;> decide
  have hdigits : '/' ∉ number.toList := fun hc => absurd (hnumber _ hc) (by decide)
  refine .of_mem (c := 'Q') ?_ ?_ (by decide)
  · rw [String.toList_append, List.mem_append, not_or]
    exact ⟨hname.1, hdigits⟩
  · rw [String.toList_append]
    exact List.mem_append_left _ hname.2

/-- The form of the source that is opened. -/
def openedForm : ProjectTemplate → NameForm
  | consoleApplication => mainSource
  | quickApplication => ⟨.nothing, "main.qml"⟩
  | _ => ownSource

/-- The form of an opened file is among those of the sources. -/
theorem openedForm_mem {t : ProjectTemplate} (h : t.openedFilePattern? ≠ none) (b : BuildSystem) :
    t.openedForm ∈ t.sourceForms b := by
  cases t with
  | emptyApplication => exact absurd rfl h
  | _ => cases b <;> decide

/-- The source has a name that is opened, under every name that is proposed. -/
theorem opensFile_openedForm {t : ProjectTemplate} (h : t.openedFilePattern? ≠ none)
    {number : String} (hnumber : ∀ c ∈ number.toList, c.isDigit = true) :
    t.opensFile (t.openedForm.name (t.expectedName ++ number)) = true := by
  have hdigits : ∀ c ∈ number.toList, CharSet.digit c = true :=
    fun c hc => digit_of_isDigit (hnumber c hc)
  have hline (kind : String) (hkind : '\n' ∉ kind.toList) :
      ∀ c ∈ (kind ++ number).toList, inLine c = true := by
    intro c hc
    rw [String.toList_append, List.mem_append] at hc
    refine inLine_of_ne fun hnewline => ?_
    rcases hc with hc | hc
    · exact hkind (hnewline ▸ hc)
    · exact absurd (hnumber c hc) (by rw [hnewline]; decide)
  rw [opensFile_iff]
  -- In two of the patterns a run takes more than the number: part of the name, too.
  cases t with
  | designerCustomWidget =>
    have hname : designerCustomWidget.expectedName = "QtDesigner" ++ "Widget" := by decide
    refine ⟨_, rfl, ?_⟩
    rw [hname, String.append_assoc]
    exact NamePart.spells_with_run (hline "Widget" (by decide))
  | consoleApplication => exact ⟨_, rfl, NamePart.spells_text _⟩
  | activeQtServer => exact ⟨_, rfl, NamePart.spells_with_run hdigits⟩
  | quickApplication => exact ⟨_, rfl, NamePart.spells_text _⟩
  | emptyApplication => exact absurd rfl h
  | classLibrary => exact ⟨_, rfl, NamePart.spells_with_run hdigits⟩
  | widgetsApplication =>
    have hname : widgetsApplication.expectedName = "QtWidgets" ++ "Application" := by decide
    refine ⟨_, rfl, ?_⟩
    rw [hname, String.append_assoc]
    exact NamePart.spells_with_run (hline "Application" (by decide))

end ProjectTemplate

/-- **The file that is opened is one that is written.** Under every name that the wizard proposes
for a template, which ends with some number, one of the expected files lies directly in the
directory of the sources under a name that the template's pattern matches. -/
theorem exists_opened_file (workdir : Path) (t : ProjectTemplate) (b : BuildSystem)
    (number : String) (hopens : t.openedFilePattern? ≠ none)
    (hnumber : ∀ c ∈ number.toList, c.isDigit = true) :
    let project := t.expectedName ++ number
    let projectDir := (workdir.join project).join project
    ∃ name, IsPart name ∧ projectDir.join name ∈ expectedFiles workdir project t b
      ∧ t.opensFile name = true := by
  intro project projectDir
  have hform : t.openedForm ∈ t.forms b :=
    List.mem_append_right _ (ProjectTemplate.openedForm_mem hopens b)
  have hname : t.openedForm.name project ∈ b.projectNames project ++ t.sourceNames project b := by
    rw [← map_forms]
    exact List.mem_map_of_mem hform
  have hproject : IsPart project := ProjectTemplate.isPart_proposed t hnumber
  refine ⟨_, isPart_projectNames hproject t b _ hname, ?_, t.opensFile_openedForm hopens hnumber⟩
  exact List.mem_append_right _ (List.mem_map_of_mem hname)

/-- The tenth designer widget, built with CMake. -/
theorem exists_opened_file_tenth :
    let project := ProjectTemplate.designerCustomWidget.expectedName ++ "10"
    let projectDir := ((Path.ofText "/work").join project).join project
    ProjectTemplate.designerCustomWidget.openedFilePattern? ≠ none
      ∧ (∀ c ∈ "10".toList, c.isDigit = true)
      ∧ ∃ name, IsPart name
        ∧ projectDir.join name
          ∈ expectedFiles (.ofText "/work") project .designerCustomWidget .cmake
        ∧ ProjectTemplate.designerCustomWidget.opensFile name = true := by
  intro project projectDir
  have hopens : ProjectTemplate.designerCustomWidget.openedFilePattern? ≠ none := by decide
  have hnumber : ∀ c ∈ "10".toList, c.isDigit = true := List.all_eq_true.mp (by decide)
  exact ⟨hopens, hnumber, exists_opened_file (.ofText "/work") .designerCustomWidget .cmake "10"
    hopens hnumber⟩

end GuiTest
