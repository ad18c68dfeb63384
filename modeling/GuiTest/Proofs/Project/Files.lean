import Mathlib.Data.Finset.Card
import GuiTest.Project.Expectations
import GuiTest.Proofs.Files.Path
import GuiTest.Proofs.Unicode.Casing

/-!
# The expected files are different ones

The name of an expected file is an ending, after nothing, after the name of the project, or after
that in lower case (`NameForm`). Two such forms give different names for every project if neither
ending is a suffix of the other, and in two more cases in which one is (`Apart`). The tables of the
templates are checked for this once; what is left is one pair of forms, `main.cpp` and the source
that bears the name of the project, which a project of that very name takes for one file
(`expectedFiles_different_iff`).
-/

namespace GuiTest

/-! ## Forms of names -/

/-- What the name of a file begins with: nothing, the name of the project, or that in lower case. -/
inductive Stem where
  | nothing
  | project
  | lower
  deriving DecidableEq

/-- The text of a stem, for a project. -/
def Stem.text (project : String) : Stem → String
  | nothing => ""
  | .project => project
  | lower => Unicode.Casing.lower project

/-- The form of a name: what it begins with, and how it ends. -/
structure NameForm where
  stem : Stem
  ending : String
  deriving DecidableEq

namespace NameForm

variable {f g : NameForm} {project : String}

/-- The name of this form, for a project. -/
def name (project : String) (f : NameForm) : String := f.stem.text project ++ f.ending

/-- The ending makes the name of a part of whatever stands before it. -/
def MakesPart (f : NameForm) : Prop :=
  '/' ∉ f.ending.toList ∧ (f.ending.toList.any (· != '.')) = true

instance (f : NameForm) : Decidable f.MakesPart :=
  inferInstanceAs (Decidable (_ ∧ _))

/-- No stem has a separator in it. -/
theorem separator_not_mem_text (hproject : IsPart project) (stem : Stem) :
    '/' ∉ (stem.text project).toList := by
  cases stem with
  | nothing => exact List.not_mem_nil
  | project => exact hproject.no_separator
  | lower => exact fun h =>
      hproject.no_separator (Unicode.Casing.mem_of_mem_lower (by decide) (by decide) h)

/-- A form whose ending makes a part gives such a name for every project. -/
theorem MakesPart.isPart_name (h : f.MakesPart) (hproject : IsPart project) :
    IsPart (f.name project) := by
  obtain ⟨hseparator, hother⟩ := h
  obtain ⟨c, hc, hdot⟩ := List.any_eq_true.mp hother
  have htext : (f.name project).toList = (f.stem.text project).toList ++ f.ending.toList :=
    String.toList_append
  refine .of_mem ?_ (htext ▸ List.mem_append_right _ hc) (bne_iff_ne.mp hdot)
  rw [htext, List.mem_append, not_or]
  exact ⟨separator_not_mem_text hproject f.stem, hseparator⟩

/-- The forms give different names for every project: neither ending is a suffix of the other, or
the endings are different ones after the same stem, or the longer one is after the lower case of the
project's name, which is not shorter than that. -/
def Apart (f g : NameForm) : Prop :=
  (¬f.ending.toList <:+ g.ending.toList ∧ ¬g.ending.toList <:+ f.ending.toList)
    ∨ (f.stem = g.stem ∧ f.ending ≠ g.ending)
    ∨ (f.stem = .project ∧ g.stem = .lower ∧ f.ending.toList.length < g.ending.toList.length)

instance (f g : NameForm) : Decidable (f.Apart g) :=
  inferInstanceAs (Decidable (_ ∨ _))

/-- Forms that are apart give different names, whatever the project. -/
theorem Apart.name_ne (h : f.Apart g) (project : String) : f.name project ≠ g.name project := by
  intro heq
  have hsame : (f.stem.text project).toList ++ f.ending.toList
      = (g.stem.text project).toList ++ g.ending.toList := by
    rw [← String.toList_append, ← String.toList_append]
    exact congrArg String.toList heq
  rcases h with ⟨hleft, hright⟩ | ⟨hstem, hending⟩ | ⟨hproject, hlower, hlonger⟩
  · -- Both endings are suffixes of the one name.
    have hof := List.suffix_append (f.stem.text project).toList f.ending.toList
    have hof' := List.suffix_append (g.stem.text project).toList g.ending.toList
    rw [← hsame] at hof'
    rcases List.suffix_or_suffix_of_suffix hof hof' with hsuffix | hsuffix
    · exact hleft hsuffix
    · exact hright hsuffix
  · rw [hstem] at hsame
    exact hending (String.toList_inj.mp (List.append_cancel_left hsame))
  · have hlengths := congrArg List.length hsame
    rw [hproject, hlower, List.length_append, List.length_append] at hlengths
    have hlonger' := Unicode.Casing.length_le_lower project
    simp only [Stem.text] at hlengths
    omega

end NameForm

/-! ## The forms of the expected files -/

/-- Forms with each of some endings after the name of the project. -/
def formsWithEndings (endings : List String) : List NameForm := endings.map (⟨.project, ·⟩)

/-- Forms of names that do not depend on the project. -/
def fixedForms (names : List String) : List NameForm := names.map (⟨.nothing, ·⟩)

namespace BuildSystem

/-- The forms of a build system's files in the directory of the solution. -/
def solutionForms : BuildSystem → List NameForm
  | cmake => fixedForms ["CMakeLists.txt", "CMakePresets.json", "CMakeUserPresets.json"]
  | msBuild => formsWithEndings [".sln"]

/-- The forms of a build system's files in the directory of the sources. -/
def projectForms : BuildSystem → List NameForm
  | cmake => fixedForms ["CMakeLists.txt", "qt.cmake"]
  | msBuild => formsWithEndings [".vcxproj", ".vcxproj.filters", ".vcxproj.user"]

end BuildSystem

namespace ProjectTemplate

/-- The forms of the sources that belong to a template. -/
def sourceForms (t : ProjectTemplate) (b : BuildSystem) : List NameForm :=
  match t with
  | designerCustomWidget =>
    formsWithEndings [".cpp", ".h", "Plugin.cpp", "Plugin.h"] ++ [⟨.lower, "plugin.json"⟩]
  | consoleApplication => fixedForms ["main.cpp"]
  | activeQtServer => formsWithEndings [".cpp", ".def", ".h", ".ico", ".rc", ".ui"]
  | quickApplication =>
    fixedForms ((if b = .msBuild then ["qml.qrc"] else []) ++ ["main.cpp", "main.qml"])
  | emptyApplication => []
  | classLibrary => formsWithEndings [".cpp", ".h"] ++ [⟨.lower, "_global.h"⟩]
  | widgetsApplication =>
    formsWithEndings (if b = .msBuild then [".qrc"] else []) ++ fixedForms ["main.cpp"]
      ++ formsWithEndings [".cpp", ".h", ".ui"]

/-- The forms of all expected files in the directory of the sources. -/
def forms (t : ProjectTemplate) (b : BuildSystem) : List NameForm :=
  b.projectForms ++ t.sourceForms b

end ProjectTemplate

section Forms

variable {project : String}

/-- The names that bear an ending each, in terms of their forms. -/
theorem map_formsWithEndings (endings : List String) :
    (formsWithEndings endings).map (NameForm.name project)
      = ProjectTemplate.withEndings project endings :=
  List.map_map

theorem map_fixedForms (names : List String) :
    (fixedForms names).map (NameForm.name project) = names := by
  rw [fixedForms, List.map_map]
  exact (List.map_congr_left fun name _ => String.empty_append).trans (List.map_id names)

/-- The names of the files of a solution, in terms of their forms. -/
theorem map_solutionForms (b : BuildSystem) :
    b.solutionForms.map (NameForm.name project) = b.solutionNames project := by
  cases b with
  | cmake => exact map_fixedForms _
  | msBuild => exact map_formsWithEndings _

/-- The names of the files of a project, in terms of their forms. -/
theorem map_projectForms (b : BuildSystem) :
    b.projectForms.map (NameForm.name project) = b.projectNames project := by
  cases b with
  | cmake => exact map_fixedForms _
  | msBuild => exact map_formsWithEndings _

/-- The names of the sources, in terms of their forms. -/
theorem map_sourceForms (t : ProjectTemplate) (b : BuildSystem) :
    (t.sourceForms b).map (NameForm.name project) = t.sourceNames project b := by
  cases t with
  | consoleApplication => exact map_fixedForms _
  | activeQtServer => exact map_formsWithEndings _
  | quickApplication => exact map_fixedForms _
  | emptyApplication => rfl
  | designerCustomWidget =>
    rw [ProjectTemplate.sourceForms, List.map_append, map_formsWithEndings]
    rfl
  | classLibrary =>
    rw [ProjectTemplate.sourceForms, List.map_append, map_formsWithEndings]
    rfl
  | widgetsApplication =>
    rw [ProjectTemplate.sourceForms, List.map_append, List.map_append, map_formsWithEndings,
      map_formsWithEndings, map_fixedForms]
    cases b <;> rfl

/-- The forms stand for the names of the expected files in the directory of the sources. -/
theorem map_forms (t : ProjectTemplate) (b : BuildSystem) :
    (t.forms b).map (NameForm.name project)
      = b.projectNames project ++ t.sourceNames project b := by
  rw [ProjectTemplate.forms, List.map_append, map_projectForms, map_sourceForms]

end Forms

/-- The source that widgets applications have under one name. -/
def mainSource : NameForm := ⟨.nothing, "main.cpp"⟩

/-- The source that bears the name of the project. -/
def ownSource : NameForm := ⟨.project, ".cpp"⟩

theorem forms_makePart (t : ProjectTemplate) (b : BuildSystem) :
    ∀ f ∈ b.solutionForms ++ t.forms b, f.MakesPart := by
  cases t <;> cases b <;> decide

theorem solutionForms_pairwise (b : BuildSystem) : b.solutionForms.Pairwise NameForm.Apart := by
  cases b <;> decide

/-- Of all templates only one has a pair of forms that are not apart. -/
theorem forms_pairwise (t : ProjectTemplate) (b : BuildSystem) :
    (t.forms b).Pairwise fun f g =>
      f.Apart g ∨ (t = .widgetsApplication ∧ f = mainSource ∧ g = ownSource) := by
  cases t <;> cases b <;> decide

section Names

variable {project : String}

/-- The files of a solution have different names. -/
theorem nodup_solutionNames (b : BuildSystem) (project : String) :
    (b.solutionNames project).Nodup := by
  rw [← map_solutionForms, List.Nodup, List.pairwise_map]
  exact (solutionForms_pairwise b).imp fun h => h.name_ne project

/-- The names of the files in the directory of the sources are different ones, but for one template
and one name of the project. -/
theorem nodup_projectNames_iff (t : ProjectTemplate) (b : BuildSystem) :
    (b.projectNames project ++ t.sourceNames project b).Nodup
      ↔ ¬(t = .widgetsApplication ∧ project = "main") := by
  rw [← map_forms, List.Nodup, List.pairwise_map]
  constructor
  · intro h htwice
    obtain ⟨rfl, rfl⟩ := htwice
    have hboth : [mainSource, ownSource].Sublist (ProjectTemplate.widgetsApplication.forms b) := by
      cases b <;> decide
    have hpair := List.pairwise_pair.mp (h.sublist hboth)
    exact hpair rfl
  · intro honce
    refine (forms_pairwise t b).imp fun h heq => ?_
    rcases h with h | ⟨rfl, rfl, rfl⟩
    · exact h.name_ne project heq
    · -- One ending for both: the project has the name that is left of `main.cpp`.
      have hproject : "main" ++ ".cpp" = project ++ ".cpp" := heq
      exact honce ⟨rfl, ((String.append_left_inj ".cpp").mp hproject).symm⟩

theorem isPart_solutionNames (hproject : IsPart project) (b : BuildSystem) :
    ∀ name ∈ b.solutionNames project, IsPart name := by
  rw [← map_solutionForms, List.forall_mem_map]
  intro f hf
  exact (forms_makePart .emptyApplication b f (List.mem_append_left _ hf)).isPart_name hproject

theorem isPart_projectNames (hproject : IsPart project) (t : ProjectTemplate) (b : BuildSystem) :
    ∀ name ∈ b.projectNames project ++ t.sourceNames project b, IsPart name := by
  rw [← map_forms, List.forall_mem_map]
  intro f hf
  exact (forms_makePart t b f (List.mem_append_right _ hf)).isPart_name hproject

end Names

/-! ## The expected files -/

/-- What is not there, where the files are asked about at once. -/
theorem FileAccess.missing_eq_filter (access : FileAccess Id) (paths : List Path) :
    access.missing paths = paths.filter fun p => !(access.exists? p).run := by
  induction paths with
  | nil => rfl
  | cons p paths ih =>
    have hcons : access.missing (p :: paths) = if (access.exists? p).run = true then
        access.missing paths else p :: access.missing paths := rfl
    rw [hcons, ih, List.filter_cons]
    cases (access.exists? p).run <;> rfl

/-- A name joined to a directory is one part more. -/
theorem map_components_join {names : List String} (h : ∀ name ∈ names, IsPart name) (dir : Path) :
    (names.map dir.join).map Path.components = names.map fun name => dir.components ++ [name] := by
  rw [List.map_map]
  exact List.map_congr_left fun name hname => (h name hname).components_join dir

section

variable {workdir : Path} {project : String} {t : ProjectTemplate} {b : BuildSystem}

/-- The expected files are different ones if their names within the project are. -/
theorem nodup_components_iff (hproject : IsPart project) :
    ((expectedFiles workdir project t b).map Path.components).Nodup
      ↔ (b.projectNames project ++ t.sourceNames project b).Nodup := by
  rw [expectedFiles, List.map_append, map_components_join (isPart_solutionNames hproject b),
    map_components_join (isPart_projectNames hproject t b), List.nodup_append]
  have hinjective (dir : Path) : (fun name : String => dir.components ++ [name]).Injective :=
    fun _ _ h => List.singleton_inj.mp (List.append_cancel_left h)
  rw [List.nodup_map_iff (hinjective _), List.nodup_map_iff (hinjective _),
    and_iff_right (nodup_solutionNames b project)]
  refine and_iff_left fun file hfile file' hfile' heq => ?_
  obtain ⟨name, -, rfl⟩ := List.mem_map.mp hfile
  obtain ⟨name', -, rfl⟩ := List.mem_map.mp hfile'
  -- In the directory of the sources there is one component more.
  have hlength := congrArg List.length heq
  rw [hproject.components_join (workdir.join project)] at hlength
  simp only [List.length_append, List.length_singleton] at hlength
  omega

/-- The files of the expectations that can be made are the expected ones. -/
theorem writtenFiles_of_make {x64 : Bool} {ideVersion : Option UInt32} {e : ProjectExpectations}
    (h : ProjectExpectations.make workdir project t b x64 ideVersion = .ok e) :
    e.writtenFiles = expectedFiles workdir project t b := by
  unfold ProjectExpectations.make at h
  split at h
  · cases h
  split at h
  · split at h
    · cases h
      rfl
    · cases h
  · cases h
    rfl

end

/-- Access where there are no files. -/
def FileAccess.nothing : FileAccess Id where
  readBytes _ := .error .notFound
  kindAt _ := none

theorem FileAccess.missing_nothing (paths : List Path) : nothing.missing paths = paths := by
  rw [missing_eq_filter]
  refine List.filter_eq_self.mpr fun p _ => ?_
  rw [exists?, kind?]
  cases p.readable <;> rfl

/-- **The expected files are different ones, in the directories of the project.** Each lies directly
in the directory of the solution or in that of the sources. They are pairwise different, and so many
files are reported as missing as there are different ones missing, whatever else is on the disk,
unless the project of a widgets application is called `main`. -/
theorem expectedFiles_different_iff (workdir : Path) {project : String} (hproject : IsPart project)
    (t : ProjectTemplate) (b : BuildSystem) :
    let solutionDir := workdir.join project
    let files := expectedFiles workdir project t b
    (∀ file ∈ files, Path.LiesIn solutionDir file ∨ Path.LiesIn (solutionDir.join project) file)
      ∧ ((files.map Path.components).Nodup ↔ ¬(t = .widgetsApplication ∧ project = "main"))
      ∧ ((∀ x64 ideVersion e,
          ProjectExpectations.make workdir project t b x64 ideVersion = .ok e →
          ∀ access : FileAccess Id,
            let missing : List Path := e.missingFiles access
            missing.length = (missing.map Path.components).toFinset.card)
        ↔ ¬(t = .widgetsApplication ∧ project = "main")) := by
  intro solutionDir files
  have hdifferent :
      (files.map Path.components).Nodup ↔ ¬(t = .widgetsApplication ∧ project = "main") :=
    (nodup_components_iff hproject).trans (nodup_projectNames_iff t b)
  refine ⟨fun file hfile => ?_, hdifferent, ?_, ?_⟩
  · rcases List.mem_append.mp hfile with hfile | hfile
    · obtain ⟨name, hname, rfl⟩ := List.mem_map.mp hfile
      exact .inl ⟨name, isPart_solutionNames hproject b name hname, rfl⟩
    · obtain ⟨name, hname, rfl⟩ := List.mem_map.mp hfile
      exact .inr ⟨name, isPart_projectNames hproject t b name hname, rfl⟩
  · -- On an empty disk all expected files are missing, and are counted as they are listed.
    intro hcount htwice
    obtain ⟨rfl, rfl⟩ := htwice
    let missing : List Path := FileAccess.nothing.missing files
    have hall : missing.length = (missing.map Path.components).toFinset.card :=
      hcount true none _ rfl FileAccess.nothing
    have hmissing : missing = files := FileAccess.missing_nothing files
    rw [hmissing, ← List.length_map Path.components, eq_comm] at hall
    have hnodup : (files.map Path.components).Nodup :=
      Multiset.toFinset_card_eq_card_iff_nodup.mp hall
    exact hdifferent.mp hnodup ⟨rfl, rfl⟩
  · intro honce x64 ideVersion e he access missing
    have hmissing : missing = files.filter fun p => !(access.exists? p).run := by
      have hwritten : e.writtenFiles = files := writtenFiles_of_make he
      rw [← FileAccess.missing_eq_filter, ← hwritten]
      rfl
    have hnodup : (missing.map Path.components).Nodup := by
      rw [hmissing]
      exact (hdifferent.mpr honce).sublist (List.filter_sublist.map _)
    rw [List.toFinset_card_of_nodup hnodup, List.length_map]

/-- A widgets application whose name differs from `main` in one letter's case. -/
theorem expectedFiles_different_iff_capital :
    let solutionDir := (Path.ofText "/work").join "Main"
    let files := expectedFiles (.ofText "/work") "Main" .widgetsApplication .msBuild
    IsPart "Main" ∧ files.length = 9
      ∧ (∀ file ∈ files, Path.LiesIn solutionDir file ∨ Path.LiesIn (solutionDir.join "Main") file)
      ∧ (files.map Path.components).Nodup := by
  intro solutionDir files
  have hproject : IsPart "Main" := .of_mem (c := 'M') (by decide) (by decide) (by decide)
  obtain ⟨hlies, hdifferent, -⟩ :=
    expectedFiles_different_iff (.ofText "/work") hproject .widgetsApplication .msBuild
  exact ⟨hproject, rfl, hlies, hdifferent.mpr (by decide)⟩

/-- A widgets application that is called `main`: of its nine files two are the same one, and all
nine are reported as missing. -/
theorem expectedFiles_main_twice :
    let files := expectedFiles (.ofText "work") "main" .widgetsApplication .msBuild
    let missing : List Path := FileAccess.nothing.missing files
    IsPart "main" ∧ files.count ⟨"work/main/main/main.cpp", true⟩ = 2
      ∧ ¬(files.map Path.components).Nodup
      ∧ missing.length = 9 ∧ (missing.map Path.components).toFinset.card = 8 := by
  refine ⟨.of_mem (c := 'm') (by decide) (by decide) (by decide), ?_, ?_, ?_, ?_⟩
  all_goals decide +kernel

end GuiTest
