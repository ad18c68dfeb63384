import GuiTest.CommandLine.Execution
import GuiTest.Proofs.Suite.Settings

/-!
# What `expect` takes from the environment

The directory and the version of `expect` may be left to the environment, where the settings of the
suite are found as well; but the two are read in different ways. The settings trim what a variable
gives and pass over what is blank. `expect` takes the directory as it stands, and refuses a version
that is set and blank as one that cannot be read. `expect_from_environment` says what comes of that:
both agree exactly if the directory has no blanks around it and the version is not set to blanks.
-/

namespace GuiTest

open SuiteSettings (workdirVariable versionVariable)

/-- Bytes that spell a text are the path of that text. -/
theorem Path.ofBytes_of_decode? {bytes : List UInt8} {text : String}
    (h : Text.Utf8.decode? bytes = some text) : ofBytes bytes = ofText text := by
  rw [ofBytes, Text.Utf8.lossy_of_decode? h, h]
  rfl

namespace CommandLine

variable {env : Environment} {suite : SuiteSettings} {g : Gathered} {arguments : List String}
  {dir raw : String}

/-- The directory that is taken from the environment, as it stands there. -/
theorem readDirectory?_of_text? (h : env.text? workdirVariable = some raw) (hraw : raw ≠ "") :
    readDirectory? none (env workdirVariable) = some (.ofText raw) := by
  obtain ⟨bytes, hbytes, hdecode⟩ := Option.bind_eq_some_iff.mp h
  have hne : bytes ≠ [] := by
    rintro rfl
    exact hraw (Option.some.inj (hdecode.symm.trans rfl))
  rw [hbytes, readDirectory?, if_neg hne, Path.ofBytes_of_decode? hdecode]

/-- The version that is taken from the environment is that of the settings. -/
theorem readValue_version (h : suite.ReadFrom env) (hblank : ¬ env.SetToBlank versionVariable) :
    readValue IdeVersion.parse? none (env versionVariable) = some suite.ideVersion := by
  rw [h.ideVersion]
  cases hbytes : env versionVariable with
  | none =>
    have htext : env.text? versionVariable = none := by
      rw [Environment.text?, hbytes, Option.bind_none]
    rw [Environment.given?_of_none htext]
    rfl
  | some bytes =>
    obtain ⟨text, htext⟩ := h.texts versionVariable (by simp) bytes hbytes
    have hdecode : Text.Utf8.decode? bytes = some text := by
      rwa [Environment.text?, hbytes] at htext
    have hgiven : env.given? versionVariable = some (Text.trim text) := by
      rw [Environment.given?_of_some htext, if_neg fun hempty => hblank ⟨text, htext, hempty⟩]
    obtain ⟨version, hversion⟩ :=
      Option.isSome_iff_exists.mp (h.version_readable _ hgiven)
    rw [hgiven, Option.bind_some, hversion, readValue, hdecode, Option.bind_some,
      ← IdeVersion.parse?_trim, hversion]
    rfl

/-- A version that is set to blanks is refused. -/
theorem readValue_blank (hblank : env.SetToBlank versionVariable) :
    readValue IdeVersion.parse? none (env versionVariable) = none := by
  obtain ⟨text, htext, hempty⟩ := hblank
  obtain ⟨bytes, hbytes, hdecode⟩ := Option.bind_eq_some_iff.mp htext
  rw [hbytes, readValue, hdecode, Option.bind_some, IdeVersion.parse?_of_blank hempty]
  rfl

/-- Arguments of `expect` that are of use, and say neither a directory nor a version. -/
structure LeavesToEnvironment (arguments : List String) (g : Gathered) : Prop where
  gathered : Gathered.gather? (.format :: ExpectRequest.options) {} arguments = some g
  template : ∃ template, g.positionals = [template]
  format : ∃ format, Invocation.format? (g.value? .format) = some format
  workdir : g.value? .workdir = none
  ideVersion : g.value? .ideVersion = none

/-- What `expect` is asked for by such arguments. -/
theorem command?_expect (env : Environment) (before : Option OutputFormat)
    (h : LeavesToEnvironment arguments g) :
    ∃ format, Invocation.command? env before "expect" arguments
      = (ExpectRequest.of? env g).map fun r => .run (.expect r) format := by
  obtain ⟨format, hformat⟩ := h.format
  refine ⟨(format.or before).getD .text, ?_⟩
  have hoptions : Command.options? "expect" = some ExpectRequest.options := rfl
  have hcommand : Command.of? env "expect" g = (ExpectRequest.of? env g).map .expect := rfl
  rw [Invocation.command?, hoptions]
  simp only [Option.bind_eq_bind, Option.bind_some, h.gathered, hformat, hcommand]
  cases ExpectRequest.of? env g <;> rfl

/-- What is read, if both the directory and the version can be read. -/
theorem exists_of?_eq_some (h : LeavesToEnvironment arguments g) {workdir : Path}
    {ideVersion : Option UInt32}
    (hworkdir : readDirectory? none (env workdirVariable) = some workdir)
    (hversion : readValue IdeVersion.parse? none (env versionVariable) = some ideVersion) :
    ∃ r, ExpectRequest.of? env g = some r ∧ r.workdir = workdir ∧ r.ideVersion = ideVersion := by
  obtain ⟨template, htemplate⟩ := h.template
  rw [ExpectRequest.of?, htemplate]
  simp only [h.workdir, h.ideVersion, hworkdir, hversion]
  exact ⟨_, rfl, rfl, rfl⟩

theorem of?_eq_none (h : LeavesToEnvironment arguments g)
    (hversion : readValue IdeVersion.parse? none (env versionVariable) = none) :
    ExpectRequest.of? env g = none := by
  obtain ⟨template, htemplate⟩ := h.template
  rw [ExpectRequest.of?, htemplate]
  simp only [h.workdir, h.ideVersion, hversion]
  cases readDirectory? none (env workdirVariable) <;> rfl

/-- The settings are shown as they were read. -/
theorem run_env [Clock] (files : FileAccess Id) (h : SuiteSettings.ofEnvironment env = .ok suite)
    (hdir : suite.workdir = some dir) :
    run files env ["env"] = .ofLines
      (settingLines suite (loadTiming files env) (files.isDirectory (.ofText dir))) := by
  have hinvoked : Invocation.ofArguments? env ["env"] = some (.run .env .text) := rfl
  have hrun : run files env ["env"] = CommandLine.env files env .text := by
    rw [run, hinvoked]
    rfl
  rw [hrun, CommandLine.env, h]
  dsimp only
  rw [hdir]
  rfl

/-- The text of a version. -/
def versionText (version : Option UInt32) : String :=
  match version with
  | some v => toString v.toNat
  | none => "any"

/-- What is said of the release that a version belongs to. -/
def releaseNote (year : Option Nat) : String :=
  match year with
  | some year => " (Visual Studio " ++ toString year ++ ")"
  | none => ""

/-- The lines for the directory and for the version, and the one after them. -/
theorem exists_settingLines (timing : TimingSettings) (present : Bool)
    (hdir : suite.workdir = some dir) :
    ∃ before after, settingLines suite timing present = before
      ++ ["workdir: " ++ dir ++ (if present then "" else " (missing)"),
        "IDE version: " ++ versionText suite.ideVersion ++ releaseNote suite.releaseYear?]
      ++ [after] := by
  have hsplit (first : List String) (a b c : String) :
      first ++ [a, b, c] = first ++ [a, b] ++ [c] := (List.append_assoc first [a, b] [c]).symm
  rw [settingLines, hdir, SuiteSettings.releaseYear?, hsplit]
  cases suite.ideVersion with
  | none => exact ⟨_, _, rfl⟩
  | some v =>
    rw [Option.bind_some, versionText]
    cases IdeVersion.releaseYear? v with
    | none =>
      rw [releaseNote, String.append_empty]
      exact ⟨_, _, rfl⟩
    | some year =>
      rw [releaseNote, ← String.append_assoc, ← String.append_assoc]
      exact ⟨_, _, rfl⟩

/-- **What `expect` takes from an environment in which the suite has a directory.** The directory is
the text that the settings trim, with the blanks around it. The version is that of the settings, but
if it is set to blanks, which is none for the settings, `expect` is refused. So it works on what
`env` shows, the directory and the version each in a line, exactly if there are no blanks around the
directory and the version is not set to blanks. -/
theorem expect_from_environment [Clock] (env : Environment) (suite : SuiteSettings)
    (dir : String) (hsuite : SuiteSettings.ofEnvironment env = .ok suite)
    (hdir : suite.workdir = some dir) :
    ∃ raw, env.text? workdirVariable = some raw ∧ Text.trim raw = dir
      ∧ (∀ files : FileAccess Id, ∃ timing present,
        run files env ["env"] = .ofLines (settingLines suite timing present)
          ∧ (present = files.isDirectory (.ofText dir))
          ∧ ∃ before after, settingLines suite timing present = before
            ++ ["workdir: " ++ dir ++ (if present then "" else " (missing)"),
              "IDE version: " ++ versionText suite.ideVersion ++ releaseNote suite.releaseYear?]
            ++ [after])
      ∧ ∀ arguments g before, LeavesToEnvironment arguments g →
        let invoked := Invocation.command? env before "expect" arguments
        (env.SetToBlank versionVariable → invoked = none)
          ∧ (¬ env.SetToBlank versionVariable → ∃ r format,
            invoked = some (.run (.expect r) format) ∧ r.workdir = .ofText raw
              ∧ r.ideVersion = suite.ideVersion)
          ∧ ((∃ r format, invoked = some (.run (.expect r) format) ∧ r.workdir = .ofText dir
              ∧ r.ideVersion = suite.ideVersion)
            ↔ ¬ env.SetToBlank versionVariable ∧ raw = dir) := by
  have hread := SuiteSettings.readFrom_ofEnvironment hsuite
  obtain ⟨raw, hraw, hne, htrim⟩ : ∃ raw, env.text? workdirVariable = some raw ∧ raw ≠ ""
      ∧ Text.trim raw = dir := by
    obtain ⟨raw, hraw, htrim, hdir⟩ :=
      Environment.exists_of_given? (hread.workdir.symm.trans hdir)
    refine ⟨raw, hraw, ?_, htrim⟩
    rintro rfl
    exact hdir (htrim.symm.trans rfl)
  refine ⟨raw, hraw, htrim, fun files => ⟨_, _, run_env files hsuite hdir, rfl,
    exists_settingLines _ _ hdir⟩, ?_⟩
  intro arguments g before hleaves invoked
  obtain ⟨format, hinvoked⟩ := command?_expect env before hleaves
  have hrefused (hblank : env.SetToBlank versionVariable) : invoked = none := by
    rw [← Option.map_none, ← of?_eq_none hleaves (readValue_blank hblank)]
    exact hinvoked
  have haccepted (hblank : ¬ env.SetToBlank versionVariable) : ∃ r,
      invoked = some (.run (.expect r) format) ∧ r.workdir = .ofText raw
        ∧ r.ideVersion = suite.ideVersion := by
    obtain ⟨r, hr, hworkdir, hversion⟩ := exists_of?_eq_some hleaves
      (readDirectory?_of_text? hraw hne) (readValue_version hread hblank)
    rw [hr, Option.map_some] at hinvoked
    exact ⟨r, hinvoked, hworkdir, hversion⟩
  refine ⟨hrefused, fun hblank => ?_, ?_⟩
  · obtain ⟨r, hr⟩ := haccepted hblank
    exact ⟨r, format, hr⟩
  · constructor
    · -- What was read as the directory is a path of the same text, so the texts are the same.
      rintro ⟨r, format', hr, hworkdir, -⟩
      have hblank : ¬ env.SetToBlank versionVariable := fun hblank => by
        cases (hrefused hblank).symm.trans hr
      obtain ⟨r', hr', hworkdir', -⟩ := haccepted hblank
      cases hr.symm.trans hr'
      exact ⟨hblank, congrArg Path.text (hworkdir'.symm.trans hworkdir)⟩
    · rintro ⟨hblank, rfl⟩
      obtain ⟨r, hr⟩ := haccepted hblank
      exact ⟨r, format, hr⟩

/-- A version within a longer text, with blanks after it, is the same for both. -/
theorem expect_from_environment_version :
    letI : Clock := .punctual
    let bytes (text : String) : List UInt8 := text.toList.map fun c => .ofNat c.toNat
    let env := Environment.ofList
      [(workdirVariable, bytes "/work"), (versionVariable, bytes "Visual Studio 17.9 ")]
    let suite : SuiteSettings := { workdir := some "/work", ideVersion := some 17 }
    SuiteSettings.ofEnvironment env = .ok suite
      ∧ (∃ r format, Invocation.ofArguments? env ["expect", "ConsoleApplication", "--no-x64"]
          = some (.run (.expect r) format)
        ∧ r.workdir = .ofText "/work" ∧ r.ideVersion = some 17)
      ∧ ∀ files : FileAccess Id, files.isDirectory (.ofText "/work") = true →
        ∃ before after, run files env ["env"] = .ofLines (before
          ++ ["workdir: /work", "IDE version: 17 (Visual Studio 2022)"] ++ [after]) := by
  let _ : Clock := .punctual
  intro bytes env suite
  have hsuite : SuiteSettings.ofEnvironment env = .ok suite := by decide +kernel
  have hraw : env.text? workdirVariable = some "/work" := by decide +kernel
  have hversion : ¬ env.SetToBlank versionVariable := by decide +kernel
  have hleaves : LeavesToEnvironment ["ConsoleApplication", "--no-x64"]
      ⟨[(.noX64, "")], ["ConsoleApplication"]⟩ :=
    ⟨by decide +kernel, ⟨_, rfl⟩, ⟨_, rfl⟩, rfl, rfl⟩
  obtain ⟨raw, hraw', -, hshown, hexpect⟩ := expect_from_environment env suite "/work" hsuite rfl
  cases hraw.symm.trans hraw'
  refine ⟨hsuite, (hexpect _ _ none hleaves).2.1 hversion, fun files hpresent => ?_⟩
  obtain ⟨timing, present, hrun, hdirectory, before, after, hlines⟩ := hshown files
  rw [hdirectory.trans hpresent] at hrun hlines
  exact ⟨before, after, hrun.trans (congrArg Outcome.ofLines hlines)⟩

/-- A version that is set to nothing, which is none for the settings, is refused; and blanks around
the directory, which the settings trim, are kept. -/
theorem expect_from_environment_differs :
    let bytes (text : String) : List UInt8 := text.toList.map fun c => .ofNat c.toNat
    let empty := Environment.ofList [(workdirVariable, bytes "/work"), (versionVariable, [])]
    let padded := Environment.ofList [(workdirVariable, bytes " /work ")]
    let suite : SuiteSettings := { workdir := some "/work" }
    let arguments := ["expect", "ConsoleApplication"]
    SuiteSettings.ofEnvironment empty = .ok suite
      ∧ Invocation.ofArguments? empty arguments = none
      ∧ SuiteSettings.ofEnvironment padded = .ok suite
      ∧ Invocation.ofArguments? padded arguments = some (.run (.expect
        ⟨"ConsoleApplication", .ofText " /work ", none, .msBuild, true, false, none⟩) .text) := by
  intro bytes empty padded suite arguments
  exact ⟨by decide +kernel, by decide +kernel, by decide +kernel, by decide +kernel⟩

end CommandLine

end GuiTest
