import Mathlib.Data.List.Induction
import GuiTest.Suite.Settings

/-!
# What the settings of an environment are

The settings are those that the variables give one by one: each value is trimmed, and a blank one is
the same as none (`Environment.given?`). A version is told by the words of a text, and blanks around
a text make no words, so trimming does not change what version a text tells
(`IdeVersion.parse?_trim`). `readFrom_ofEnvironment` says what is known of settings that were read.
-/

namespace GuiTest

/-! ## Blanks around a text -/

namespace Text

variable {p : Char → Bool} {c : Char} {cs : List Char}

/-- A separator at the end makes an empty last piece. -/
theorem splitBy_concat (hc : p c = true) (cs : List Char) :
    splitBy p (cs ++ [c]) = splitBy p cs ++ [[]] := by
  induction cs with
  | nil => simp [splitBy, hc]
  | cons d cs ih =>
    rw [List.cons_append, splitBy, ih, splitBy]
    cases hpieces : splitBy p cs with
    | nil => exact absurd hpieces (splitBy_ne_nil p cs)
    | cons piece pieces => cases p d <;> rfl

theorem words_cons_blank (hc : isBlank c = true) (cs : List Char) :
    words (c :: cs) = words cs := by
  rw [words, splitBy, if_pos hc, words, List.filter_cons]
  rfl

theorem words_concat_blank (hc : isBlank c = true) (cs : List Char) :
    words (cs ++ [c]) = words cs := by
  rw [words, splitBy_concat hc, List.filter_append, words]
  exact List.append_nil _

/-- Blanks before a text make no words. -/
theorem words_dropWhile (cs : List Char) : words (cs.dropWhile isBlank) = words cs := by
  induction cs with
  | nil => rfl
  | cons c cs ih =>
    rw [List.dropWhile_cons]
    split
    next hc => rw [ih, words_cons_blank hc]
    next => rfl

/-- Blanks after a text make no words. -/
theorem words_dropEndWhile (cs : List Char) : words (dropEndWhile isBlank cs) = words cs := by
  -- Characters are dropped from the end, so the induction takes the text apart there.
  induction cs using List.reverseRecOn with
  | nil => rfl
  | append_singleton cs c ih =>
    rw [dropEndWhile, List.reverse_append, List.reverse_singleton, List.singleton_append,
      List.dropWhile_cons]
    split
    next hc => rw [← dropEndWhile, ih, words_concat_blank hc]
    next => rw [List.reverse_cons, List.reverse_reverse]

/-- Blanks around a text make no words. -/
theorem words_trimChars (cs : List Char) : words (trimChars cs) = words cs := by
  rw [trimChars, words_dropEndWhile, words_dropWhile]

end Text

namespace IdeVersion

/-- Blanks around a text do not change what version it tells. -/
theorem parse?_trim (text : String) : parse? (Text.trim text) = parse? text := by
  rw [parse?, parse?, lastNumbered?, lastNumbered?, Text.trim, String.toList_ofList,
    Text.words_trimChars]

/-- A blank text tells no version. -/
theorem parse?_of_blank {text : String} (h : Text.trim text = "") : parse? text = none := by
  rw [← parse?_trim, h]
  rfl

end IdeVersion

/-! ## Variables -/

namespace Environment

variable (env : Environment) (name : String)

/-- The value of a variable, if it is set and a text. -/
def text? : Option String := (env name).bind Text.Utf8.decode?

/-- What a variable gives: its value, trimmed, unless it is blank. -/
def given? : Option String := ((env.text? name).map Text.trim).filter (· ≠ "")

/-- A variable is set to a blank text. -/
def SetToBlank : Prop := ∃ text, env.text? name = some text ∧ Text.trim text = ""

instance : Decidable (env.SetToBlank name) :=
  decidable_of_iff ((env.text? name).any fun text => Text.trim text == "") (by
    rw [SetToBlank, Option.any_eq_true]
    simp only [beq_iff_eq])

theorem given?_of_none {env : Environment} {name : String} (h : env.text? name = none) :
    env.given? name = none := by
  rw [given?, h]
  rfl

theorem given?_of_some {env : Environment} {name text : String} (h : env.text? name = some text) :
    env.given? name = if Text.trim text = "" then none else some (Text.trim text) := by
  rw [given?, h, Option.map_some, Option.filter_some]
  by_cases hblank : Text.trim text = "" <;> simp [hblank]

/-- A variable that is given has a text that is not blank. -/
theorem exists_of_given? {env : Environment} {name value : String}
    (h : env.given? name = some value) :
    ∃ text, env.text? name = some text ∧ Text.trim text = value ∧ value ≠ "" := by
  cases htext : env.text? name with
  | none => cases (given?_of_none htext).symm.trans h
  | some text =>
    rw [given?_of_some htext] at h
    split at h
    next => cases h
    next hvalue =>
      cases h
      exact ⟨text, rfl, rfl, hvalue⟩

end Environment

/-! ## Settings -/

namespace SuiteSettings

variable {env : Environment} {s s' suite : SuiteSettings} {name value : String}

/-- Takes in a variable of an environment, if it is set. -/
def setFrom (env : Environment) (s : SuiteSettings) (name : String) : Except Fault SuiteSettings :=
  match env.text? name with
  | none => .ok s
  | some value => s.set name value

/-- The texts of variables are read one by one, and those that are not set are passed over. -/
theorem readTexts_cons_eq_ok {names : List String} {entries : List (String × String)}
    (h : readTexts env (name :: names) = .ok entries) :
    (env name = none ∧ readTexts env names = .ok entries)
      ∨ ∃ value rest, env.text? name = some value ∧ readTexts env names = .ok rest
        ∧ entries = (name, value) :: rest := by
  rw [readTexts] at h
  cases hbytes : env name with
  | none =>
    rw [hbytes] at h
    exact Or.inl ⟨rfl, h⟩
  | some bytes =>
    rw [hbytes] at h
    dsimp only at h
    cases htext : Text.Utf8.decode? bytes with
    | none =>
      rw [htext] at h
      cases h
    | some value =>
      rw [htext] at h
      dsimp only at h
      cases hrest : readTexts env names with
      | error f =>
        rw [hrest] at h
        cases h
      | ok rest =>
        rw [hrest] at h
        cases h
        refine Or.inr ⟨value, rest, ?_, rfl, rfl⟩
        rw [Environment.text?, hbytes, Option.bind_some, htext]

/-- To read all values and then to take them in is to take in one variable after the other. -/
theorem setAll_readTexts {names : List String} {entries : List (String × String)}
    (h : readTexts env names = .ok entries) (s : SuiteSettings) :
    s.setAll entries = names.foldlM (setFrom env) s := by
  induction names generalizing entries s with
  | nil =>
    cases h
    rfl
  | cons name names ih =>
    rw [List.foldlM_cons, setFrom]
    rcases readTexts_cons_eq_ok h with ⟨hunset, hrest⟩ | ⟨value, rest, htext, hrest, rfl⟩
    · have htext : env.text? name = none := by rw [Environment.text?, hunset, Option.bind_none]
      rw [htext]
      exact ih hrest s
    · rw [htext, setAll]
      dsimp only
      cases hset : s.set name value with
      | error f => rfl
      | ok s => exact ih hrest s

/-- If the texts can be read, then that of each variable can. -/
theorem texts_of_readTexts {names : List String} {entries : List (String × String)}
    (h : readTexts env names = .ok entries) :
    ∀ name ∈ names, ∀ bytes, env name = some bytes → ∃ text, env.text? name = some text := by
  induction names generalizing entries with
  | nil => exact fun name hname => absurd hname List.not_mem_nil
  | cons first names ih =>
    rw [List.forall_mem_cons]
    rcases readTexts_cons_eq_ok h with ⟨hunset, hrest⟩ | ⟨value, rest, htext, hrest, -⟩
    · refine ⟨fun bytes hbytes => ?_, ih hrest⟩
      cases hunset.symm.trans hbytes
    · exact ⟨fun bytes _ => ⟨value, htext⟩, ih hrest⟩

/-- A variable that gives nothing is passed over. -/
theorem setFrom_cases (h : setFrom env s name = .ok s') :
    (env.given? name = none ∧ s' = s)
      ∨ ∃ value, env.given? name = some (Text.trim value) ∧ Text.trim value ≠ ""
        ∧ s.set name value = .ok s' := by
  rw [setFrom] at h
  cases htext : env.text? name with
  | none =>
    rw [htext] at h
    cases h
    exact Or.inl ⟨Environment.given?_of_none htext, rfl⟩
  | some value =>
    rw [htext] at h
    dsimp only at h
    rw [Environment.given?_of_some htext]
    by_cases hblank : Text.trim value = ""
    · rw [set, if_pos hblank] at h
      cases h
      exact Or.inl ⟨if_pos hblank, rfl⟩
    · exact Or.inr ⟨value, if_neg hblank, hblank, h⟩

/-- Installations leave the other settings as they were. -/
theorem setFrom_installations (h : setFrom env s installationsVariable = .ok s') :
    s'.workdir = s.workdir ∧ s'.ideVersion = s.ideVersion := by
  rcases setFrom_cases h with ⟨-, rfl⟩ | ⟨value, -, hvalue, h⟩
  · exact ⟨rfl, rfl⟩
  · rw [set, if_neg hvalue, if_pos rfl] at h
    cases hparsed : parseInstallations (Text.trim value) with
    | error f => cases hparsed ▸ h
    | ok installations =>
      cases hparsed ▸ h
      exact ⟨rfl, rfl⟩

/-- The working directory is the one given, or the one before. -/
theorem setFrom_workdir (h : setFrom env s workdirVariable = .ok s') :
    s'.workdir = (env.given? workdirVariable).or s.workdir ∧ s'.ideVersion = s.ideVersion := by
  rcases setFrom_cases h with ⟨hgiven, rfl⟩ | ⟨value, hgiven, hvalue, h⟩
  · rw [hgiven]
    exact ⟨rfl, rfl⟩
  · rw [set, if_neg hvalue, if_neg (by decide), if_pos rfl] at h
    cases h
    rw [hgiven]
    exact ⟨rfl, rfl⟩

/-- The version is the one given, if any, and then it can be read. -/
theorem setFrom_version (h : setFrom env s versionVariable = .ok s') :
    s'.workdir = s.workdir
      ∧ s'.ideVersion = ((env.given? versionVariable).bind IdeVersion.parse?).or s.ideVersion
      ∧ ∀ text, env.given? versionVariable = some text → (IdeVersion.parse? text).isSome := by
  rcases setFrom_cases h with ⟨hgiven, rfl⟩ | ⟨value, hgiven, hvalue, h⟩
  · rw [hgiven]
    exact ⟨rfl, rfl, fun text h => by cases h⟩
  · rw [set, if_neg hvalue, if_neg (by decide), if_neg (by decide), if_pos rfl] at h
    rw [hgiven, Option.bind_some]
    cases hversion : IdeVersion.parse? (Text.trim value) with
    | none => cases hversion ▸ h
    | some version =>
      cases hversion ▸ h
      refine ⟨rfl, rfl, fun text htext => ?_⟩
      rw [← Option.some.inj htext, hversion]
      rfl

/-- Variables are taken in one after the other. -/
theorem foldlM_setFrom_cons {names : List String}
    (h : (name :: names).foldlM (setFrom env) s = .ok suite) :
    ∃ s', setFrom env s name = .ok s' ∧ names.foldlM (setFrom env) s' = .ok suite := by
  rw [List.foldlM_cons] at h
  cases hset : setFrom env s name with
  | error f =>
    rw [hset] at h
    cases h
  | ok s' =>
    rw [hset] at h
    exact ⟨s', rfl, h⟩

/-- Settings that were read from an environment: the directory and the version that it gives. A
version that is given can be read, and what is set is a text. -/
structure ReadFrom (env : Environment) (suite : SuiteSettings) : Prop where
  workdir : suite.workdir = env.given? workdirVariable
  ideVersion : suite.ideVersion = (env.given? versionVariable).bind IdeVersion.parse?
  version_readable : ∀ text, env.given? versionVariable = some text →
    (IdeVersion.parse? text).isSome
  texts : ∀ name ∈ [installationsVariable, workdirVariable, versionVariable],
    ∀ bytes, env name = some bytes → ∃ text, env.text? name = some text

/-- **What settings say that were read from an environment.** -/
theorem readFrom_ofEnvironment (h : ofEnvironment env = .ok suite) : ReadFrom env suite := by
  rw [ofEnvironment] at h
  cases hentries : readTexts env [installationsVariable, workdirVariable, versionVariable] with
  | error f =>
    rw [hentries] at h
    cases h
  | ok entries =>
    rw [hentries] at h
    dsimp only at h
    rw [ofVariables, setAll_readTexts hentries] at h
    -- Each of the three variables sets its own field and leaves those of the others.
    obtain ⟨s₁, h₁, h⟩ := foldlM_setFrom_cons h
    obtain ⟨s₂, h₂, h⟩ := foldlM_setFrom_cons h
    obtain ⟨s₃, h₃, h⟩ := foldlM_setFrom_cons h
    cases h
    obtain ⟨hworkdir₁, hversion₁⟩ := setFrom_installations h₁
    obtain ⟨hworkdir₂, hversion₂⟩ := setFrom_workdir h₂
    obtain ⟨hworkdir₃, hversion₃, hreadable⟩ := setFrom_version h₃
    refine ⟨?_, ?_, hreadable, texts_of_readTexts hentries⟩
    · rw [hworkdir₃, hworkdir₂, hworkdir₁, Option.or_none]
    · rw [hversion₃, hversion₂, hversion₁, Option.or_none]

end SuiteSettings

end GuiTest
