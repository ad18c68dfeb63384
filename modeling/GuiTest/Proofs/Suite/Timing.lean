import GuiTest.Proofs.Files.Disk
import GuiTest.Proofs.Json.Record
import GuiTest.Proofs.Text.Utf8
import GuiTest.Suite.Timing

/-!
# What a file of timing settings says

A value says settings if it is a record of them in which each one that is held is a natural number
in its range (`Accepted`): those that it holds are as it holds them, and the others as without a
file (`Says`). Settings are read from just the texts of such values (`run_eq_some_iff`), and every
such value says some (`exists_decode`). So a file is loaded as a whole or not at all
(`loadFrom_eq_iff`), and what was saved is loaded (`loadFrom_of_saveTo?`), for its text is one of a
value that says just the settings that were saved (`run_save`).
-/

namespace GuiTest.TimingSettings

open Json

/-! ## Settings -/

/-- One of the settings: its name, how many values it may have, and the value that it has. -/
structure Setting where
  name : String
  limit : Nat
  value : TimingSettings → Nat

/-- All settings. -/
def settings : List Setting :=
  [⟨"poll_interval_ms", 2 ^ 64, fun t => t.pollInterval.toNat⟩,
   ⟨"default_timeout_ms", 2 ^ 64, fun t => t.defaultTimeout.toNat⟩,
   ⟨"settle_timeout_ms", 2 ^ 64, fun t => t.settleTimeout.toNat⟩,
   ⟨"backoff_ms", 2 ^ 64, fun t => t.backoff.toNat⟩,
   ⟨"max_cycles", 2 ^ 32, fun t => t.maxCycles.toNat⟩]

/-- A value that says settings: a record of them, each of those that it holds a natural number in
its range. -/
structure Accepted (v : Value) : Prop where
  record : v.IsRecord memberNames
  inRange : ∀ s ∈ settings, ∀ w, v.Holds memberNames s.name w → ∃ n < s.limit, w = .nat n

/-- The settings that a value says: each that it holds is as it holds it, and each other as it is
without a file. -/
structure Says (v : Value) (t : TimingSettings) : Prop where
  held : ∀ s ∈ settings, ∀ w, v.Holds memberNames s.name w → w = .nat (s.value t)
  absent : ∀ s ∈ settings, (∀ w, ¬ v.Holds memberNames s.name w) → s.value t = s.value {}

theorem nodup_memberNames : memberNames.Nodup := by decide

/-- Every setting is in its range. -/
theorem value_lt (t : TimingSettings) : ∀ s ∈ settings, s.value t < s.limit := by
  simp only [settings, List.forall_mem_cons]
  exact ⟨t.pollInterval.toNat_lt, t.defaultTimeout.toNat_lt, t.settleTimeout.toNat_lt,
    t.backoff.toNat_lt, t.maxCycles.toNat_lt, List.forall_mem_nil _⟩

/-! ## Reading a value -/

section Decode

variable {v : Value} {t : TimingSettings} {depth : Nat}

/-- Settings are read one by one. -/
theorem decode_succ_eq_some_iff : decode (depth + 1) v = some t
    ↔ ∃ fields, Fields.ofRecord memberNames false v = some fields
      ∧ fields.optional "poll_interval_ms" Decode.uint64 ({} : TimingSettings).pollInterval depth
          = some t.pollInterval
      ∧ fields.optional "default_timeout_ms" Decode.uint64 ({} : TimingSettings).defaultTimeout
          depth = some t.defaultTimeout
      ∧ fields.optional "settle_timeout_ms" Decode.uint64 ({} : TimingSettings).settleTimeout depth
          = some t.settleTimeout
      ∧ fields.optional "backoff_ms" Decode.uint64 ({} : TimingSettings).backoff depth
          = some t.backoff
      ∧ fields.optional "max_cycles" Decode.uint32 ({} : TimingSettings).maxCycles depth
          = some t.maxCycles := by
  obtain ⟨poll, timeout, settle, backoff, cycles⟩ := t
  simp [decode, Decode.record, Option.bind_eq_some_iff]

/-- Each number that is held is written as in a text. -/
def Written (v : Value) : Prop := ∀ name w, v.Holds memberNames name w → w.Canonical

variable {fields : Fields} {name : String}

/-- A wide number is read as what is held for it, or as what it is without a file. -/
theorem optional_uint64_iff (hv : Written v)
    (hfields : Fields.ofRecord memberNames false v = some fields) (hname : name ∈ memberNames)
    {absent x : UInt64} : fields.optional name Decode.uint64 absent depth = some x
      ↔ (∀ w, v.Holds memberNames name w → w = .nat x.toNat)
        ∧ ((∀ w, ¬ v.Holds memberNames name w) → x.toNat = absent.toNat) := by
  rw [Fields.optional_ofRecord_iff nodup_memberNames hfields hname
    fun w hw _ => Decode.uint64_eq_some_iff (hv name w hw)]
  simp only [UInt64.toNat_inj]

/-- A narrow number is read as what is held for it, or as what it is without a file. -/
theorem optional_uint32_iff (hv : Written v)
    (hfields : Fields.ofRecord memberNames false v = some fields) (hname : name ∈ memberNames)
    {absent x : UInt32} : fields.optional name Decode.uint32 absent depth = some x
      ↔ (∀ w, v.Holds memberNames name w → w = .nat x.toNat)
        ∧ ((∀ w, ¬ v.Holds memberNames name w) → x.toNat = absent.toNat) := by
  rw [Fields.optional_ofRecord_iff nodup_memberNames hfields hname
    fun w hw _ => Decode.uint32_eq_some_iff (hv name w hw)]
  simp only [UInt32.toNat_inj]

theorem says_iff : Says v t ↔ ∀ s ∈ settings,
    (∀ w, v.Holds memberNames s.name w → w = .nat (s.value t))
      ∧ ((∀ w, ¬ v.Holds memberNames s.name w) → s.value t = s.value {}) where
  mp h s hs := ⟨h.held s hs, h.absent s hs⟩
  mpr h := ⟨fun s hs => (h s hs).1, fun s hs => (h s hs).2⟩

/-- **Settings are read from a record that says them.** -/
theorem decode_eq_some_iff (hv : Written v) :
    decode (depth + 1) v = some t ↔ v.IsRecord memberNames ∧ Says v t := by
  rw [decode_succ_eq_some_iff, ← Fields.ofRecord_isSome_iff, says_iff]
  simp only [settings, List.forall_mem_cons]
  constructor
  · rintro ⟨fields, hfields, hpoll, htimeout, hsettle, hbackoff, hcycles⟩
    rw [optional_uint64_iff hv hfields (by decide)] at hpoll htimeout hsettle hbackoff
    rw [optional_uint32_iff hv hfields (by decide)] at hcycles
    exact ⟨⟨fields, hfields⟩, hpoll, htimeout, hsettle, hbackoff, hcycles, List.forall_mem_nil _⟩
  · rintro ⟨⟨fields, hfields⟩, hpoll, htimeout, hsettle, hbackoff, hcycles, -⟩
    refine ⟨fields, hfields, ?_⟩
    rw [optional_uint64_iff hv hfields (by decide), optional_uint64_iff hv hfields (by decide),
      optional_uint64_iff hv hfields (by decide), optional_uint64_iff hv hfields (by decide),
      optional_uint32_iff hv hfields (by decide)]
    exact ⟨hpoll, htimeout, hsettle, hbackoff, hcycles⟩

/-- A wide number in its range can be read. -/
theorem exists_optional_uint64 (hfields : Fields.ofRecord memberNames false v = some fields)
    (hname : name ∈ memberNames)
    (hv : ∀ w, v.Holds memberNames name w → ∃ n < 2 ^ 64, w = .nat n) (absent : UInt64) :
    ∃ x, fields.optional name Decode.uint64 absent depth = some x := by
  refine Fields.exists_optional_ofRecord nodup_memberNames hfields hname fun w hw => ?_
  obtain ⟨n, hn, rfl⟩ := hv w hw
  exact ⟨_, congrArg (Option.map UInt64.ofNat) (Decode.natBelow_nat _ depth hn)⟩

/-- A narrow number in its range can be read. -/
theorem exists_optional_uint32 (hfields : Fields.ofRecord memberNames false v = some fields)
    (hname : name ∈ memberNames)
    (hv : ∀ w, v.Holds memberNames name w → ∃ n < 2 ^ 32, w = .nat n) (absent : UInt32) :
    ∃ x, fields.optional name Decode.uint32 absent depth = some x := by
  refine Fields.exists_optional_ofRecord nodup_memberNames hfields hname fun w hw => ?_
  obtain ⟨n, hn, rfl⟩ := hv w hw
  exact ⟨_, congrArg (Option.map UInt32.ofNat) (Decode.natBelow_nat _ depth hn)⟩

/-- **From an accepted value some settings are read.** -/
theorem exists_decode (h : Accepted v) : ∃ t, decode (depth + 1) v = some t := by
  obtain ⟨fields, hfields⟩ := Fields.ofRecord_isSome_iff.mpr h.record
  have hrange := h.inRange
  simp only [settings, List.forall_mem_cons] at hrange
  obtain ⟨hpoll, htimeout, hsettle, hbackoff, hcycles, -⟩ := hrange
  obtain ⟨poll, hpoll⟩ := exists_optional_uint64 hfields (by decide) hpoll _
  obtain ⟨timeout, htimeout⟩ := exists_optional_uint64 hfields (by decide) htimeout _
  obtain ⟨settle, hsettle⟩ := exists_optional_uint64 hfields (by decide) hsettle _
  obtain ⟨backoff, hbackoff⟩ := exists_optional_uint64 hfields (by decide) hbackoff _
  obtain ⟨cycles, hcycles⟩ := exists_optional_uint32 hfields (by decide) hcycles _
  exact ⟨⟨poll, timeout, settle, backoff, cycles⟩, decode_succ_eq_some_iff.mpr
    ⟨fields, hfields, hpoll, htimeout, hsettle, hbackoff, hcycles⟩⟩

/-- What is read is accepted. -/
theorem Says.accepted (h : Says v t) (hrecord : v.IsRecord memberNames) : Accepted v where
  record := hrecord
  inRange s hs w hw := ⟨s.value t, value_lt t s hs, h.held s hs w hw⟩

end Decode

/-! ## Reading a text -/

/-- **Settings are read from a text of an accepted value that says them.** -/
theorem run_eq_some_iff {text : String} {t : TimingSettings} : decode.run text = some t
    ↔ ∃ v : Value, v.IsText text ∧ Accepted v ∧ Says v t := by
  show (Value.parse? text).bind (decode (126 + 1)) = some t ↔ _
  rw [Option.bind_eq_some_iff]
  refine exists_congr fun v => ?_
  rw [Value.parse?_eq_some_iff]
  refine and_congr_right fun htext => ?_
  rw [decode_eq_some_iff fun name w hw => htext.canonical hw]
  exact ⟨fun h => ⟨h.2.accepted h.1, h.2⟩, fun h => ⟨h.1.record, h.2⟩⟩

/-- The text of a value that says settings can be read. -/
theorem exists_run {text : String} {v : Value} (htext : v.IsText text) (hv : Accepted v) :
    ∃ t, decode.run text = some t := by
  obtain ⟨t, ht⟩ : ∃ t, decode (126 + 1) v = some t := exists_decode hv
  refine ⟨t, ?_⟩
  rw [Decode.run, Value.parse?_eq_some_iff.mpr htext]
  exact ht

/-- The members that are written. -/
def members (t : TimingSettings) : List (String × Value) :=
  [("poll_interval_ms", .nat t.pollInterval.toNat),
   ("default_timeout_ms", .nat t.defaultTimeout.toNat),
   ("settle_timeout_ms", .nat t.settleTimeout.toNat),
   ("backoff_ms", .nat t.backoff.toNat), ("max_cycles", .nat t.maxCycles.toNat)]

theorem flat_members (t : TimingSettings) : ∀ m ∈ members t, m.2.Flat := by simp [members]

theorem nesting_members_le (t : TimingSettings) (depth : Nat) :
    (Value.record (members t)).nesting ≤ depth + 1 :=
  Value.nesting_record_le_iff.mpr fun m hm => (flat_members t m hm).nesting_le depth

/-- Settings are read as they are written. -/
theorem readsBack : ReadsBack decode fun t => .record (members t) :=
  .record nodup_memberNames (fun _ => List.Sublist.refl _) (fun t m hm => (flat_members t m hm).2)
    fun depth t => by
      rw [if_pos (nesting_members_le t depth)]
      simp [members, Fields.optional, List.lookup_cons, Decode.uint64_nat, Decode.uint32_nat]

/-- **What is saved is read.** -/
theorem run_save (t : TimingSettings) : decode.run t.save = some t := by
  have h := readsBack.run_write .pretty t
  have hdepth : (Value.record (members t)).nesting ≤ maxNesting := nesting_members_le t 126
  rw [if_pos hdepth] at h
  exact h

/-! ## Files -/

/-- A path leads to a file that holds a text of a value. -/
def Contains (files : FileAccess Id) (p : Path) (v : Value) : Prop :=
  p.readable = true ∧ ∃ text, files.readBytes p.text = Except.ok (Text.bytes text) ∧ v.IsText text

theorem toOption_eq_some_iff {ε α : Type} {r : Except ε α} {x : α} :
    r.toOption = some x ↔ r = .ok x := by
  cases r <;> simp [Except.toOption]

section Files

variable {files : FileAccess Id} {p : Path} {t : TimingSettings}

/-- The settings that a file says, if it says any. -/
def found? (files : FileAccess Id) (p : Path) : Option TimingSettings :=
  (Except.toOption (files.readText p)).bind decode.run

theorem loadFrom_eq_found? : loadFrom files p = (found? files p).getD {} := rfl

/-- Settings are found in a file that contains a value which says them. -/
theorem found?_eq_some_iff : found? files p = some t
    ↔ ∃ v, Contains files p v ∧ Accepted v ∧ Says v t := by
  have hread {text : String} : Except.toOption (files.readText p) = some text
      ↔ p.readable = true ∧ files.readBytes p.text = Except.ok (Text.bytes text) :=
    toOption_eq_some_iff.trans FileAccess.readText_eq_ok_iff
  rw [found?, Option.bind_eq_some_iff]
  simp only [hread, run_eq_some_iff, Contains]
  constructor
  · rintro ⟨text, ⟨hp, hread⟩, v, hv, hsays⟩
    exact ⟨v, ⟨hp, text, hread, hv⟩, hsays⟩
  · rintro ⟨v, ⟨hp, text, hread, hv⟩, hsays⟩
    exact ⟨text, ⟨hp, hread⟩, v, hv, hsays⟩

/-- A file that says no settings holds no accepted value. -/
theorem found?_eq_none_iff : found? files p = none ↔ ∀ v, Contains files p v → ¬ Accepted v := by
  constructor
  · rintro hnone v ⟨hp, text, hread, hv⟩ haccepted
    obtain ⟨t, ht⟩ := exists_run hv haccepted
    rw [found?, FileAccess.readText_eq_ok_iff.mpr ⟨hp, hread⟩] at hnone
    exact absurd (hnone.symm.trans ht) (by simp)
  · intro hnone
    cases hfound : found? files p with
    | none => rfl
    | some t =>
      obtain ⟨v, hv, haccepted, -⟩ := found?_eq_some_iff.mp hfound
      exact absurd haccepted (hnone v hv)

/-- **A file is loaded as a whole or not at all**: it says all settings that are loaded, or they are
as they are without a file. -/
theorem loadFrom_eq_iff : loadFrom files p = t
    ↔ (∃ v, Contains files p v ∧ Accepted v ∧ Says v t)
      ∨ ((∀ v, Contains files p v → ¬ Accepted v) ∧ t = {}) := by
  rw [loadFrom_eq_found?, ← found?_eq_some_iff, ← found?_eq_none_iff]
  cases found? files p with
  | none => simp [eq_comm]
  | some t' => simp

example : load (some "[250]") = { pollInterval := 250 } ∧ load (some "[250, -1]") = {} := by
  decide +kernel

/-- Settings are saved by writing their bytes to the file. -/
theorem saveTo?_eq_some_iff {d saved : Disk} : t.saveTo? d p = some saved
    ↔ p.readable = true ∧ d.writeBytes? p.text (Text.bytes t.save) = some saved := by
  rw [saveTo?]
  cases p.readable with
  | false => simp
  | true => simp [Text.bytes]

/-- **Settings are loaded from the file to which they were saved.** -/
theorem loadFrom_of_saveTo? {d saved : Disk} (h : t.saveTo? d p = some saved) :
    loadFrom saved.access p = t := by
  obtain ⟨hp, hwrite⟩ := saveTo?_eq_some_iff.mp h
  have hread : saved.access.readText p = Except.ok t.save :=
    FileAccess.readText_eq_ok_iff.mpr ⟨hp, Disk.readBytes_of_writeBytes? hwrite⟩
  rw [loadFrom_eq_found?, found?, hread]
  show (decode.run t.save).getD {} = t
  rw [run_save]
  rfl

/-- Settings can be saved wherever a path names a file in a directory, whatever they are. -/
theorem exists_saveTo?_iff {d : Disk} : (∃ saved, t.saveTo? d p = some saved)
    ↔ p.readable = true ∧ ∃ parent name, d.Names p.text parent name := by
  simp only [saveTo?_eq_some_iff, Disk.writeBytes?_eq_some_iff, exists_and_left]
  refine and_congr_right fun _ => ⟨?_, ?_⟩
  · rintro ⟨saved, parent, name, hnames, -⟩
    exact ⟨parent, name, hnames⟩
  · rintro ⟨parent, name, hnames⟩
    exact ⟨_, parent, name, hnames, rfl⟩

/-- **Timing settings are kept as they are, and never half of them.** They can be saved wherever a
path names a file. What is loaded from there are the settings that were saved, and to save them
again leaves the same text. What is loaded from any other file are the settings that it says, if it
holds an accepted value, and otherwise those without a file. -/
theorem persist_whole :
    (∀ (t : TimingSettings) (d : Disk) (p : Path), (∃ saved, t.saveTo? d p = some saved)
      ↔ p.readable = true ∧ ∃ parent name, d.Names p.text parent name)
    ∧ (∀ (t : TimingSettings) (d saved : Disk) (p : Path), t.saveTo? d p = some saved →
      loadFrom saved.access p = t
        ∧ saved.readBytes p.text = .ok (Text.bytes t.save)
        ∧ ∃ again, (loadFrom saved.access p).saveTo? saved p = some again
          ∧ again.readBytes p.text = saved.readBytes p.text)
    ∧ ∀ (files : FileAccess Id) (p : Path) (t : TimingSettings), loadFrom files p = t
      ↔ (∃ v, Contains files p v ∧ Accepted v ∧ Says v t)
        ∨ ((∀ v, Contains files p v → ¬ Accepted v) ∧ t = {}) := by
  refine ⟨fun t d p => exists_saveTo?_iff, fun t d saved p h => ?_,
    fun files p t => loadFrom_eq_iff⟩
  have hload := loadFrom_of_saveTo? h
  obtain ⟨hp, hwrite⟩ := saveTo?_eq_some_iff.mp h
  have hread := Disk.readBytes_of_writeBytes? hwrite
  obtain ⟨again, hagain⟩ := Disk.exists_writeBytes? hwrite (Text.bytes t.save)
  refine ⟨hload, hread, again, ?_, ?_⟩
  · rw [hload]
    exact saveTo?_eq_some_iff.mpr ⟨hp, hagain⟩
  · rw [hread, Disk.readBytes_of_writeBytes? hagain]

/-- The greatest pause is saved in place of a file with nothing but an opening brace, which said no
settings. -/
theorem persist_whole_over_broken_file : ∃ d saved : Disk,
    loadFrom d.access (.ofText "./timing.json") = ({} : TimingSettings)
      ∧ ({ backoff := 18446744073709551615 } : TimingSettings).saveTo? d (.ofText "./timing.json")
        = some saved
      ∧ loadFrom saved.access (.ofText "./timing.json") = { backoff := 18446744073709551615 }
      ∧ ∃ v, Contains saved.access (.ofText "./timing.json") v ∧ Accepted v
        ∧ Says v { backoff := 18446744073709551615 } := by
  let d : Disk := ⟨[(["home", "timing.json"], [0x7B])], [], ["home"]⟩
  have hplace : d.placeToWrite? "./timing.json" = some ["home", "timing.json"] := by decide +kernel
  have hbroken : loadFrom d.access (.ofText "./timing.json") = ({} : TimingSettings) := by
    have hnone : found? d.access (.ofText "./timing.json") = none := by decide +kernel
    rw [loadFrom_eq_found?, hnone]
    rfl
  have hsave : ({ backoff := 18446744073709551615 } : TimingSettings).saveTo? d
      (.ofText "./timing.json") = some _ :=
    saveTo?_eq_some_iff.mpr ⟨rfl, congrArg (Option.map _) hplace⟩
  obtain ⟨-, hsaved, hloaded⟩ := persist_whole
  have hload := (hsaved _ _ _ _ hsave).1
  rcases (hloaded _ _ _).mp hload with hsays | ⟨-, hstandard⟩
  · exact ⟨d, _, hbroken, hsave, hload, hsays⟩
  · exact absurd hstandard (by decide)

end Files

end GuiTest.TimingSettings
