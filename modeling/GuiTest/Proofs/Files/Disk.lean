import GuiTest.Files.Disk
import GuiTest.Proofs.Text.Utf8
import Mathlib.Data.List.Basic

/-!
# What is written to a disk is read from it

To write a file changes no other (`lookup_put`), and every way that led somewhere still leads there
(`step_put`), for what becomes a file was no directory. So the path by which a file was written
leads to it (`readBytes_of_writeBytes?`), and can be written by again (`exists_writeBytes?`). What
is read as a text is the text whose bytes are there (`FileAccess.readText_eq_ok_iff`).
-/

namespace GuiTest.Disk

variable {d d' : Disk} {path : String} {bytes : List UInt8} {place q r : Place}

/-- The disk with a file of these bytes at a place. -/
def put (d : Disk) (place : Place) (bytes : List UInt8) : Disk :=
  { d with files := (place, bytes) :: d.files.filter (·.1 != place) }

theorem lookup_filter_ne (files : List (Place × List UInt8)) (h : q ≠ place) :
    (files.filter (·.1 != place)).lookup q = files.lookup q := by
  have htest : (q == place) = false := beq_eq_false_iff_ne.mpr h
  induction files with
  | nil => rfl
  | cons file files ih =>
    obtain ⟨p, content⟩ := file
    by_cases hp : p = place
    · subst hp
      simp [List.lookup_cons, htest, ih]
    · simp [List.lookup_cons, hp, ih]

/-- Each file is what it was, but for the one that is written. -/
theorem lookup_put (d : Disk) (place q : Place) (bytes : List UInt8) :
    (d.put place bytes).files.lookup q = if q = place then some bytes else d.files.lookup q := by
  by_cases hq : q = place
  · subst hq
    simp [put]
  · have htest : (q == place) = false := beq_eq_false_iff_ne.mpr hq
    rw [if_neg hq, put, List.lookup_cons, htest]
    exact lookup_filter_ne d.files hq

/-- What was on the way to something still is. -/
theorem isOnTheWay_put (h : d.isOnTheWay q = true) (place : Place) (bytes : List UInt8) :
    (d.put place bytes).isOnTheWay q = true := by
  rw [isOnTheWay, Bool.or_eq_true] at h ⊢
  refine h.imp_right fun hfile => ?_
  obtain ⟨⟨p, content⟩, hmem, hp⟩ := List.any_eq_true.mp hfile
  by_cases hplace : p = place
  · subst hplace
    exact List.any_eq_true.mpr ⟨(p, bytes), List.mem_cons_self, hp⟩
  · have hkept : (p, content) ∈ d.files.filter (·.1 != place) :=
      List.mem_filter.mpr ⟨hmem, by simpa using hplace⟩
    exact List.any_eq_true.mpr ⟨(p, content), List.mem_cons_of_mem _ hkept, hp⟩

theorem kindAt?_put_self (d : Disk) (place : Place) (bytes : List UInt8) :
    (d.put place bytes).kindAt? place = some .file := by
  rw [kindAt?, lookup_put, if_pos rfl]
  rfl

/-- A file is written where no directory is, so what stood somewhere is still of its kind. -/
theorem kindAt?_put {kind : FileKind} (h : d.kindAt? q = some kind)
    (hplace : d.kindAt? place ≠ some .directory) (bytes : List UInt8) :
    (d.put place bytes).kindAt? q = some kind := by
  by_cases hq : q = place
  · subst hq
    rw [kindAt?_put_self]
    cases kind with
    | file => rfl
    | directory => exact absurd h hplace
  · unfold kindAt? at h ⊢
    rw [lookup_put, if_neg hq]
    split at h
    next hfile => rw [if_pos hfile, h]
    next hfile =>
      split at h
      next hway => rw [if_neg hfile, if_pos (isOnTheWay_put hway place bytes), h]
      next => cases h

/-- **Every way that led somewhere still leads there.** -/
theorem step_put {part : String} (h : d.step q part = .ok r)
    (hplace : d.kindAt? place ≠ some .directory) (bytes : List UInt8) :
    (d.put place bytes).step q part = .ok r := by
  unfold step at h ⊢
  split at h
  next => cases h
  next => cases h
  next hdir =>
    rw [kindAt?_put hdir hplace bytes]
    dsimp only
    split at h
    next hstay => rw [if_pos hstay, h]
    next hstay =>
      split at h
      next hup => rw [if_neg hstay, if_pos hup, h]
      next hup =>
        split at h
        next kind hkind => rw [if_neg hstay, if_neg hup, kindAt?_put hkind hplace bytes, h]
        next => cases h

/-- So does a way of several parts. -/
theorem foldlM_put {parts : List String} (h : parts.foldlM d.step q = .ok r)
    (hplace : d.kindAt? place ≠ some .directory) (bytes : List UInt8) :
    parts.foldlM (d.put place bytes).step q = .ok r := by
  induction parts generalizing q with
  | nil => exact h
  | cons part parts ih =>
    rw [List.foldlM_cons] at h ⊢
    cases hstep : d.step q part with
    | error fault =>
      rw [hstep] at h
      cases h
    | ok next =>
      rw [hstep] at h
      rw [step_put hstep hplace bytes]
      exact ih h

/-- The parts of a path. -/
def parts (path : String) : List String :=
  (Text.splitBy (· == '/') path.toList).map String.ofList

/-- Where a path begins. -/
def origin (d : Disk) (path : String) : Place := if Path.isAbsolute path then [] else d.workdir

/-- A path names a file in a directory: the other parts of the path lead to the directory, and the
last is a name there that no directory has. -/
structure Names (d : Disk) (path : String) (parent : Place) (name : String) : Prop where
  last : (parts path).getLast? = some name
  way : (parts path).dropLast.foldlM d.step (d.origin path) = Except.ok parent
  proper : ¬ (name = "" ∨ name = "." ∨ name = "..")
  inside : d.kindAt? parent = some .directory
  free : d.kindAt? (parent ++ [name]) ≠ some .directory

theorem placeToWrite?_eq_some_iff : d.placeToWrite? path = some place
    ↔ ∃ parent name, d.Names path parent name ∧ parent ++ [name] = place := by
  simp only [placeToWrite?, Option.bind_eq_bind, Option.bind_eq_some_iff]
  constructor
  · rintro ⟨parent, hway, name, hlast, h⟩
    split at h
    next => cases h
    next hgood =>
      cases h
      simp only [not_or, not_not] at hgood
      obtain ⟨hempty, hdot, hdots, hinside, hfree⟩ := hgood
      refine ⟨parent, name, ⟨hlast, ?_, by simp [hempty, hdot, hdots], hinside, hfree⟩, rfl⟩
      rw [parts, origin]
      cases hfold : List.foldlM d.step _ _ with
      | error fault =>
        rw [hfold] at hway
        cases hway
      | ok there =>
        rw [hfold] at hway
        cases hway
        rfl
  · rintro ⟨parent, name, h, rfl⟩
    have hway := h.way
    rw [parts, origin] at hway
    obtain ⟨hempty, hdot, hdots⟩ : name ≠ "" ∧ name ≠ "." ∧ name ≠ ".." := by
      simpa only [not_or] using h.proper
    refine ⟨parent, by rw [hway]; rfl, name, h.last, ?_⟩
    simp [hempty, hdot, hdots, h.inside, h.free]

/-- A path still names the file once it is written. -/
theorem Names.put {parent : Place} {name : String} (h : d.Names path parent name)
    (bytes : List UInt8) : (d.put (parent ++ [name]) bytes).Names path parent name where
  last := h.last
  way := foldlM_put h.way h.free bytes
  proper := h.proper
  inside := kindAt?_put h.inside h.free bytes
  free := by
    rw [kindAt?_put_self]
    exact fun h => by cases h

/-- A path leads to the file that it names, if it is there. -/
theorem Names.resolve {parent : Place} {name : String} (h : d.Names path parent name)
    (hfile : d.kindAt? (parent ++ [name]) = some .file) :
    d.resolve path = .ok (parent ++ [name]) := by
  have hparts : (parts path).dropLast ++ [name] = parts path :=
    List.dropLast_append_getLast? name h.last
  have hpath : path ≠ "" := by
    rintro rfl
    exact h.proper (Or.inl (Option.some.inj h.last).symm)
  obtain ⟨hempty, hdot, hdots⟩ : name ≠ "" ∧ name ≠ "." ∧ name ≠ ".." := by
    simpa only [not_or] using h.proper
  have hstep : d.step parent name = .ok (parent ++ [name]) := by
    simp [step, h.inside, hempty, hdot, hdots, hfile]
  rw [Disk.resolve, if_neg hpath]
  show (parts path).foldlM d.step (d.origin path) = _
  rw [← hparts, List.foldlM_append, h.way]
  show [name].foldlM d.step parent = _
  rw [List.foldlM_cons, hstep]
  rfl

/-- A disk is written by a path that names a file. -/
theorem writeBytes?_eq_some_iff : d.writeBytes? path bytes = some d'
    ↔ ∃ parent name, d.Names path parent name ∧ d.put (parent ++ [name]) bytes = d' := by
  rw [writeBytes?, Option.map_eq_some_iff]
  constructor
  · rintro ⟨place, hplace, rfl⟩
    obtain ⟨parent, name, h, rfl⟩ := placeToWrite?_eq_some_iff.mp hplace
    exact ⟨parent, name, h, rfl⟩
  · rintro ⟨parent, name, h, rfl⟩
    exact ⟨_, placeToWrite?_eq_some_iff.mpr ⟨parent, name, h, rfl⟩, rfl⟩

/-- **What was written is read.** -/
theorem readBytes_of_writeBytes? (h : d.writeBytes? path bytes = some d') :
    d'.readBytes path = .ok bytes := by
  obtain ⟨parent, name, hnames, rfl⟩ := writeBytes?_eq_some_iff.mp h
  rw [readBytes, (hnames.put bytes).resolve (kindAt?_put_self ..)]
  dsimp only
  rw [lookup_put, if_pos rfl]

/-- **Where a file was written, one can be written again.** -/
theorem exists_writeBytes? (h : d.writeBytes? path bytes = some d') (bytes' : List UInt8) :
    ∃ d'', d'.writeBytes? path bytes' = some d'' := by
  obtain ⟨parent, name, hnames, rfl⟩ := writeBytes?_eq_some_iff.mp h
  exact ⟨_, writeBytes?_eq_some_iff.mpr ⟨parent, name, hnames.put bytes, rfl⟩⟩

end GuiTest.Disk

namespace GuiTest.FileAccess

/-- A file is read as a text if and only if it holds the bytes of that text. -/
theorem readText_eq_ok_iff {files : FileAccess Id} {p : Path} {text : String} :
    files.readText p = Except.ok text
      ↔ p.readable = true ∧ files.readBytes p.text = Except.ok (Text.bytes text) := by
  unfold readText
  cases p.readable with
  | false =>
    show Except.error ReadFault.notFound = Except.ok text ↔ _
    simp
  | true =>
    cases files.readBytes p.text with
    | error fault =>
      show Except.error fault = Except.ok text ↔ true = true ∧ Except.error fault = Except.ok _
      simp
    | ok bytes =>
      rw [if_pos rfl]
      dsimp only [bind]
      rw [Except.ok.injEq, ← Text.Utf8.decode?_eq_some_iff]
      cases Text.Utf8.decode? bytes with
      | none =>
        show Except.error ReadFault.notText = Except.ok text ↔ true = true ∧ none = some text
        simp
      | some found =>
        show Except.ok found = Except.ok text ↔ true = true ∧ some found = some text
        simp

end GuiTest.FileAccess
