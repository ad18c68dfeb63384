import Mathlib.Data.List.Basic
import GuiTest.Locator.Basic

/-!
# What a description tells

The description of a locator can be read back, although the texts in it may hold blanks, braces and
whatever else stands between its parts: each part says by its beginning where it ends, be it at the
next quote, slash or parenthesis or after the last digit. So it is known what was written, no matter
what follows (`Readable`), of a part, then of parts in a level, then of levels in a chain
(`Readable.joinWith`). It takes no more than that no text holds the mark that ends it
(`Criterion.Plain`); `describe_eq_iff` is the result.
-/

namespace GuiTest

/-! ## Texts that can be read back -/

/-- No digit follows. -/
def NoDigit (rest : List Char) : Prop := ∀ c ∈ rest.head?, c.isDigit = false

/-- What is written for the items that satisfy `P` tells for which of them it was written, and where
it ends, unless a digit follows. -/
def Readable {α : Type} (P : α → Prop) (write : α → List Char) : Prop :=
  ∀ a b r s, P a → P b → NoDigit r → NoDigit s → write a ++ r = write b ++ s → a = b ∧ r = s

theorem noDigit_cons {c : Char} (hc : c.isDigit = false) (rest : List Char) :
    NoDigit (c :: rest) := by
  intro d hd
  obtain rfl := Option.some.inj hd
  exact hc

/-- Characters of a class end where the first one comes that is not of the class. -/
theorem append_inj_of_class (K : Char → Bool) {x y r s : List Char} (hx : ∀ c ∈ x, K c = true)
    (hy : ∀ c ∈ y, K c = true) (hr : ∀ c ∈ r.head?, K c = false) (hs : ∀ c ∈ s.head?, K c = false)
    (h : x ++ r = y ++ s) : x = y ∧ r = s := by
  have htake (z t : List Char) (hz : ∀ c ∈ z, K c = true) (ht : ∀ c ∈ t.head?, K c = false) :
      (z ++ t).takeWhile K = z := by
    rw [List.takeWhile_append_of_pos hz]
    cases t with
    | nil => rw [List.takeWhile_nil, List.append_nil]
    | cons c t => rw [List.takeWhile_cons_of_neg (by rw [ht c rfl]; decide), List.append_nil]
  have hxy : x = y := by rw [← htake x r hx hr, h, htake y s hy hs]
  subst hxy
  exact ⟨rfl, List.append_cancel_left h⟩

namespace Readable

variable {α : Type} {P : α → Prop} {write : α → List Char} {c : Char} {separator r s : List Char}
  {as bs : List α}

/-- What stands after the first item of a row. -/
def more (write : α → List Char) (separator : List Char) (as : List α) : List Char :=
  as.flatMap fun a => separator ++ write a

theorem more_cons (separator : List Char) (a : α) (as : List α) :
    more write separator (a :: as) = separator ++ (write a ++ more write separator as) := by
  unfold more
  rw [List.flatMap_cons, List.append_assoc]

theorem more_cons_append (a : α) (as : List α) :
    more write (c :: separator) (a :: as) ++ r
      = c :: (separator ++ (write a ++ (more write (c :: separator) as ++ r))) := by
  rw [more_cons, List.append_assoc, List.append_assoc, List.cons_append]

theorem joinWith_cons (separator : List Char) (a : α) (as : List α) :
    Text.joinWith separator ((a :: as).map write) = write a ++ more write separator as := by
  induction as generalizing a with
  | nil => exact (List.append_nil _).symm
  | cons b as ih =>
    have hne : (b :: as).map write ≠ [] := List.cons_ne_nil _ _
    rw [List.map_cons, Text.joinWith_cons _ _ hne, ih, more_cons, List.append_assoc]

/-- No digit follows the first item of a row, if none begins a separator or what follows the row. -/
theorem noDigit_more (hc : c.isDigit = false) (hr : NoDigit r) (as : List α) :
    NoDigit (more write (c :: separator) as ++ r) := by
  cases as with
  | nil => exact hr
  | cons a as =>
    rw [more_cons_append]
    exact noDigit_cons hc _

/-- A row goes on where a separator begins. -/
theorem more_inj (hw : Readable P write) (hc : c.isDigit = false) (has : ∀ a ∈ as, P a)
    (hbs : ∀ b ∈ bs, P b) (hr : NoDigit r) (hs : NoDigit s) (hrc : r.head? ≠ some c)
    (hsc : s.head? ≠ some c)
    (h : more write (c :: separator) as ++ r = more write (c :: separator) bs ++ s) :
    as = bs ∧ r = s := by
  -- Neither row is followed by a separator, so the one ends where the other does.
  induction as generalizing bs with
  | nil =>
    cases bs with
    | nil => exact ⟨rfl, h⟩
    | cons b bs =>
      rw [more_cons_append] at h
      exact absurd (congrArg List.head? h) hrc
  | cons a as ih =>
    rw [more_cons_append] at h
    cases bs with
    | nil => exact absurd (congrArg List.head? h.symm) hsc
    | cons b bs =>
      rw [more_cons_append] at h
      obtain ⟨ha, has'⟩ := List.forall_mem_cons.mp has
      obtain ⟨hb, hbs'⟩ := List.forall_mem_cons.mp hbs
      have hitem := List.append_cancel_left (List.cons.inj h).2
      obtain ⟨rfl, hrest⟩ :=
        hw a b _ _ ha hb (noDigit_more hc hr as) (noDigit_more hc hs bs) hitem
      rw [List.cons_inj_right]
      exact ih has' hbs' hrest

/-- **Items in a row can be read back** if the row is ended by something else than a separator or an
item. -/
theorem joinWith (hw : Readable P write) (stop : Option Char) (hc : c.isDigit = false)
    (hstop : ∀ d ∈ stop, d.isDigit = false) (hne : stop ≠ some c)
    (hwrite : ∀ a x, P a → (write a ++ x).head? ≠ stop) (has : ∀ a ∈ as, P a) (hbs : ∀ b ∈ bs, P b)
    (hr : r.head? = stop) (hs : s.head? = stop)
    (h : Text.joinWith (c :: separator) (as.map write) ++ r
      = Text.joinWith (c :: separator) (bs.map write) ++ s) : as = bs ∧ r = s := by
  have hnoDigit {t : List Char} (ht : t.head? = stop) : NoDigit t := by
    intro d hd
    rw [ht] at hd
    exact hstop d hd
  cases as with
  | nil =>
    cases bs with
    | nil => exact ⟨rfl, h⟩
    | cons b bs =>
      -- The one row begins with an item, the other is over.
      rw [joinWith_cons, List.append_assoc] at h
      exact absurd ((congrArg List.head? h).symm.trans hr) (hwrite b _ (hbs b List.mem_cons_self))
  | cons a as =>
    rw [joinWith_cons, List.append_assoc] at h
    cases bs with
    | nil => exact absurd ((congrArg List.head? h).trans hs) (hwrite a _ (has a List.mem_cons_self))
    | cons b bs =>
      rw [joinWith_cons, List.append_assoc] at h
      obtain ⟨ha, has'⟩ := List.forall_mem_cons.mp has
      obtain ⟨hb, hbs'⟩ := List.forall_mem_cons.mp hbs
      obtain ⟨rfl, hmore⟩ := hw a b _ _ ha hb (noDigit_more hc (hnoDigit hr) as)
        (noDigit_more hc (hnoDigit hs) bs) h
      rw [List.cons_inj_right]
      exact hw.more_inj hc has' hbs' (hnoDigit hr) (hnoDigit hs) (hr ▸ hne) (hs ▸ hne) hmore

end Readable

/-! ## Parts of a level -/

namespace Locator

/-- Something that is written in the description of a level. -/
inductive Part where
  | criterion (c : Criterion)
  | occurrence (n : UInt32)

/-- The ways in which parts are written. -/
inductive Form where
  | kind
  | exact
  | wildcard
  | regex
  | name
  | id
  | className
  | cell
  | occurrence
  deriving DecidableEq

namespace Form

/-- What a part of this form begins with. -/
def opening : Form → List Char
  | kind => "type='".toList
  | exact => "text='".toList
  | wildcard => "text~'".toList
  | regex => "text=/".toList
  | name => "name='".toList
  | id => "id='".toList
  | className => "class='".toList
  | cell => "cell=(".toList
  | occurrence => "occurrence=".toList

/-- What a part of this form ends with. -/
def closing : Form → List Char
  | regex => ['/']
  | cell => [')']
  | occurrence => []
  | _ => ['\'']

/-- The characters that may stand between. -/
def admits : Form → Char → Bool
  | regex, c => c ≠ '/'
  | cell, c => c ≠ ')'
  | occurrence, c => c.isDigit
  | _, c => c ≠ '\''

/-- The beginning of a part tells its form: no opening is the beginning of another one. -/
theorem eq_of_isPrefix {f g : Form} : f.opening <+: g.opening → f = g := by
  cases f <;> cases g <;> decide

/-- **The beginning of a part tells its form.** -/
theorem opening_inj {f g : Form} {r s : List Char} (h : f.opening ++ r = g.opening ++ s) :
    f = g := by
  have hf : f.opening <+: g.opening ++ s := h ▸ List.prefix_append _ _
  rcases List.prefix_or_prefix_of_prefix hf (List.prefix_append _ _) with hfg | hgf
  · exact eq_of_isPrefix hfg
  · exact (eq_of_isPrefix hgf).symm

/-- What is between ends with the closing mark, or before what is no digit. -/
theorem not_admits_closing (f : Form) {r : List Char} (hr : NoDigit r) :
    ∀ c ∈ (f.closing ++ r).head?, f.admits c = false := by
  intro c hc
  cases f
  case occurrence => exact hr c hc
  all_goals
    obtain rfl := Option.some.inj hc
    rfl

end Form

namespace Part

/-- The form of a part. -/
def form : Part → Form
  | criterion (.kind _) => .kind
  | criterion (.text (.exact _)) => .exact
  | criterion (.text (.wildcard _)) => .wildcard
  | criterion (.text (.regex _)) => .regex
  | criterion (.name _) => .name
  | criterion (.id _) => .id
  | criterion (.className _) => .className
  | criterion (.cell _ _) => .cell
  | occurrence _ => .occurrence

/-- What stands between the opening and the closing of a part. -/
def body : Part → List Char
  | criterion (.kind k) => k.toList
  | criterion (.text m) => m.source.toList
  | criterion (.name n) => n.toList
  | criterion (.id i) => i.toList
  | criterion (.className c) => c.toList
  | criterion (.cell row column) =>
    Nat.toDigits 10 row.toNat ++ ',' :: Nat.toDigits 10 column.toNat
  | occurrence n => Nat.toDigits 10 n.toNat

/-- What is written for a part. -/
def write (part : Part) : List Char := part.form.opening ++ (part.body ++ part.form.closing)

theorem write_criterion (c : Criterion) : (criterion c).write = c.describe.toList := by
  cases c
  case cell row column =>
    show _ = ("cell=(" ++ toString row.toNat ++ "," ++ toString column.toNat ++ ")").toList
    rw [Nat.toString_eq_ofList_toDigits, Nat.toString_eq_ofList_toDigits]
    simp only [String.toList_append, String.toList_ofList, List.append_assoc]
    show _ ++ ((_ ++ _) ++ _) = _
    rw [List.append_assoc]
    rfl
  case text m =>
    cases m
    all_goals
      unfold Criterion.describe TextMatch.describe
      rw [String.toList_append, String.toList_append, List.append_assoc]
      rfl
  all_goals
    unfold Criterion.describe
    rw [String.toList_append, String.toList_append, List.append_assoc]
    rfl

theorem write_occurrence (n : UInt32) :
    (occurrence n).write = ("occurrence=" ++ toString n.toNat).toList := by
  rw [Nat.toString_eq_ofList_toDigits, String.toList_append]
  show "occurrence=".toList ++ (Nat.toDigits 10 n.toNat ++ []) = _
  rw [List.append_nil]
  exact congrArg (_ ++ ·) String.toList_ofList.symm

end Part

end Locator

namespace TextMatch

/-- The text holds no mark that ends it in a description. -/
def Plain : TextMatch → Prop
  | exact text => '\'' ∉ text.toList
  | wildcard pattern => '\'' ∉ pattern.toList
  | regex expression => '/' ∉ expression.source.toList

instance : DecidablePred Plain
  | exact _ | wildcard _ | regex _ => inferInstanceAs (Decidable (_ ∉ _))

end TextMatch

namespace Criterion

/-- The text in a criterion holds no mark that ends it in a description. -/
def Plain : Criterion → Prop
  | kind k => '\'' ∉ k.toList
  | text m => m.Plain
  | name n => '\'' ∉ n.toList
  | id i => '\'' ∉ i.toList
  | className c => '\'' ∉ c.toList
  | cell _ _ => True

instance : DecidablePred Plain
  | kind _ | name _ | id _ | className _ => inferInstanceAs (Decidable (_ ∉ _))
  | text m => inferInstanceAs (Decidable m.Plain)
  | cell _ _ => .isTrue trivial

end Criterion

namespace Locator

namespace Part

/-- A part without the marks that end one. -/
def Plain : Part → Prop
  | criterion c => c.Plain
  | occurrence _ => True

/-- Digits tell the number. -/
theorem toDigits_inj {m n : UInt32} (h : Nat.toDigits 10 m.toNat = Nat.toDigits 10 n.toNat) :
    m = n := by
  have hdigits (k : Nat) : Nat.ofDigitChars 10 (Nat.toDigits 10 k) 0 = k :=
    Nat.ofDigitChars_toDigits (by decide) (by decide)
  rw [← UInt32.toNat_inj, ← hdigits m.toNat, h, hdigits]

theorem isDigit_of_mem_toDigits {n : Nat} {c : Char} (h : c ∈ Nat.toDigits 10 n) :
    c.isDigit = true :=
  Nat.isDigit_of_mem_toDigits (by decide) (by decide) h

/-- Whatever stands in a plain part is admitted there. -/
theorem Plain.admits {part : Part} (h : part.Plain) :
    ∀ c ∈ part.body, part.form.admits c = true := by
  have hmark {mark : Char} {text : List Char} (hmem : mark ∉ text) :
      ∀ c ∈ text, decide (c ≠ mark) = true := by
    intro c hc
    exact decide_eq_true fun heq => hmem (heq ▸ hc)
  match part, h with
  | criterion (.kind _), h => exact hmark h
  | criterion (.text (.exact _)), h => exact hmark h
  | criterion (.text (.wildcard _)), h => exact hmark h
  | criterion (.text (.regex _)), h => exact hmark h
  | criterion (.name _), h => exact hmark h
  | criterion (.id _), h => exact hmark h
  | criterion (.className _), h => exact hmark h
  | criterion (.cell row column), _ =>
    refine hmark fun hmem => ?_
    rcases List.mem_append.mp hmem with hrow | hcolumn
    · cases isDigit_of_mem_toDigits hrow
    · rcases List.mem_cons.mp hcolumn with hcomma | hcolumn
      · cases hcomma
      · cases isDigit_of_mem_toDigits hcolumn
  | occurrence n, _ => exact fun c hc => isDigit_of_mem_toDigits hc

/-- A part is told by its form and by what stands in it. -/
theorem eq_of_form_body : ∀ {a b : Part}, a.form = b.form → a.body = b.body → a = b
  | criterion (.kind _), criterion (.kind _), _, h =>
    congrArg (criterion ∘ .kind) (String.toList_inj.mp h)
  | criterion (.text (.exact _)), criterion (.text (.exact _)), _, h =>
    congrArg (criterion ∘ .text ∘ .exact) (String.toList_inj.mp h)
  | criterion (.text (.wildcard _)), criterion (.text (.wildcard _)), _, h =>
    congrArg (criterion ∘ .text ∘ .wildcard) (String.toList_inj.mp h)
  | criterion (.text (.regex _)), criterion (.text (.regex _)), _, h =>
    congrArg (criterion ∘ .text ∘ .regex) (Regex.Whole.ext_source (String.toList_inj.mp h))
  | criterion (.name _), criterion (.name _), _, h =>
    congrArg (criterion ∘ .name) (String.toList_inj.mp h)
  | criterion (.id _), criterion (.id _), _, h =>
    congrArg (criterion ∘ .id) (String.toList_inj.mp h)
  | criterion (.className _), criterion (.className _), _, h =>
    congrArg (criterion ∘ .className) (String.toList_inj.mp h)
  | criterion (.cell _ _), criterion (.cell _ _), _, h => by
    have hcomma (n : Nat) : ',' ∉ Nat.toDigits 10 n := fun hmem => by
      cases isDigit_of_mem_toDigits hmem
    obtain ⟨hrow, -, hcolumn⟩ :=
      (List.append_cons_inj_of_notMem (hcomma _) (hcomma _)).mp h
    rw [toDigits_inj hrow, toDigits_inj hcolumn]
  | occurrence _, occurrence _, _, h => congrArg occurrence (toDigits_inj h)

/-- **What is written for a plain part can be read back.** -/
theorem readable : Readable Plain write := by
  intro a b r s ha hb hr hs h
  simp only [write, List.append_assoc] at h
  have hform : a.form = b.form := Form.opening_inj h
  rw [hform] at h
  have hrest := List.append_cancel_left h
  have hadmits := ha.admits
  rw [hform] at hadmits
  obtain ⟨hbody, hclosing⟩ := append_inj_of_class b.form.admits hadmits hb.admits
    (b.form.not_admits_closing hr) (b.form.not_admits_closing hs) hrest
  exact ⟨eq_of_form_body hform hbody, List.append_cancel_left hclosing⟩

end Part

end Locator

/-! ## Levels and chains -/

namespace Level

/-- A level without the marks that end a part. -/
def Plain (level : Level) : Prop := ∀ c ∈ level.criteria, c.Plain

instance (level : Level) : Decidable level.Plain :=
  inferInstanceAs (Decidable (∀ c ∈ level.criteria, c.Plain))

/-- What is written of a level. -/
def parts (level : Level) : List Locator.Part :=
  level.criteria.map .criterion ++ level.occurrence.toList.map .occurrence

/-- What is written of a level tells the level. -/
theorem parts_inj {a b : Level} (h : a.parts = b.parts) : a = b := by
  obtain ⟨as, m⟩ := a
  obtain ⟨bs, n⟩ := b
  simp only [parts] at h
  induction as generalizing bs with
  | nil =>
    cases bs with
    | nil => cases m <;> cases n <;> simp_all
    | cons b bs => cases m <;> simp_all
  | cons a as ih =>
    cases bs with
    | nil => cases n <;> simp_all
    | cons b bs =>
      obtain ⟨hab, hrest⟩ := List.cons.inj h
      cases hab
      cases ih bs hrest
      rfl

/-- The parts of a plain level are plain. -/
theorem Plain.parts {level : Level} (h : level.Plain) : ∀ part ∈ level.parts, part.Plain := by
  intro part hpart
  rcases List.mem_append.mp hpart with hcriterion | hoccurrence
  · obtain ⟨c, hc, rfl⟩ := List.mem_map.mp hcriterion
    exact h c hc
  · obtain ⟨n, -, rfl⟩ := List.mem_map.mp hoccurrence
    trivial

/-- A level is written as its parts between braces. -/
theorem toList_describe (level : Level) :
    level.describe.toList
      = '\x7b' :: (Text.joinWith [' '] (level.parts.map Locator.Part.write) ++ ['\x7d']) := by
  have hcriteria : level.criteria.map (String.toList ∘ Criterion.describe)
      = level.criteria.map (Locator.Part.write ∘ .criterion) :=
    List.map_congr_left fun c _ => (Locator.Part.write_criterion c).symm
  obtain ⟨criteria, occurrence⟩ := level
  cases occurrence with
  | none => simp [describe, parts, Text.join, hcriteria]
  | some n => simp [describe, parts, Text.join, hcriteria, Locator.Part.write_occurrence]

/-- **What is written for a plain level can be read back.** -/
theorem readable : Readable Plain (·.describe.toList) := by
  intro a b r s ha hb _ _ h
  -- A level is over where a brace stands in the place of a blank or of another part.
  have hbrace (part : Locator.Part) (x : List Char) (_ : part.Plain) :
      (part.write ++ x).head? ≠ some '\x7d' := by
    rw [Locator.Part.write, List.append_assoc]
    cases part.form <;> exact nofun
  dsimp only at h
  rw [toList_describe, toList_describe, List.cons_append, List.cons_append, List.append_assoc,
    List.append_assoc] at h
  obtain ⟨hparts, hrest⟩ := Locator.Part.readable.joinWith (some '\x7d') (by decide)
    (fun _ hd => Option.some.inj hd ▸ rfl) (by decide) hbrace ha.parts hb.parts rfl rfl
    (List.cons.inj h).2
  exact ⟨parts_inj hparts, (List.cons.inj hrest).2⟩

end Level

namespace Locator

theorem levels_inj {l m : Locator} (h : l.levels = m.levels) : l = m := by
  obtain ⟨own, containers⟩ := l
  obtain ⟨own', containers'⟩ := m
  cases h
  rfl

/-- A locator is written as its levels, from its own one outwards. -/
theorem toList_describe (l : Locator) :
    l.describe.toList = Text.joinWith [' ', 'i', 'n', ' '] (l.levels.map (·.describe.toList)) := by
  rw [describe, Text.join, String.toList_ofList, List.map_map]
  rfl

/-- **The description of a locator identifies it**, if no text in it holds the mark that ends it:
a quote, or for a regular expression a slash. -/
theorem describe_eq_iff (l m : Locator) (hl : ∀ level ∈ l.levels, level.Plain)
    (hm : ∀ level ∈ m.levels, level.Plain) : l.describe = m.describe ↔ l = m := by
  constructor
  · intro h
    have hlist := congrArg String.toList h
    rw [toList_describe, toList_describe, ← List.append_nil (Text.joinWith _ (l.levels.map _)),
      ← List.append_nil (Text.joinWith _ (m.levels.map _))] at hlist
    -- Nothing stands after the outermost level, so it is over where no level begins.
    have hbegins (level : Level) (x : List Char) (_ : level.Plain) :
        (level.describe.toList ++ x).head? ≠ none := by
      rw [Level.toList_describe]
      exact nofun
    exact levels_inj
      (Level.readable.joinWith none (by decide) nofun nofun hbegins hl hm rfl rfl hlist).1
  · intro h
    rw [h]

/-- Texts that look like the end of a level and the beginning of a container. -/
theorem describe_eq_iff_nested_text :
    let l : Locator :=
      ⟨⟨[.text (.exact "OK"), .name "a\x7d in \x7btype=Pane occurrence=1\x7d"], some 12⟩,
        [⟨[.text (.wildcard "OK"), .cell 1 23], none⟩]⟩
    let m : Locator :=
      ⟨⟨[.text (.exact "OK"), .name "a"], none⟩,
        [⟨[.kind "Pane"], some 1⟩, ⟨[.text (.wildcard "OK"), .cell 12 3], none⟩]⟩
    (∀ level ∈ l.levels, level.Plain) ∧ (∀ level ∈ m.levels, level.Plain)
      ∧ l ≠ m ∧ (l.describe = m.describe ↔ l = m) :=
  ⟨by decide, by decide, by decide, describe_eq_iff _ _ (by decide) (by decide)⟩

/-- A text with a quote in it can be taken for two criteria. -/
example :
    let l : Locator := ⟨⟨[.name "a' id='b"], none⟩, []⟩
    let m : Locator := ⟨⟨[.name "a", .id "b"], none⟩, []⟩
    l.describe = m.describe ∧ l ≠ m :=
  ⟨rfl, by decide⟩

end Locator

end GuiTest
