/-!
# White space, words and pieces of a text

`isBlank` is the property `White_Space`. Settings are trimmed by it (`trim`), version texts are
taken apart into words by it (`words`). `splitBy` keeps empty pieces: joining the pieces with the
separator gives the text back (`joinWith_splitBy`).
-/

namespace GuiTest.Text

/-- Whether a character is white space. -/
def isBlank (c : Char) : Bool :=
  ('\x09' ≤ c && c ≤ '\x0D') || c == ' ' || c == '\u0085' || c == '\u00A0' || c == '\u1680'
    || ('\u2000' ≤ c && c ≤ '\u200A') || c == '\u2028' || c == '\u2029' || c == '\u202F'
    || c == '\u205F' || c == '\u3000'

/-- Drops the characters at the end that satisfy `p`. -/
def dropEndWhile (p : Char → Bool) (cs : List Char) : List Char := (cs.reverse.dropWhile p).reverse

/-- Drops white space at both ends. -/
def trimChars (cs : List Char) : List Char := dropEndWhile isBlank (cs.dropWhile isBlank)

/-- Drops white space at both ends of a text. -/
def trim (s : String) : String := String.ofList (trimChars s.toList)

/-- Splits at every character, or other item, that satisfies `p`. The pieces between are kept, empty
ones too, so there is always at least one. -/
def splitBy {α : Type} (p : α → Bool) : List α → List (List α)
  | [] => [[]]
  | c :: cs =>
    if p c then [] :: splitBy p cs
    else
      match splitBy p cs with
      | [] => [[c]]
      | piece :: pieces => (c :: piece) :: pieces

/-- The words of a text: its longest pieces without white space. -/
def words (cs : List Char) : List (List Char) := (splitBy isBlank cs).filter (· ≠ [])

/-- What stands before and after the first separator, if there is one. -/
def splitAtFirst? {α : Type} [DecidableEq α] (separator : α) : List α → Option (List α × List α)
  | [] => none
  | c :: rest =>
    if c = separator then some ([], rest)
    else (splitAtFirst? separator rest).map fun (before, after) => (c :: before, after)

/-- Puts a separator between pieces. -/
def joinWith (separator : List Char) : List (List Char) → List Char
  | [] => []
  | [piece] => piece
  | piece :: pieces => piece ++ separator ++ joinWith separator pieces

/-- Puts a separator between texts. -/
def join (separator : String) (texts : List String) : String :=
  String.ofList (joinWith separator.toList (texts.map String.toList))

/-- What follows a leading text, if the characters start with it. -/
def dropLeading? : List Char → List Char → Option (List Char)
  | [], cs => some cs
  | l :: ls, c :: cs => if l = c then dropLeading? ls cs else none
  | _ :: _, [] => none

/-- Whether the second text starts with the first. -/
def startsWith (leading text : String) : Bool :=
  (dropLeading? leading.toList text.toList).isSome

/-- There is always a piece, if only an empty one. -/
theorem splitBy_ne_nil (p : Char → Bool) (cs : List Char) : splitBy p cs ≠ [] := by
  cases cs with
  | nil => simp [splitBy]
  | cons c cs =>
    simp only [splitBy]
    split
    · simp
    · split <;> simp

/-- No piece holds a separator. -/
theorem not_of_mem_splitBy {p : Char → Bool} {cs piece : List Char} (h : piece ∈ splitBy p cs) :
    ∀ c ∈ piece, p c = false := by
  induction cs generalizing piece with
  | nil => simp_all [splitBy]
  | cons d cs ih =>
    simp only [splitBy] at h
    split at h
    · rcases List.mem_cons.1 h with rfl | h
      · simp
      · exact ih h
    · rename_i hd
      split at h
      · simp_all
      · rename_i first rest heq
        rcases List.mem_cons.1 h with rfl | h
        · intro c hc
          rcases List.mem_cons.1 hc with rfl | hc
          · simpa using hd
          · exact ih (heq ▸ List.mem_cons_self) c hc
        · exact ih (heq ▸ List.mem_cons_of_mem _ h)

theorem joinWith_cons (separator piece : List Char) {pieces : List (List Char)} (h : pieces ≠ []) :
    joinWith separator (piece :: pieces) = piece ++ separator ++ joinWith separator pieces := by
  cases pieces with
  | nil => exact absurd rfl h
  | cons => rfl

/-- Splitting at one character loses nothing. -/
theorem joinWith_splitBy (s : Char) (cs : List Char) :
    joinWith [s] (splitBy (· == s) cs) = cs := by
  induction cs with
  | nil => rfl
  | cons c cs ih =>
    simp only [splitBy]
    split
    · rename_i h
      rw [joinWith_cons _ _ (splitBy_ne_nil _ _), ih]
      simp_all
    · split
      · rename_i h
        exact absurd h (splitBy_ne_nil _ _)
      · rename_i piece pieces heq
        rw [heq] at ih
        cases pieces with
        | nil => simp_all [joinWith]
        | cons => simp_all [joinWith]

/-- What is left is what stands after the leading characters. -/
theorem dropLeading?_eq_some_iff {leading cs rest : List Char} :
    dropLeading? leading cs = some rest ↔ cs = leading ++ rest := by
  induction leading generalizing cs with
  | nil => simp [dropLeading?]
  | cons l ls ih =>
    cases cs with
    | nil => simp [dropLeading?]
    | cons c cs =>
      simp only [dropLeading?, List.cons_append, List.cons.injEq]
      split
      · rename_i h
        simp [ih, h]
      · rename_i h
        simp [Ne.symm h]

end GuiTest.Text
