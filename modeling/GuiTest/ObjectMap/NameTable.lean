/-!
# Tables by name

A list of named values in the order of their names, each name at most once.

The list stands in for a search tree. Which of them holds the values does not show, except in how
long it takes to find one.
-/

namespace GuiTest

/-- Named values. -/
abbrev NameTable (α : Type) := List (String × α)

namespace NameTable

variable {α : Type}

/-- The value with a name. -/
def get? : NameTable α → String → Option α
  | [], _ => none
  | (other, a) :: rest, name => if name = other then some a else get? rest name

/-- The names in order. -/
def names (t : NameTable α) : List String := t.map (·.1)

/-- Adds a value, or replaces the one with its name. -/
def insert (name : String) (a : α) : NameTable α → NameTable α
  | [] => [(name, a)]
  | (other, b) :: rest =>
    if name = other then (name, a) :: rest
    else if name < other then (name, a) :: (other, b) :: rest
    else (other, b) :: insert name a rest

/-- Puts values in order. Of several with one name the last counts. -/
def ofList (l : List (String × α)) : NameTable α := l.foldl (fun t (name, a) => insert name a t) []

/-- An added value is found, and nothing else changes. -/
theorem get?_insert (name other : String) (a : α) (t : NameTable α) :
    get? (insert name a t) other = if other = name then some a else get? t other := by
  induction t with
  | nil => simp [insert, get?]
  | cons x t ih =>
    obtain ⟨n, b⟩ := x
    simp only [insert]
    split
    · subst_vars
      by_cases h : other = n <;> simp [get?, h]
    · split
      · simp [get?]
      · rename_i hn _
        by_cases h : other = n
        · subst h
          simp [get?, Ne.symm hn]
        · simp [get?, h, ih]

end NameTable

end GuiTest
