/-!
# Dictionaries

Values under names, in the order in which the names came.

1. `find?` reads the value of a name, `put` replaces it or adds it at the end, `erase` removes it.
2. What one name reads after a change: `find?_put`, `find?_erase`. Other names read what they read
   before.
-/

namespace Autoresponder

abbrev Dictionary (κ α : Type) : Type := List (κ × α)

namespace Dictionary

variable {κ α : Type} [DecidableEq κ]

/-! ## 1. Operations -/

/-- The first value of a name. -/
def find? (k : κ) : Dictionary κ α → Option α
  | [] => none
  | (k', a) :: d => if k' = k then some a else find? k d

/-- The dictionary with a new value of a name, in the place of the old one if there is one. -/
def put (k : κ) (a : α) : Dictionary κ α → Dictionary κ α
  | [] => [(k, a)]
  | (k', b) :: d => if k' = k then (k, a) :: d else (k', b) :: put k a d

/-- The dictionary without a name. -/
def erase (k : κ) : Dictionary κ α → Dictionary κ α
  | [] => []
  | (k', b) :: d => if k' = k then erase k d else (k', b) :: erase k d

/-! ## 2. Reading back -/

theorem find?_put (k q : κ) (a : α) (d : Dictionary κ α) :
    find? q (put k a d) = if k = q then some a else find? q d := by
  induction d with
  | nil => simp [put, find?]
  | cons e d ih =>
    obtain ⟨k', b⟩ := e
    simp only [put]
    split
    · rename_i h
      subst h
      simp only [find?]
      split <;> rfl
    · simp only [find?, ih]
      split <;> split <;> simp_all

theorem find?_erase (k q : κ) (d : Dictionary κ α) :
    find? q (erase k d) = if k = q then none else find? q d := by
  induction d with
  | nil => simp [erase, find?]
  | cons e d ih =>
    obtain ⟨k', b⟩ := e
    simp only [erase]
    split
    · rename_i h
      subst h
      simp only [find?, ih]
      split <;> rfl
    · simp only [find?, ih]
      split <;> split <;> simp_all

end Dictionary
end Autoresponder
