namespace Wayfinder

/-- Values under names, each name at most once. -/
structure Table (α : Type) where
  entries : List (String × α) := []

namespace Table

variable {α : Type} (t : Table α) (key : String)

def get? : Option α := t.entries.lookup key

def erase : Table α := ⟨t.entries.filter (·.1 ≠ key)⟩

def insert (value : α) : Table α := ⟨(key, value) :: (t.erase key).entries⟩

def any (p : α → Bool) : Bool := t.entries.any fun e ↦ p e.2

@[simp] theorem get?_empty : ({} : Table α).get? key = none := rfl

theorem get?_erase (other : String) :
    (t.erase key).get? other = if other = key then none else t.get? other := by
  obtain ⟨entries⟩ := t
  simp only [get?, erase]
  induction entries with
  | nil => simp
  | cons e entries ih =>
    obtain ⟨name, value⟩ := e
    by_cases dropped : name = key
    · rw [List.filter_cons_of_neg (by simp [dropped]), ih, List.lookup_cons]
      by_cases same : other = key
      · simp [same]
      · have differs : (other == name) = false := by simp [dropped, same]
        simp [differs]
    · rw [List.filter_cons_of_pos (by simp [dropped]), List.lookup_cons, List.lookup_cons, ih]
      by_cases same : other = name
      · simp [same, dropped]
      · have differs : (other == name) = false := beq_false_of_ne same
        simp [differs]

theorem get?_insert (value : α) (other : String) :
    (t.insert key value).get? other = if other = key then some value else t.get? other := by
  by_cases h : other = key
  · simp [insert, get?, h]
  · have kept := t.get?_erase key other
    rw [if_neg h] at kept ⊢
    rw [← kept]
    have differs : (other == key) = false := beq_false_of_ne h
    simp only [insert, get?, List.lookup_cons, differs]

end Table

end Wayfinder
