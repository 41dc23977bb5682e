namespace Wayfinder

/-- Those who asked to be told of a change, in the order of asking, each under a token of its
own. -/
structure Subscribers (α : Type) where
  entries : List (Nat × α) := []
  next : Nat := 0

namespace Subscribers

variable {α : Type} (s : Subscribers α)

def add (a : α) : Subscribers α := ⟨s.entries ++ [(s.next, a)], s.next + 1⟩

def remove (token : Nat) : Subscribers α := { s with entries := s.entries.filter (·.1 ≠ token) }

def toList : List α := s.entries.map Prod.snd

@[simp] theorem toList_add (a : α) : (s.add a).toList = s.toList ++ [a] := by simp [add, toList]

@[simp] theorem next_add (a : α) : (s.add a).next = s.next + 1 := rfl

@[simp] theorem next_remove (token : Nat) : (s.remove token).next = s.next := rfl

theorem mem_entries_remove {token : Nat} {e : Nat × α} :
    e ∈ (s.remove token).entries ↔ e ∈ s.entries ∧ e.1 ≠ token := by simp [remove]

end Subscribers

end Wayfinder
