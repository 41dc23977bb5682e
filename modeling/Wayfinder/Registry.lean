namespace Wayfinder

structure Section where
  id : String
  label : String
deriving DecidableEq, Repr

/-- The earliest entry that also occurs before its place or in `seen`. -/
def firstRepeated (seen : List String) : List String → Option String
  | [] => none
  | id :: ids => if id ∈ seen then some id else firstRepeated (id :: seen) ids

theorem firstRepeated_eq_none_iff {seen ids : List String} :
    firstRepeated seen ids = none ↔ ids.Nodup ∧ ∀ id ∈ ids, id ∉ seen := by
  induction ids generalizing seen with
  | nil => simp [firstRepeated]
  | cons id ids ih =>
    by_cases h : id ∈ seen
    · simp [firstRepeated, h]
    · simp only [firstRepeated, h, if_false, ih, List.nodup_cons, List.mem_cons, forall_eq_or_imp]
      grind

/-- The sections of a page in reading order: at least one, and no id twice. -/
structure Registry where
  sections : List Section
  nonempty : sections ≠ []
  distinct : (sections.map Section.id).Nodup

namespace Registry

inductive Error where
  | empty
  | duplicate (id : String)
deriving DecidableEq, Repr

def Error.message : Error → String
  | empty => "section registry is empty"
  | duplicate id => "duplicate section id: " ++ id

def ofSections (sections : List Section) : Except Error Registry :=
  if nonempty : sections = [] then .error .empty
  else
    match repeated : firstRepeated [] (sections.map Section.id) with
    | some id => .error (.duplicate id)
    | none => .ok ⟨sections, nonempty, (firstRepeated_eq_none_iff.1 repeated).1⟩

variable (r : Registry)

def first : Section := r.sections.head r.nonempty

def ids : List String := r.sections.map Section.id

def size : Nat := r.sections.length

def position? (id : String) : Option Nat := r.sections.findIdx? (·.id = id)

def contains (id : String) : Bool := (r.position? id).isSome

def label? (id : String) : Option String := (r.sections.find? (·.id = id)).map Section.label

end Registry

end Wayfinder
