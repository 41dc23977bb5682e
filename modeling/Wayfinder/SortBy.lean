namespace Wayfinder

variable {α : Type}

def insertBy (key : α → Int) (a : α) : List α → List α
  | [] => [a]
  | b :: l => if key a ≤ key b then a :: b :: l else b :: insertBy key a l

/-- Sorts by a key; entries with equal keys keep their order. -/
def sortBy (key : α → Int) : List α → List α
  | [] => []
  | a :: l => insertBy key a (sortBy key l)

end Wayfinder
