import Wayfinder.Decimal.Layout
import Wayfinder.Length

namespace Wayfinder

/-- The part of the viewport in which a section counts as being read, given by how much of the
viewport is left out at the top and at the bottom, in percent. -/
structure Band where
  topInset : Float
  bottomInset : Float
deriving DecidableEq

namespace Band

def default : Band := ⟨20, 80⟩

variable (b : Band)

def rootMargin : String :=
  "-" ++ Decimal.plain b.topInset ++ "% 0px -" ++ Decimal.plain b.bottomInset ++ "% 0px"

def edges (scrollY viewport : Length) : Length × Length :=
  (scrollY + viewport * b.topInset / 100, scrollY + viewport * (100 - b.bottomInset) / 100)

def intersects (scrollY viewport top height : Length) : Bool :=
  top ≤ (b.edges scrollY viewport).2 && (b.edges scrollY viewport).1 ≤
    top + height.nonneg && 0 < height

end Band

end Wayfinder
