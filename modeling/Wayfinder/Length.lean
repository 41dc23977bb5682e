namespace Wayfinder

/-- Positions and lengths on a page, in pixels. -/
abbrev Length := Float

namespace Length

/-- The length itself if it is positive, and nothing otherwise; a NaN counts as nothing. -/
def nonneg (x : Length) : Length := if 0 < x then x else 0

def larger (x y : Length) : Length := if x < y || x.isNaN then y else x

def clamp (low high x : Length) : Length :=
  let raised := if x < low then low else x
  if high < raised then high else raised

/-- A key that puts every length in one line: negative values, `-0`, `0`, positive values, NaN. -/
def rank (x : Length) : Int :=
  let bits := x.toBits.toNat
  if bits < 9223372036854775808 then bits else 9223372036854775807 - (bits : Int)

end Length

end Wayfinder
