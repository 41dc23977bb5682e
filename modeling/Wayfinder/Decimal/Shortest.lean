namespace Wayfinder.Decimal

/-- The positive value `mantissa * 2 ^ exponent`; `halved` when the next smaller value is only half
as far away as the next larger one. -/
structure Magnitude where
  mantissa : Nat
  exponent : Int
  halved : Bool

def leadingBit : Nat := 4503599627370496

/-- The value of the low 63 bits of a finite double, `none` for zero. -/
def Magnitude.ofBits? (bits : Nat) : Option Magnitude :=
  let fraction := bits % leadingBit
  let field : Nat := bits / leadingBit % 2048
  if field = 0 then
    if fraction = 0 then none else some ⟨fraction, -1074, false⟩
  else some ⟨leadingBit + fraction, (field : Int) - 1075, fraction = 0 && field > 1⟩

/-- Which of two equally near decimals is taken. -/
inductive Tie where
  | up
  | even

namespace Magnitude

variable (v : Magnitude)

/-- A quarter of the gap above the value, measured so that `10 ^ k` is `gridUnit k`. -/
def quarter (k : Int) : Nat := Nat.pow 2 (v.exponent - 2).toNat * Nat.pow 10 (-k).toNat

def gridUnit (k : Int) : Nat := Nat.pow 2 (2 - v.exponent).toNat * Nat.pow 10 k.toNat

/-- Whether the decimal `c * 10 ^ k` rounds to the value: it lies between the midpoints to the two
neighbours, and a midpoint itself rounds to the even mantissa. -/
def Rounds (c : Nat) (k : Int) : Prop :=
  let low := 4 * v.mantissa - (if v.halved then 1 else 2)
  let high := 4 * v.mantissa + 2
  let point := c * v.gridUnit k
  if v.mantissa % 2 = 0 then low * v.quarter k ≤ point ∧ point ≤ high * v.quarter k
  else low * v.quarter k < point ∧ point < high * v.quarter k

instance (c : Nat) (k : Int) : Decidable (v.Rounds c k) := by
  unfold Rounds
  infer_instance

def floor (k : Int) : Nat := 4 * v.mantissa * v.quarter k / v.gridUnit k

/-- Whether the value is nearer to the grid point above than to the one below, with `tie` for the
midpoint. -/
def roundsUp (tie : Tie) (k : Int) : Bool :=
  let twice := 8 * v.mantissa * v.quarter k
  let middle := (2 * v.floor k + 1) * v.gridUnit k
  match compare twice middle, tie with
  | .lt, _ => false
  | .gt, _ => true
  | .eq, .up => true
  | .eq, .even => v.floor k % 2 = 1

def nearest? (tie : Tie) (k : Int) : Option Nat :=
  let below := v.floor k
  match decide (v.Rounds below k), decide (v.Rounds (below + 1) k) with
  | true, true => some (if v.roundsUp tie k then below + 1 else below)
  | true, false => some below
  | false, true => some (below + 1)
  | false, false => none

end Magnitude

def digitCount (n : Nat) : Nat := if n = 0 then 0 else digitCount (n / 10) + 1

def Magnitude.ceilingExponent (v : Magnitude) : Int :=
  let whole := v.floor 0
  if whole > 0 then digitCount whole
  else 1 - digitCount
    ((v.gridUnit 0 + 4 * v.mantissa * v.quarter 0 - 1) / (4 * v.mantissa * v.quarter 0) - 1)

structure Scaled where
  digits : Nat
  exponent : Int

def Magnitude.refine (v : Magnitude) (tie : Tie) : Nat → Int → Scaled
  | 0, k => ⟨v.floor k, k⟩
  | n + 1, k =>
    match v.nearest? tie k with
    | some digits => ⟨digits, k⟩
    | none => v.refine tie n (k - 1)

/-- Seventeen significant digits always suffice for a double. -/
def Magnitude.shortest (v : Magnitude) (tie : Tie) : Scaled := v.refine tie 18 v.ceilingExponent

end Wayfinder.Decimal
