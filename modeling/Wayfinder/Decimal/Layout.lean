import Wayfinder.Decimal.Shortest

namespace Wayfinder.Decimal

/-- How a number is written once its digits are known. -/
structure Layout where
  tie : Tie
  /-- The exponents of the leading digit for which no exponent part is written. -/
  positional : Int → Bool
  /-- What follows the digits of a whole number. -/
  wholeEnd : List Char

def zeros (n : Nat) : List Char := List.replicate n '0'

namespace Layout

variable (l : Layout)

def point (digits : List Char) (exponent : Int) : List Char :=
  let places := (-exponent).toNat
  if places = 0 then digits ++ zeros exponent.toNat ++ l.wholeEnd
  else if places < digits.length then
    digits.take (digits.length - places) ++ '.' :: digits.drop (digits.length - places)
  else '0' :: '.' :: zeros (places - digits.length) ++ digits

def scientific (digits : List Char) (leading : Int) : List Char :=
  let fraction := if digits.length = 1 then [] else '.' :: digits.tail
  let sign := if leading < 0 then '-' else '+'
  digits.take 1 ++ fraction ++ 'e' :: sign :: Nat.toDigits 10 leading.natAbs

def scaled (s : Scaled) : List Char :=
  let digits := Nat.toDigits 10 s.digits
  let leading := digits.length + s.exponent - 1
  if l.positional leading then l.point digits s.exponent else scientific digits leading

def finite (bits : Nat) : List Char :=
  let unsigned :=
    match Magnitude.ofBits? bits with
    | none => l.point ['0'] 0
    | some v => l.scaled (v.shortest l.tie)
  if bits / 9223372036854775808 % 2 = 1 then '-' :: unsigned else unsigned

end Layout

def plainLayout : Layout where
  tie := .up
  positional := fun _ ↦ true
  wholeEnd := []

def plainText (x : Float) : List Char :=
  if x.isNaN then ['N', 'a', 'N']
  else if x.isInf then if 0 < x then ['i', 'n', 'f'] else ['-', 'i', 'n', 'f']
  else plainLayout.finite x.toBits.toNat

def plain (x : Float) : String := String.ofList (plainText x)

end Wayfinder.Decimal
