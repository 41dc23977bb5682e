import Wayfinder.Decimal.Read
import Wayfinder.Text.Split

namespace Wayfinder

/-- A number up to 255 with at most three digits and no leading zero. -/
def readOctet? (digits : List Char) : Option Nat :=
  let n := Decimal.ofDigits digits
  if digits.isEmpty || 3 < digits.length || !digits.all Char.isDigit then none
  else if digits.head? = some '0' && 1 < digits.length then none
  else if n < 256 then some n
  else none

def readOctets? (text : List Char) : Option (List Nat) := do
  let octets ← (Text.splitAt '.' text).mapM readOctet?
  if octets.length = 4 then some octets else none

end Wayfinder
