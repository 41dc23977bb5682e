namespace Wayfinder.Decimal

def digitValue (c : Char) : Nat := c.toNat - '0'.toNat

def ofDigits (digits : List Char) : Nat := digits.foldl (fun n c ↦ 10 * n + digitValue c) 0

def splitSign : List Char → Bool × List Char
  | '-' :: rest => (true, rest)
  | '+' :: rest => (false, rest)
  | rest => (false, rest)

/-- The double nearest to `digits * 10 ^ exponent`. Far outside the range of doubles the power is
not computed. -/
def nearestDouble (digits : Nat) (exponent : Int) : Float :=
  let size := (Nat.toDigits 10 digits).length + exponent
  if digits = 0 || size < -330 then 0
  else if size > 310 then 1 / 0
  else if exponent < 0 then Float.ofScientific digits true exponent.natAbs
  else Float.ofScientific digits false exponent.natAbs

def readExponent? : List Char → Option Int
  | [] => some 0
  | c :: rest =>
    let (negative, digits) := splitSign rest
    if (c = 'e' || c = 'E') && !digits.isEmpty && digits.all Char.isDigit then
      some (if negative then -ofDigits digits else ofDigits digits)
    else none

def readUnsigned? (text : List Char) : Option Float :=
  let whole := text.takeWhile Char.isDigit
  let afterWhole := text.dropWhile Char.isDigit
  let (fraction, rest) :=
    match afterWhole with
    | '.' :: more => (more.takeWhile Char.isDigit, more.dropWhile Char.isDigit)
    | rest => ([], rest)
  if whole.isEmpty && fraction.isEmpty then none
  else (readExponent? rest).map fun e ↦
    nearestDouble (ofDigits (whole ++ fraction)) (e - fraction.length)

/-- Reads a numeral with an optional fraction and exponent, or the name of a special value. -/
def read? (text : String) : Option Float :=
  let (negative, rest) := splitSign text.toList
  let unsigned :=
    match String.ofList (rest.map Char.toLower) with
    | "nan" => some (0 / 0)
    | "inf" => some (1 / 0)
    | "infinity" => some (1 / 0)
    | _ => readUnsigned? rest
  unsigned.map fun x ↦ if negative then -x else x

end Wayfinder.Decimal
