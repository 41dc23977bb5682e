import Wayfinder.Decimal.Read
import Wayfinder.Json.Reader

namespace Wayfinder.Json

inductive Number where
  | integer (n : Int)
  | float (x : Float)

def Number.toFloat : Number → Float
  | integer n => if n < 0 then -Float.ofNat n.natAbs else Float.ofNat n.natAbs
  | float x => x

def Number.found : Number → Found
  | integer n => .integer n
  | float x => .float x

def significandLimit : Nat := 18446744073709551616

def exponentLimit : Nat := 2147483648

/-- Gathers digits below a limit; the digits from the first that does not fit are left over. -/
def gather (limit n : Nat) : List Char → Nat × List Char
  | [] => (n, [])
  | d :: ds =>
    let next := 10 * n + Decimal.digitValue d
    if next < limit then gather limit next ds else (n, d :: ds)

def largestPower : Nat := 308

def powerOfTen (k : Nat) : Float := Float.ofScientific 1 false k

/-- Divides by a power of ten that may exceed the range of doubles. -/
def divideByPower (x : Float) (k : Nat) : Float :=
  if k ≤ largestPower then x / powerOfTen k
  else if x == 0 then x
  else divideByPower (x / powerOfTen largestPower) (k - largestPower)
termination_by k
decreasing_by simp_all [largestPower]; omega

/-- The value of `significand * 10 ^ exponent`, unless it is out of range. Each step rounds, so it
need not be the double nearest to the text. -/
def scale? (significand : Nat) (exponent : Int) : Option Float :=
  let x := Float.ofNat significand
  if exponent < 0 then some (divideByPower x exponent.natAbs)
  else if significand = 0 then some x
  else if exponent.natAbs ≤ largestPower then
    let scaled := x * powerOfTen exponent.natAbs
    if scaled.isInf then none else some scaled
  else none

def signed (negative : Bool) (x : Float) : Float := if negative then -x else x

def scaled (negative : Bool) (significand : Nat) (exponent : Int) (rest : List Char) :
    Except Fault (Number × List Char) :=
  match scale? significand exponent with
  | some x => .ok (.float (signed negative x), rest)
  | none => fail .numberRange rest

def exponentDigits (negative : Bool) (significand : Nat) (exponent : Int) (down : Bool)
    (cs : List Char) :
    Except Fault (Number × List Char) :=
  let digits := cs.takeWhile Char.isDigit
  let rest := cs.dropWhile Char.isDigit
  if cs.isEmpty then fail .endInValue cs
  else if digits.isEmpty then failPast .invalidNumber cs
  else
    match gather exponentLimit 0 digits with
    | (e, []) => scaled negative significand (if down then exponent - e else exponent + e) rest
    | (_, _ :: extra) =>
      if significand = 0 || down then .ok (.float (signed negative 0), rest)
      else fail .numberRange (extra ++ rest)

def exponentPart (negative : Bool) (significand : Nat) (exponent : Int) :
    List Char → Except Fault (Number × List Char)
  | 'e' :: rest | 'E' :: rest =>
    match rest with
    | '-' :: rest => exponentDigits negative significand exponent true rest
    | '+' :: rest => exponentDigits negative significand exponent false rest
    | rest => exponentDigits negative significand exponent false rest
  | rest => scaled negative significand exponent rest

def fractionPart (negative : Bool) (significand : Nat) (exponent : Nat) (cs : List Char) :
    Except Fault (Number × List Char) :=
  let digits := cs.takeWhile Char.isDigit
  let rest := cs.dropWhile Char.isDigit
  if digits.isEmpty then failPast (if rest.isEmpty then .endInValue else .invalidNumber) rest
  else
    match gather significandLimit significand digits with
    | (n, extra) => exponentPart negative n (exponent - (digits.length - extra.length : Nat)) rest

/-- A whole number; a negative one is an integer only from `-2 ^ 63` to `-1`. -/
def wholeNumber (negative : Bool) (n : Nat) : Number :=
  if !negative then .integer n
  else if n = 0 || 9223372036854775808 < n then .float (-Float.ofNat n)
  else .integer (-n)

def number (negative : Bool) : Reader Number
  | [] => fail .endInValue []
  | c :: cs =>
    let digits := (c :: cs).takeWhile Char.isDigit
    let rest := (c :: cs).dropWhile Char.isDigit
    if digits.isEmpty then failPast .invalidNumber (c :: cs)
    else if c = '0' && 1 < digits.length then failPast .invalidNumber cs
    else
      match gather significandLimit 0 digits, rest with
      | (n, extra), '.' :: rest => fractionPart negative n extra.length rest
      | (n, []), 'e' :: _ | (n, []), 'E' :: _ => exponentPart negative n 0 rest
      | (n, []), _ => .ok (wholeNumber negative n, rest)
      | (n, extra), _ => exponentPart negative n extra.length rest

def skipNumber : List Char → Except Fault (List Char)
  | [] => fail .invalidNumber []
  | c :: cs =>
    let digits := (c :: cs).takeWhile Char.isDigit
    let rest := (c :: cs).dropWhile Char.isDigit
    if digits.isEmpty then failPast .invalidNumber (c :: cs)
    else if c = '0' && 1 < digits.length then failPast .invalidNumber cs
    else
      match rest with
      | '.' :: rest =>
        if (rest.takeWhile Char.isDigit).isEmpty then failPast .invalidNumber rest
        else skipExponent (rest.dropWhile Char.isDigit)
      | rest => skipExponent rest
where
  skipExponent : List Char → Except Fault (List Char)
    | 'e' :: rest | 'E' :: rest =>
      match rest with
      | '-' :: rest | '+' :: rest => skipDigits rest
      | rest => skipDigits rest
    | rest => .ok rest
  skipDigits (cs : List Char) : Except Fault (List Char) :=
    if (cs.takeWhile Char.isDigit).isEmpty then failPast .invalidNumber cs
    else .ok (cs.dropWhile Char.isDigit)

end Wayfinder.Json
