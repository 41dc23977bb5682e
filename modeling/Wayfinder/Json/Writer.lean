import Wayfinder.Decimal.Layout

namespace Wayfinder.Json

/-- Numbers from `1e-5` up to `1e16` are written without an exponent and always with a fraction. -/
def numberLayout : Decimal.Layout where
  tie := .even
  positional := fun leading ↦ -5 ≤ leading && leading < 16
  wholeEnd := ['.', '0']

def writeNumber (x : Float) : List Char :=
  if x.isFinite then numberLayout.finite x.toBits.toNat else ['n', 'u', 'l', 'l']

def hexDigit (n : Nat) : Char := Nat.digitChar (n % 16)

def writeChar (c : Char) : List Char :=
  match c with
  | '"' => ['\\', '"']
  | '\\' => ['\\', '\\']
  | '\x08' => ['\\', 'b']
  | '\t' => ['\\', 't']
  | '\n' => ['\\', 'n']
  | '\x0c' => ['\\', 'f']
  | '\r' => ['\\', 'r']
  | c =>
    if c.toNat < 0x20 then ['\\', 'u', '0', '0', hexDigit (c.toNat / 16), hexDigit c.toNat] else [c]

def writeText (s : String) : List Char := '"' :: s.toList.flatMap writeChar ++ ['"']

def commaSeparated : List (List Char) → List Char
  | [] => []
  | [part] => part
  | part :: parts => part ++ ',' :: commaSeparated parts

def writeArray (items : List (List Char)) : List Char := '[' :: commaSeparated items ++ [']']

def writeMember (name : String) (value : List Char) : List Char := writeText name ++ ':' :: value

def writeObject (members : List (List Char)) : List Char := '{' :: commaSeparated members ++ ['}']

end Wayfinder.Json
