import Wayfinder.Octets

namespace Wayfinder.Url

def isHex (c : Char) : Bool := c.isDigit || 'a' ≤ c && c ≤ 'f' || 'A' ≤ c && c ≤ 'F'

def hexValue (c : Char) : Nat :=
  if c.isDigit then c.toNat - '0'.toNat else c.toLower.toNat - 'a'.toNat + 10

def isGroup (cs : List Char) : Bool := !cs.isEmpty && cs.length ≤ 4 && cs.all isHex

/-- How many groups the parts make; the last may be four octets, which make two. -/
def groups? : List (List Char) → Option Nat
  | [] => some 0
  | [last] => if isGroup last then some 1 else if (readOctets? last).isSome then some 2 else none
  | part :: parts => if isGroup part then (groups? parts).map (· + 1) else none

def splitDouble? : List Char → Option (List Char × List Char)
  | ':' :: ':' :: rest => some ([], rest)
  | c :: rest => (splitDouble? rest).map fun (before, after) ↦ (c :: before, after)
  | [] => none

def parts (cs : List Char) : List (List Char) := if cs.isEmpty then [] else Text.splitAt ':' cs

/-- Eight groups, or fewer with `::` in place of the missing ones. -/
def isGrouped (cs : List Char) : Bool :=
  match splitDouble? cs with
  | none => groups? (parts cs) = some 8
  | some (before, after) =>
    (parts before).all isGroup && (groups? (parts after)).any fun n ↦ (parts before).length + n < 8

def ofBase (base : Nat) (digits : List Char) : Nat :=
  digits.foldl (fun n c ↦ base * n + hexValue c) 0

def isOctal (c : Char) : Bool := '0' ≤ c && c ≤ '7'

/-- A number in base ten, in base eight after `0`, or in base sixteen after `0x`. -/
def numeral? : List Char → Option Nat
  | [] => none
  | '0' :: 'x' :: digits => if digits.all isHex then some (ofBase 16 digits) else none
  | '0' :: c :: digits => if (c :: digits).all isOctal then some (ofBase 8 (c :: digits)) else none
  | digits => if digits.all Char.isDigit then some (ofBase 10 digits) else none

def numberParts (name : List Char) : List (List Char) :=
  let all := Text.splitAt '.' name
  if 1 < all.length && all.getLast? = some [] then all.dropLast else all

def endsInNumber (name : List Char) : Bool :=
  (numberParts name).getLast?.any fun last ↦
    !last.isEmpty && last.all Char.isDigit || (numeral? last).isSome

/-- At most four numbers of which all but the last are octets; the last fills the octets that are
left. -/
def isNumeric (name : List Char) : Bool :=
  match (numberParts name).mapM numeral? with
  | none => false
  | some numbers =>
    numbers.length ≤ 4 && numbers.dropLast.all (· < 256) &&
      numbers.getLast?.any (· < Nat.pow 256 (5 - numbers.length))

end Wayfinder.Url
