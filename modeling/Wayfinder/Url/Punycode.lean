namespace Wayfinder.Url.Punycode

def digit? (c : Char) : Option Nat :=
  if c.isLower then some (c.toNat - 'a'.toNat)
  else if c.isDigit then some (c.toNat - '0'.toNat + 26)
  else none

def threshold (place bias : Nat) : Nat := if place ≤ bias then 1 else min 26 (place - bias)

/-- The bias for numbers of about this size: 36 more for every division by 35 that makes them
small. -/
def settle (delta place : Nat) : Nat :=
  if 455 < delta then settle (delta / 35) (place + 36) else place + 36 * delta / (delta + 38)
termination_by delta
decreasing_by omega

def adapt (delta count : Nat) (first : Bool) : Nat :=
  let scaled := if first then delta / 700 else delta / 2
  settle (scaled + scaled / count) 0

def maxNumber : Nat := 4294967295

structure Reading where
  codes : List Nat
  code : Nat := 128
  /-- The place at which the number began to count, and how far it has come. -/
  start : Nat := 0
  index : Nat := 0
  bias : Nat := 72
  place : Nat := 36
  weight : Nat := 1

namespace Reading

variable (r : Reading)

def insert (index : Nat) : Option Reading :=
  let count := r.codes.length + 1
  let code := r.code + index / count
  let position := index % count
  if code.isValidChar then
    some
      { codes := r.codes.take position ++ code :: r.codes.drop position
        code
        start := position + 1
        index := position + 1
        bias := adapt (index - r.start) count (r.start = 0) }
  else none

def step (c : Char) : Option Reading := do
  let digit ← digit? c
  let index := r.index + digit * r.weight
  let least := threshold r.place r.bias
  let weight := r.weight * (36 - least)
  if maxNumber < index then none
  else if digit < least then r.insert index
  else if maxNumber < weight then none
  else some { r with index, place := r.place + 36, weight }

end Reading

/-- The text before the last hyphen and the text after it. A hyphen at the very start does not count
as one. -/
def splitLast (cs : List Char) : List Char × List Char :=
  let after := (cs.reverse.takeWhile (· ≠ '-')).reverse
  let before := cs.take (cs.length - after.length - 1)
  if before.isEmpty then ([], cs) else (before, after)

/-- The codes of the name that a spelling in ASCII stands for. Each number says how far on, in the
order of codes and then of places, the next character is to be put in. -/
def decode? (cs : List Char) : Option (List Nat) := do
  let (plain, numbers) := splitLast cs
  let reading ← numbers.foldlM Reading.step { codes := plain.map Char.toNat }
  if reading.place = 36 then some reading.codes else none

end Wayfinder.Url.Punycode
