import Wayfinder.Text.CombiningClass
import Wayfinder.Text.Composite

namespace Wayfinder.Text

def syllables : Nat := 0xac00

def initials : Nat := 0x1100

def vowels : Nat := 0x1161

/-- One below the first final, so that number 0 stands for none. -/
def finals : Nat := 0x11a7

def isSyllable (n : Nat) : Bool := syllables ≤ n && n < syllables + 11172

def splitSyllable (n : Nat) : List Nat :=
  let i := n - syllables
  let twoParts := [initials + i / 588, vowels + i % 588 / 28]
  if i % 28 = 0 then twoParts else twoParts ++ [finals + i % 28]

def syllable? (a b : Nat) : Option Nat :=
  if initials ≤ a && a < initials + 19 && vowels ≤ b && b < vowels + 21 then
    some (syllables + ((a - initials) * 21 + (b - vowels)) * 28)
  else if isSyllable a && (a - syllables) % 28 = 0 && finals < b && b < finals + 28 then
    some (a + (b - finals))
  else none

def halves? (n : Nat) : Option (Nat × Nat) :=
  composites.findSome? fun (second, wholes) ↦ (wholes.find? (·.2 = n)).map fun (first, _) ↦
    (first, second)

def unite? (a b : Nat) : Option Nat :=
  syllable? a b <|> (composites.lookup b).bind fun wholes ↦ wholes.lookup a

def split : Nat → Nat → List Nat
  | 0, n => [n]
  | depth + 1, n =>
    match halves? n with
    | some (first, second) => split depth first ++ [second]
    | none => [n]

/-- No composite carries more than three marks. -/
def splitFully (c : Char) : List Char :=
  (if isSyllable c.toNat then splitSyllable c.toNat else split 3 c.toNat).map Char.ofNat

/-- Puts a character before an ordered text; a mark goes behind those of a lower class. -/
def settle (c : Char) : List Char → List Char
  | [] => [c]
  | d :: rest =>
    if 0 < combiningClass d && combiningClass d < combiningClass c then d :: settle c rest
    else c :: d :: rest

def arrange (cs : List Char) : List Char := cs.foldr settle []

/-- Unites what follows a character with it. The marks that could not be united so far stand
between, and keep off all that is not of a higher class than the last of them. -/
def uniteAll (base : Char) (marks : List Char) (last : Nat) : List Char → List Char
  | [] => base :: marks
  | c :: rest =>
    let united := if marks.isEmpty || last < combiningClass c then
      unite? base.toNat c.toNat else none
    match united with
    | some whole => uniteAll (Char.ofNat whole) marks last rest
    | none =>
      if combiningClass c = 0 then base :: marks ++ uniteAll c [] 0 rest
      else uniteAll base (marks ++ [c]) (combiningClass c) rest

def compose : List Char → List Char
  | [] => []
  | c :: rest => if combiningClass c = 0 then uniteAll c [] 0 rest else c :: compose rest

def normalize (cs : List Char) : List Char := compose (arrange (cs.flatMap splitFully))

end Wayfinder.Text
