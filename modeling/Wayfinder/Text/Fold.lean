import Wayfinder.Text.Fold.Several
import Wayfinder.Text.Fold.Shift
import Wayfinder.Text.Fold.Single
import Wayfinder.Text.Ranges

namespace Wayfinder.Text

def isIgnored (c : Char) : Bool :=
  inRanges [(0xad, 0xad), (0x34f, 0x34f), (0x115f, 0x1160), (0x17b4, 0x17b5), (0x180b, 0x180f),
    (0x200b, 0x200b), (0x2060, 0x2064), (0x206a, 0x206f), (0x3164, 0x3164), (0xfe00, 0xfe0f),
      (0xfeff, 0xfeff), (0xffa0, 0xffa0),
    (0x1bca0, 0x1bca3), (0x1d173, 0x1d17a), (0xe0100, 0xe01ef)] c

def shifted? (n : Nat) : Option Nat :=
  (shiftedRuns.find? fun (first, last, _) ↦ first ≤ n && n ≤ last).map fun (first, _, target) ↦
    n - first + target

def alternating? (n : Nat) : Option Nat :=
  if alternatingRuns.any fun (first, last) ↦ first ≤ n && n ≤ last && (n - first) % 2 = 0 then
    some (n + 1) else none

def inRow? {α : Type} (rows : List (Nat × List α)) (n : Nat) : Option α :=
  rows.findSome? fun (first, row) ↦ if first ≤ n then row[n - first]? else none

def foldCode (n : Nat) : List Nat :=
  match (shifted? n <|> alternating? n <|> inRow? singleRows n) with
  | some m => [m]
  | none => (inRow? severalRows n).getD [n]

def fold (c : Char) : List Char := if isIgnored c then [] else (foldCode c.toNat).map Char.ofNat

end Wayfinder.Text
