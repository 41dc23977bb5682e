import Wayfinder.Text.Fold
import Wayfinder.Text.Joining
import Wayfinder.Text.Mark
import Wayfinder.Text.Normal
import Wayfinder.Text.Unseen
import Wayfinder.Url.Punycode

namespace Wayfinder.Url

def isDelimiter (c : Char) : Bool :=
  c.toNat ≤ 0x20 || c.toNat = 0x7f || ['%', '#', '/', ':', '<', '>', '?', '@', '[', '\\', ']', '^',
    '|'].contains c

def joiner : Char := '\u200d'

def nonJoiner : Char := '\u200c'

/-- Codes that came into use later than the table of unseen characters has it: numerals, three
scripts and a symbol. -/
def isRecent (c : Char) : Bool :=
  Text.inRanges [(0x12550, 0x1268f), (0x16d80, 0x16daf), (0x18e00, 0x191df), (0x1f6d9, 0x1f6d9),
    (0x3d000, 0x3fc3f)] c

/-- Characters that would fold to one with a dot or to nothing that can be written, and those that
describe others. -/
def isBarred (c : Char) : Bool :=
  Text.inRanges [(0x2024, 0x2026), (0x2488, 0x249b), (0x2ff0, 0x2fff), (0x31ef, 0x31ef),
    (0x33c2, 0x33c2), (0x33c7, 0x33c7), (0x33d8, 0x33d8), (0xfe12, 0xfe12), (0xfe19, 0xfe19),
      (0xfe30, 0xfe30), (0xfe52, 0xfe52),
    (0xfffc, 0xfffd), (0x1f100, 0x1f100)] c

def isPermitted (c : Char) : Bool :=
  !isBarred c && (!Text.isUnseen c || c = joiner || c = nonJoiner || isRecent c)

def fold? (cs : List Char) : Option (List Char) :=
  let folded := cs.flatMap Text.fold
  if folded.all isPermitted then some (Text.normalize folded) else none

def isAscii (cs : List Char) : Bool := cs.all (·.toNat < 128)

def joins (kind : Text.Joining) (cs : List Char) : Bool :=
  (cs.dropWhile fun c ↦ Text.joining c = .transparent).head?.any fun c ↦
    Text.joining c = kind || Text.joining c = .both

/-- The class of the signs that take a vowel away. -/
def vowelKiller : Nat := 9

/-- Both joiners may follow a sign that takes the vowel away; the one that keeps letters apart may
also stand between two that would be joined. `before` is what comes before, backwards. -/
def joinersFit (before : List Char) : List Char → Bool
  | [] => true
  | c :: rest =>
    ((c ≠ joiner && c ≠ nonJoiner) || before.head?.any (Text.combiningClass · = vowelKiller) ||
      c = nonJoiner && joins .after before && joins .before rest) && joinersFit (c :: before) rest

def isRightward (cs : List Char) : Bool :=
  cs.any fun c ↦ Text.direction c = .right || Text.direction c = .arabicNumber

/-- What a label holds behind its first character, flat marks at its end apart, may not break its
direction. -/
def keepsDirection (rightward : Bool) (ds : List Text.Direction) : Bool :=
  if rightward then
    !ds.contains .left && !(ds.contains .europeanNumber && ds.contains .arabicNumber) &&
      ds.getLast?.all fun d ↦ d = .right || d = .europeanNumber || d = .arabicNumber
  else
    !ds.contains .right && !ds.contains .arabicNumber &&
      ds.getLast?.all fun d ↦ d = .left || d = .europeanNumber

/-- In a name written from both sides every label has one direction, which its first character
gives. -/
def isDirected (label : List Char) : Bool :=
  match label.map Text.direction with
  | [] => true
  | first :: ds =>
    (first = .left || first = .right) &&
      keepsDirection (first = .right) (ds.reverse.dropWhile (· = .mark)).reverse

def maxLabel : Nat := 1000

def maxSpelling : Nat := 2000

def isSound (label : List Char) : Bool :=
  isAscii label ||
    label.length ≤ maxLabel && !label.head?.any Text.isMark && joinersFit [] label

def isWritten (label : List Char) : Bool :=
  !isAscii label && fold? label = some label && !label.any fun c ↦ isDelimiter c || c = '.'

def spelt? : List Char → Option (List Char)
  | 'x' :: 'n' :: '-' :: '-' :: spelling => do
    guard (isAscii spelling && spelling.length ≤ maxSpelling)
    let label := (← Punycode.decode? spelling).map Char.ofNat
    guard (isWritten label)
    some label
  | label => some label

def isNamed (labels : List (List Char)) : Bool :=
  labels.all isSound && (!labels.any isRightward || labels.all isDirected)

end Wayfinder.Url
