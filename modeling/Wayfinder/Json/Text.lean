import Wayfinder.Json.Reader

namespace Wayfinder.Json

def hexValue? (c : Char) : Option Nat :=
  if '0' ≤ c && c ≤ '9' then some (c.toNat - '0'.toNat)
  else if 'a' ≤ c && c ≤ 'f' then some (c.toNat - 'a'.toNat + 10)
  else if 'A' ≤ c && c ≤ 'F' then some (c.toNat - 'A'.toNat + 10)
  else none

def hexCode : Reader Nat := fun cs ↦
  if byteSize cs < 4 then .error ⟨.endInText, 0⟩
  else
    match cs with
    | a :: b :: c :: d :: rest =>
      match hexValue? a, hexValue? b, hexValue? c, hexValue? d with
      | some a, some b, some c, some d => .ok (((a * 16 + b) * 16 + c) * 16 + d, rest)
      | _, _, _, _ => .error ⟨.invalidEscape, byteSize cs - 4⟩
    | _ => .error ⟨.invalidEscape, byteSize cs - 4⟩

def isHighSurrogate (n : Nat) : Bool := 0xd800 ≤ n && n < 0xdc00

def isLowSurrogate (n : Nat) : Bool := 0xdc00 ≤ n && n < 0xe000

def pairMark (mark : Char) : List Char → Except Fault (List Char)
  | [] => fail .endInText []
  | c :: rest => if c = mark then .ok rest else failPast .endOfHexEscape (c :: rest)

/-- A character given by its code, or by the two halves of a surrogate pair. -/
def hexEscape : Reader Char := fun cs ↦ do
  let (high, rest) ← hexCode cs
  if isLowSurrogate high then fail .loneSurrogate rest
  else if isHighSurrogate high then
    let rest ← pairMark '\\' rest
    let rest ← pairMark 'u' rest
    let (low, rest) ← hexCode rest
    if isLowSurrogate low then
      return (Char.ofNat (0x10000 + (high - 0xd800) * 0x400 + (low - 0xdc00)), rest)
    else fail .loneSurrogate rest
  else return (Char.ofNat high, rest)

def shortEscape? : Char → Option Char
  | '"' => some '"'
  | '\\' => some '\\'
  | '/' => some '/'
  | 'b' => some '\x08'
  | 'f' => some '\x0c'
  | 'n' => some '\n'
  | 'r' => some '\r'
  | 't' => some '\t'
  | _ => none

def escape : Reader Char
  | [] => fail .endInText []
  | c :: rest =>
    if c = 'u' then hexEscape rest
    else
      match shortEscape? c with
      | some c => .ok (c, rest)
      | none => failPast .invalidEscape (c :: rest)

def textRound (before : List Char) : List Char → Except Fault (Round (List Char) String)
  | [] => fail .endInText []
  | c :: rest =>
    if c = '"' then .ok (.done (String.ofList before.reverse) rest)
    else if c = '\\' then do
      let (c, rest) ← escape rest
      return .again (c :: before) rest
    else if c.toNat < 0x20 then fail .controlCharacter rest
    else .ok (.again (c :: before) rest)

def quotedText : Reader String := loop textRound []

def skipEscape : List Char → Except Fault (List Char)
  | [] => fail .endInText []
  | c :: rest =>
    if c = 'u' then (hexCode rest).map Prod.snd
    else if (shortEscape? c).isSome then .ok rest
    else failPast .invalidEscape (c :: rest)

def skipTextRound (_ : Unit) : List Char → Except Fault (Round Unit Unit)
  | [] => fail .endInText []
  | c :: rest =>
    if c = '"' then .ok (.done () rest)
    else if c = '\\' then (skipEscape rest).map (.again ())
    else if c.toNat < 0x20 then fail .controlCharacter (c :: rest)
    else .ok (.again () rest)

def skipText (cs : List Char) : Except Fault (List Char) := (loop skipTextRound () cs).map Prod.snd

def word : List Char → List Char → Except Fault (List Char)
  | [], rest => .ok rest
  | _ :: _, [] => fail .endInValue []
  | w :: ws, c :: rest => if c = w then word ws rest else failPast .expectedIdent (c :: rest)

end Wayfinder.Json
