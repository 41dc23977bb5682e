import Wayfinder.Url.Address
import Wayfinder.Url.Label

namespace Wayfinder.Url.Host

def percentDecode : List UInt8 → List UInt8
  | a :: b :: c :: rest =>
    let high := Char.ofNat b.toNat
    let low := Char.ofNat c.toNat
    if a.toNat = '%'.toNat && isHex high && isHex low then
      UInt8.ofNat (16 * hexValue high + hexValue low) :: percentDecode rest
    else a :: percentDecode (b :: c :: rest)
  | rest => rest

def decode? (cs : List Char) : Option (List Char) :=
  (String.fromUTF8? ⟨(percentDecode (String.ofList cs).toUTF8.toList).toArray⟩).map String.toList

/-- A name holds no delimiter, all its labels are sound, and if it ends in a number it is an
address. -/
def isName (name : List Char) : Bool :=
  !name.isEmpty && !name.any isDelimiter && ((Text.splitAt '.' name).mapM spelt?).any isNamed &&
    (!endsInNumber name || isNumeric name)

def bracketed? : List Char → Option (List Char)
  | '[' :: rest => if rest.getLast? = some ']' then some rest.dropLast else none
  | _ => none

def accepts (cs : List Char) : Bool :=
  if cs.head? = some '[' then (bracketed? cs).any isGrouped
    else ((decode? cs).bind fold?).any isName

def acceptsFreely (cs : List Char) : Bool :=
  if cs.head? = some '[' then (bracketed? cs).any isGrouped
  else !cs.any ['\x00', ' ', '#', '/', ':', '<', '>', '?', '@', '[', '\\', ']', '^', '|'].contains

end Wayfinder.Url.Host
