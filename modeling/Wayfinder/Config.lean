import Wayfinder.Band
import Wayfinder.Text.Blank

namespace Wayfinder

structure Config where
  headerOffset : Length
  band : Band
  storageKey : String
deriving DecidableEq

namespace Config

def themeKey : String := "theme"

def darkClass : String := "dark"

def elementId : String := "docnav-config"

def default : Config := ⟨80, Band.default, themeKey⟩

inductive Invalid where
  | headerOffset (got : Length)
  | insetRange
  | insetOverlap (top bottom : Float)
  | storageKey
deriving DecidableEq

def Invalid.reason : Invalid → String
  | headerOffset got => "header_offset_px must be a non-negative number, got " ++ Decimal.plain got
  | insetRange => "band insets must be within 0..=100"
  | insetOverlap top bottom =>
    "band insets overlap: " ++ Decimal.plain top ++ " + " ++ Decimal.plain bottom ++ " > 100"
  | storageKey => "storage_key must not be empty"

def Invalid.message (i : Invalid) : String := "invalid config: " ++ i.reason

def isPercentage (x : Float) : Bool := x.isFinite && 0 ≤ x && x ≤ 100

variable (c : Config)

def invalid? : Option Invalid :=
  if !c.headerOffset.isFinite || c.headerOffset < 0 then some (.headerOffset c.headerOffset)
  else if !isPercentage c.band.topInset || !isPercentage c.band.bottomInset then some .insetRange
  else if 100 < c.band.topInset + c.band.bottomInset then
    some (.insetOverlap c.band.topInset c.band.bottomInset)
  else if Text.allBlank c.storageKey then some .storageKey
  else none

def validate : Except Invalid Config :=
  match c.invalid? with
  | some i => .error i
  | none => .ok c

end Config

end Wayfinder
