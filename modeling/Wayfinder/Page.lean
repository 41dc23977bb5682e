import Wayfinder.Band
import Wayfinder.SortBy

namespace Wayfinder

structure Anchor where
  id : String
  top : Length
  height : Length
  /-- Whether its top is undefined because endless anchors stand in its way. -/
  adrift : Bool := false
deriving DecidableEq

/-- Anchors go down the page by their tops, after all those that are adrift. -/
def Anchor.rank (a : Anchor) : Int := if a.adrift then -9223372036854775808 else a.top.rank

structure Entry where
  id : String
  intersecting : Bool
deriving DecidableEq, Repr

structure Page where
  viewport : Length
  anchors : List Anchor := []
  minHeight : Length := 0

namespace Page

def defaultViewport : Length := 800

variable (p : Page)

def contentBottom : Length :=
  p.anchors.foldl (fun bottom a ↦ bottom.larger (a.top + a.height)) p.minHeight

def maxScroll : Length := Length.nonneg (p.contentBottom - p.viewport)

def clampScroll (y : Length) : Length := Length.clamp 0 p.maxScroll y

def anchorTop? (id : String) : Option Length := (p.anchors.find? (·.id = id)).map Anchor.top

/-- The anchors with one of these ids, from the top of the page down. -/
def anchorsOf (ids : List String) : List Anchor :=
  sortBy Anchor.rank (p.anchors.filter fun a ↦ ids.contains a.id)

def touches (band : Band) (y : Length) (a : Anchor) : Bool :=
  band.intersects y p.viewport a.top a.height

def hits (band : Band) (y : Length) : List String :=
  (sortBy Anchor.rank (p.anchors.filter (p.touches band y))).map Anchor.id

def entries (ids : List String) (band : Band) (y : Length) : List Entry :=
  (p.anchorsOf ids).map fun a ↦ ⟨a.id, p.touches band y a⟩

end Page

end Wayfinder
