import Wayfinder.Page
import Wayfinder.Storage
import Wayfinder.Theme

namespace Wayfinder

/-- A standing wish of `owner` to hear which of the given anchors enter or leave a band. -/
structure Watch (ω : Type) where
  token : Nat
  owner : ω
  ids : List String
  band : Band
  /-- What the owner was last told of each anchor. -/
  known : Table Bool

structure Delivery (ω : Type) where
  owner : ω
  batch : List Entry

/-- The entries that tell something new to one who knows `known`, and what is known after them. -/
def newsAfter (known : Table Bool) : List Entry → List Entry × Table Bool
  | [] => ([], known)
  | e :: es =>
    let later := newsAfter (known.insert e.id e.intersecting) es
    (if known.get? e.id = some e.intersecting then later.1 else e :: later.1, later.2)

structure Document (ω : Type) where
  page : Page
  scrollY : Length := 0
  /-- Where a smooth scroll in progress will end. -/
  target : Option Length := none
  requests : List (Length × Bool) := []
  storage : Storage := {}
  scheme : Option Theme := none
  applied : Option Theme := none
  watches : List (Watch ω) := []
  nextToken : Nat := 0

namespace Document

variable {ω : Type} (d : Document ω)

/-- The share of the remaining way that a smooth scroll covers in one frame. -/
def ease : Float := 0.35

def snap : Length := 0.5

def settleFrames : Nat := 1000

def news (w : Watch ω) : List Entry × Table Bool :=
  newsAfter w.known (d.page.entries w.ids w.band d.scrollY)

/-- Brings every watch up to date with the scroll position; each that has news gets one batch. -/
def inform : Document ω × List (Delivery ω) :=
  ({ d with watches := d.watches.map fun w ↦ { w with known := (d.news w).2 } },
    (d.watches.map fun w ↦ Delivery.mk w.owner (d.news w).1).filter (!·.batch.isEmpty))

def userScroll (y : Length) : Document ω × List (Delivery ω) :=
  inform { d with target := none, scrollY := d.page.clampScroll y }

def scrollTo (position : Length) (animated : Bool) : Document ω × List (Delivery ω) :=
  let asked := { d with requests := d.requests ++ [(position, animated)] }
  if animated then ({ asked with target := some (d.page.clampScroll position) }, [])
  else inform { asked with target := none, scrollY := d.page.clampScroll position }

def nextFrame? : Option (Document ω) :=
  d.target.map fun target ↦
    let remaining := target - d.scrollY
    if remaining.abs ≤ snap then { d with scrollY := target, target := none }
    else { d with scrollY := d.scrollY + remaining * ease }

def advanceFrame : Document ω × List (Delivery ω) :=
  match d.nextFrame? with
  | none => (d, [])
  | some next => next.inform

def isAnimating : Bool := d.target.isSome

/-- Hands the same entries to every watch, whatever they say. -/
def emit (batch : List Entry) : List (Delivery ω) := d.watches.map fun w ↦ ⟨w.owner, batch⟩

def firstBatch (ids : List String) (band : Band) : List Entry := d.page.entries ids band d.scrollY

/-- The new watch's token is `d.nextToken`. -/
def observe (owner : ω) (ids : List String) (band : Band) : Document ω :=
  let known := (d.firstBatch ids band).foldl (fun known e ↦ known.insert e.id e.intersecting) {}
  { d with watches := d.watches ++ [⟨d.nextToken, owner, ids, band, known⟩], nextToken :=
    d.nextToken + 1 }

def release (token : Nat) : Document ω := { d with watches := d.watches.filter (·.token ≠ token) }

def applyTheme (t : Theme) : Document ω := { d with applied := some t }

end Document

inductive Furnishing where
  | anchor (id : String) (top height : Length)
  | stack (ids : List String) (start height : Length)
  | height (h : Length)
  | scheme (t : Theme)
  | saved (key value : String)

structure Blueprint where
  viewport : Length := Page.defaultViewport
  furnishings : List Furnishing := []

namespace Blueprint

variable {ω : Type}

/-- Number `i` of a stack of anchors of one height without gaps. It is adrift if its top cannot be
told from numbers. -/
def stackedAnchor (start height : Length) (i : Nat) (id : String) : Anchor :=
  let top := start + height * Float.ofNat i
  { id, top, height, adrift := top.isNaN && !start.isNaN && !height.isNaN }

def stacked (start height : Length) : Nat → List String → List Anchor
  | _, [] => []
  | i, id :: ids => stackedAnchor start height i id :: stacked start height (i + 1) ids

def addAnchors (d : Document ω) (anchors : List Anchor) : Document ω :=
  { d with page := { d.page with anchors := d.page.anchors ++ anchors } }

def furnish (d : Document ω) : Furnishing → Document ω
  | .anchor id top height => addAnchors d [{ id, top, height }]
  | .stack ids start height => addAnchors d (stacked start height 0 ids)
  | .height h => { d with page := { d.page with minHeight := h } }
  | .scheme t => { d with scheme := some t }
  | .saved key value => { d with storage := d.storage.put key value }

def build (b : Blueprint) : Document ω :=
  b.furnishings.foldl furnish { page := { viewport := b.viewport.nonneg } }

end Blueprint

end Wayfinder
