import Wayfinder.Host
import Wayfinder.Registry
import Wayfinder.Subscribers

namespace Wayfinder

inductive Spy.Phase where
  | idle
  | observing
  | disposed
deriving DecidableEq, Repr

/-- Follows which registered section is being read. -/
structure Spy (σ : Type) where
  registry : Registry
  band : Band
  phase : Spy.Phase := .idle
  active : String := registry.first.id
  /-- The registered ids found on the page when observation began. -/
  observed : List String := []
  /-- The watch to be released on disposal. -/
  watch : Option Nat := none
  listeners : Subscribers σ := {}

namespace Spy

variable {σ ω : Type} (s : Spy σ)

def isObserving : Bool := s.phase = .observing

def search (d : Document ω) : List Note :=
  s.registry.ids.flatMap fun id ↦
    let asked := Note.asked (.anchorTop id (d.page.anchorTop? id))
    if (d.page.anchorTop? id).isSome then [asked]
    else [asked, .debug ("scroll spy: no anchor for section `" ++ id ++ "`")]

def present (d : Document ω) : List String :=
  s.registry.ids.filter fun id ↦ (d.page.anchorTop? id).isSome

/-- What the start of an observation leaves behind: the owner is to get `batch`, and after that the
spy is to keep `watch`. -/
structure Start (σ ω : Type) where
  spy : Spy σ
  document : Document ω
  notes : List Note := []
  batch : List Entry := []
  watch : Option Nat := none

def start? (owner : ω) (d : Document ω) (faults : Faults) : Option (Start σ ω) :=
  if s.phase = .idle then
    let ids := s.present d
    let spy := { s with phase := .observing, observed := ids }
    let notes := s.search d ++ [.asked (.observe ids s.band)]
    some <| if faults.observe then { spy, document := d, notes }
      else
        { spy
          document := d.observe owner ids s.band
          notes
          batch := d.firstBatch ids s.band
          watch := some d.nextToken }
  else none

def winner? (batch : List Entry) : Option String :=
  (batch.reverse.find? fun e ↦ e.intersecting && s.observed.contains e.id).map Entry.id

/-- The spy after a batch, if the batch moves it to another section. -/
def receive? (batch : List Entry) : Option (Spy σ) :=
  if s.phase = .observing then
    (s.winner? batch).bind fun id ↦ if id = s.active then none else some { s with active := id }
  else none

def dispose : Spy σ := { s with phase := .disposed, watch := none }

def subscribe (listener : σ) : Spy σ := { s with listeners := s.listeners.add listener }

def unsubscribe (token : Nat) : Spy σ := { s with listeners := s.listeners.remove token }

end Spy

end Wayfinder
