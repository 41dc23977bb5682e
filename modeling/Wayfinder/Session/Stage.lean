import Wayfinder.Preference
import Wayfinder.Scroller
import Wayfinder.Spy

namespace Wayfinder.Session

inductive Receiver where
  | probe (number : Nat)
  | spy (number : Nat)
deriving DecidableEq, Repr

inductive Hearer where
  | probe (number : Nat)
  | menu (number : Nat)
deriving DecidableEq, Repr

/-- A part of the navigator and the number of the document that it works on. -/
structure Mounted (α : Type) where
  document : Nat
  part : α

structure Link where
  document : Nat
  token : Nat

structure Snapshot where
  active : Option String
  theme : Theme
  isOpen : Bool
deriving DecidableEq, Repr

structure Viewer where
  probe : Nat
  seen : Snapshot

structure Contents where
  spy : Nat
  scroller : Scroller

structure Menu where
  store : Nat
  contents : Option Contents := none
  themeToken : Option Nat := none
  isOpen : Bool := false
  viewer : Option Viewer := none
  /-- Whether anything still refers to the menu. -/
  alive : Bool := true

/-- The objects that clean up after themselves when nothing holds them any more. -/
inductive Object where
  | spy (number : Nat)
  | menu (number : Nat)
deriving DecidableEq, Repr

/-- What the session calls its objects. A handle without a link is disconnected. -/
structure Names where
  handles : Table (Option Link) := {}
  stores : Table Nat := {}
  spies : Table Nat := {}
  scrollers : Table (Mounted Scroller) := {}
  menus : Table Nat := {}

structure Stage where
  documents : List (Document Receiver)
  current : Nat := 0
  stores : List (Mounted (Preference Hearer)) := []
  spies : List (Mounted (Spy Hearer)) := []
  menus : List Menu := []
  names : Names := {}
  faults : Faults := {}
  /-- An object once for each errand in progress or page view that works on it. -/
  inUse : List Object := []

namespace Stage

variable (s : Stage)

def theme (store : Nat) : Theme :=
  match s.stores[store]? with
  | some m => m.part.theme
  | none => .light

def active? (c : Contents) : Option String := s.spies[c.spy]?.map fun m ↦ m.part.active

def snapshot (m : Menu) : Snapshot := ⟨m.contents.bind s.active?, s.theme m.store, m.isOpen⟩

def sections (m : Menu) : List Section :=
  match m.contents.bind fun c ↦ s.spies[c.spy]? with
  | some mounted => mounted.part.registry.sections
  | none => []

def setDocument (number : Nat) (d : Document Receiver) : Stage :=
  { s with documents := s.documents.set number d }

def setStore (number : Nat) (p : Preference Hearer) : Stage :=
  { s with stores := s.stores.modify number fun m ↦ { m with part := p } }

def setSpy (number : Nat) (spy : Spy Hearer) : Stage :=
  { s with spies := s.spies.modify number fun m ↦ { m with part := spy } }

def setMenu (number : Nat) (m : Menu) : Stage := { s with menus := s.menus.set number m }

def releaseLink (l : Link) : Stage :=
  { s with documents := s.documents.modify l.document (·.release l.token) }

def disconnect : Option Link → Stage
  | some l => s.releaseLink l
  | none => s

def disposeSpy (number : Nat) : Stage :=
  match s.spies[number]? with
  | none => s
  | some m => (s.setSpy number m.part.dispose).disconnect (m.part.watch.map (Link.mk m.document))

def unsubscribeStore (number token : Nat) : Stage :=
  match s.stores[number]? with
  | none => s
  | some m => s.setStore number (m.part.unsubscribe token)

def releaseMenu (number : Nat) : Stage :=
  match s.menus[number]? with
  | none => s
  | some m =>
    let observed :=
      match m.contents with
      | some c => s.disposeSpy c.spy
      | none => s
    match m.themeToken with
    | some token =>
      (observed.unsubscribeStore m.store token).setMenu number { m with themeToken := none }
    | none => observed

def isNamed : Object → Bool
  | .spy number => s.names.spies.any (· = number)
  | .menu number => s.names.menus.any (· = number)

def isHeld (o : Object) : Bool := s.isNamed o || s.inUse.contains o

def destroy : Object → Stage
  | .spy number => s.disposeSpy number
  | .menu number =>
    let released := s.releaseMenu number
    { released with menus := released.menus.modify number fun m ↦ { m with alive := false } }

def reclaim (o : Object) : Stage := if s.isHeld o then s else s.destroy o

def hold (o : Object) : Stage := { s with inUse := o :: s.inUse }

def letGo (o : Object) : Stage := reclaim { s with inUse := s.inUse.erase o } o

def reclaimOld : Option Object → Stage
  | some o => s.reclaim o
  | none => s

def nameSpy (name : String) (number : Nat) : Stage :=
  reclaimOld { s with names := { s.names with spies := s.names.spies.insert name number } }
    ((s.names.spies.get? name).map .spy)

def nameMenu (name : String) (number : Nat) : Stage :=
  reclaimOld { s with names := { s.names with menus := s.names.menus.insert name number } }
    ((s.names.menus.get? name).map .menu)

def nameStore (name : String) (number : Nat) : Stage :=
  { s with names := { s.names with stores := s.names.stores.insert name number } }

/-- A handle that loses its name is disconnected. -/
def nameHandle (name : String) (link : Option Link) : Stage :=
  disconnect { s with names := { s.names with handles := s.names.handles.insert name link } }
    ((s.names.handles.get? name).getD none)

end Stage

end Wayfinder.Session
