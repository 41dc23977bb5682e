import Wayfinder.Session.Stage

namespace Wayfinder.Session

inductive Notice where
  | batch (entries : List Entry)
  | theme (t : Theme)
  | active (id : String)
  | menu (s : Snapshot)

/-- What an operation leaves to be done after it has changed the stage. An errand may put others in
front of those that wait. -/
inductive Errand where
  /-- Goes on with a smooth scroll for at most so many frames. -/
  | frames (document left : Nat)
  | observe (spy : Nat)
  | hand (receiver : Receiver) (batch : List Entry)
  | tell (hearer : Hearer) (news : Notice)
  | redraw (menu : Nat)
  | call (probe : Nat) (notice : Notice)
  | keepWatch (spy : Nat) (watch : Option Nat)
  | keepHandle (name : String) (link : Link)
  | letGo (o : Object)

/-- A changed stage, what was asked of pages on the way, and what is to be done next. -/
structure Progress where
  stage : Stage
  notes : List Note := []
  errands : List Errand := []

def handAll (ds : List (Delivery Receiver)) : List Errand := ds.map fun d ↦ .hand d.owner d.batch

def tellAll (hearers : List Hearer) (news : Notice) : List Errand :=
  hearers.map fun h ↦ .tell h news

namespace Stage

variable (s : Stage)

def advanceFrames (number left : Nat) : Progress :=
  match s.documents[number]?, left with
  | some d, left + 1 =>
    let next := d.advanceFrame
    let more := if next.1.isAnimating then [Errand.frames number left] else []
    { stage := s.setDocument number next.1, errands := handAll next.2 ++ more }
  | _, _ => { stage := s }

def observeSpy (number : Nat) : Progress :=
  match s.spies[number]? with
  | none => { stage := s }
  | some m =>
    match s.documents[m.document]?.bind fun d ↦ m.part.start? (.spy number) d s.faults with
    | none => { stage := s }
    | some start =>
      let first := if start.batch.isEmpty then [] else [Errand.hand (.spy number) start.batch]
      { stage := (s.setSpy number start.spy).setDocument m.document start.document
        notes := start.notes
        errands := first ++ [.keepWatch number start.watch] }

def handSpy (number : Nat) (batch : List Entry) : Progress :=
  match s.spies[number]?.bind fun m ↦ m.part.receive? batch with
  | none => { stage := s }
  | some spy =>
    { stage := s.setSpy number spy, errands := tellAll spy.listeners.toList (.active spy.active) }

/-- A menu that nothing refers to any more hears nothing; else it is held until its listener is
done. -/
def tellMenu (number : Nat) : Progress :=
  match s.menus[number]? with
  | none => { stage := s }
  | some m =>
    if m.alive then
      { stage := s.hold (.menu number), errands := [.redraw number, .letGo (.menu number)] }
    else { stage := s }

def redrawMenu (number : Nat) : Progress :=
  match s.menus[number]? with
  | none => { stage := s }
  | some m =>
    match m.viewer with
    | none => { stage := s }
    | some v =>
      let seen := s.snapshot m
      { stage := s.setMenu number { m with viewer := some { v with seen } }, errands :=
        [.call v.probe (.menu seen)] }

def keepWatch (number : Nat) (watch : Option Nat) : Stage :=
  match s.spies[number]? with
  | none => s
  | some m => s.setSpy number { m.part with watch }

/-- Does one errand. Calling a listener changes nothing on the stage. -/
def carry : Errand → Progress
  | .frames number left => s.advanceFrames number left
  | .observe spy => s.observeSpy spy
  | .hand (.probe probe) batch => { stage := s, errands := [.call probe (.batch batch)] }
  | .hand (.spy spy) batch => s.handSpy spy batch
  | .tell (.probe probe) news => { stage := s, errands := [.call probe news] }
  | .tell (.menu menu) _ => s.tellMenu menu
  | .redraw menu => s.redrawMenu menu
  | .call _ _ => { stage := s }
  | .keepWatch spy watch => { stage := s.keepWatch spy watch }
  | .keepHandle name link => { stage := s.nameHandle name (some link) }
  | .letGo o => { stage := s.letGo o }

end Stage

end Wayfinder.Session
