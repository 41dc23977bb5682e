import Wayfinder.Session.Step
import Wayfinder.Session.Errand

namespace Wayfinder.Session

structure MenuReport where
  shown : Snapshot
  isActive : Bool
  sections : List Section

inductive Outcome where
  | nothing
  | flag (b : Bool)
  | theme (t : Option Theme)
  | token (n : Nat)
  | text (value : Option String)
  | position (y : Option Length)
  | ids (ids : List String)
  | requests (requests : List (Length × Bool))
  | saved (answer : Except Storage.Error (Option String))
  | handle (connected : Bool)
  | menu (report : MenuReport)
  | refused (e : Registry.Error)
  | badRequest

/-- The outcome of a step is settled before any of the errands it leaves is done. -/
structure Reply extends Progress where
  outcome : Outcome := .nothing

def Progress.reply (p : Progress) (outcome : Outcome) : Reply := { p with outcome }

namespace Stage

variable (s : Stage)

def badRequest : Reply := { stage := s, outcome := .badRequest }

def onDocument (number : Nat) (f : Document Receiver → Reply) : Reply :=
  match s.documents[number]? with
  | some d => f d
  | none => s.badRequest

def deliver (number : Nat) (change : Document Receiver × List (Delivery Receiver))
    (outcome : Outcome) : Reply :=
  { stage := s.setDocument number change.1, errands := handAll change.2, outcome }

def readPage (d : Document Receiver) (key : String) : Reply :=
  { stage := s, notes := [.asked (.read key)], outcome := .saved (d.readSaved s.faults key) }

def writePage (d : Document Receiver) (key value : String) : Reply :=
  let notes := [Note.asked (.write key value)]
  match d.writeSaved s.faults key value with
  | .ok written => { stage := s.setDocument s.current written, notes, outcome := .saved (.ok none) }
  | .error e => { stage := s, notes, outcome := .saved (.error e) }

def openPage (page : Blueprint) : Stage :=
  { s with documents := s.documents ++ [page.build], current := s.documents.length }

def performPage : PageOp → Reply
  | .userScroll y => s.onDocument s.current fun d ↦ s.deliver s.current (d.userScroll y) .nothing
  | .frame => s.onDocument s.current fun d ↦
      s.deliver s.current d.advanceFrame (.flag d.advanceFrame.1.isAnimating)
  | .settle => { stage := s, errands := [.frames s.current Document.settleFrames] }
  | .scrollTo y animated =>
    s.onDocument s.current fun d ↦ s.deliver s.current (d.scrollTo y animated) .nothing
  | .emit batch => s.onDocument s.current fun d ↦ s.deliver s.current (d, d.emit batch) .nothing
  | .disableStorage disabled => s.onDocument s.current fun d ↦
      s.deliver s.current ({ d with storage := { d.storage with disabled } }, []) .nothing
  | .read key => s.onDocument s.current fun d ↦ s.readPage d key
  | .write key value => s.onDocument s.current fun d ↦ s.writePage d key value
  | .stored key =>
    s.onDocument s.current fun d ↦ { stage := s, outcome := .text (d.storage.get? key) }
  | .applyTheme t =>
    s.onDocument s.current fun d ↦ s.deliver s.current (d.applyTheme t, []) .nothing
  | .scheme => s.onDocument s.current fun d ↦ { stage := s, outcome := .theme d.scheme }
  | .anchor id =>
    s.onDocument s.current fun d ↦ { stage := s, outcome := .position (d.page.anchorTop? id) }
  | .hits band =>
    s.onDocument s.current fun d ↦ { stage := s, outcome := .ids (d.page.hits band d.scrollY) }
  | .requests => s.onDocument s.current fun d ↦ { stage := s, outcome := .requests d.requests }
  | .replace page => { stage := s.openPage page }
  | .failRead reason => { stage := { s with faults := { s.faults with read := reason } } }
  | .failWrite reason => { stage := { s with faults := { s.faults with write := reason } } }
  | .failObserve fails => { stage := { s with faults := { s.faults with observe := fails } } }

def onHandle (name : String) (f : Option Link → Reply) : Reply :=
  match s.names.handles.get? name with
  | some link => f link
  | none => s.badRequest

def dropHandle (name : String) (link : Option Link) : Stage :=
  disconnect { s with names := { s.names with handles := s.names.handles.erase name } } link

def performHandle (name : String) : HandleOp → Reply
  | .inert => { stage := s.nameHandle name none }
  | .disconnect => s.onHandle name fun _ ↦ { stage := s.nameHandle name none }
  | .inspect => s.onHandle name fun link ↦ { stage := s, outcome := .handle link.isSome }
  | .drop => s.onHandle name fun link ↦ { stage := s.dropHandle name link }

def onStore (name : String) (f : Nat → Mounted (Preference Hearer) → Reply) : Reply :=
  match s.names.stores.get? name with
  | none => s.badRequest
  | some number =>
    match s.stores[number]? with
    | some m => f number m
    | none => s.badRequest

def createStore (name key : String) : Stage :=
  nameStore { s with stores := s.stores ++ [⟨s.current, { key }⟩] } name s.stores.length

def changeStore (number : Nat)
    (op : Preference Hearer → Document Receiver → Faults → Preference.Change Hearer Receiver) :
    Progress :=
  match s.stores[number]? with
  | none => { stage := s }
  | some m =>
    match s.documents[m.document]? with
    | none => { stage := s }
    | some d =>
      let change := op m.part d s.faults
      { stage := (s.setStore number change.preference).setDocument m.document change.document
        notes := change.notes
        errands := tellAll change.told (.theme change.preference.theme) }

def loadStore (number : Nat) : Progress := s.changeStore number Preference.load

def toggleStore (number : Nat) : Progress := s.changeStore number Preference.toggle

def performStore (name : String) : StoreOp → Reply
  | .create key => { stage := s.createStore name key }
  | .load => s.onStore name fun number _ ↦
      (s.loadStore number).reply (.theme (some ((s.loadStore number).stage.theme number)))
  | .toggle => s.onStore name fun number _ ↦
      (s.toggleStore number).reply (.theme (some ((s.toggleStore number).stage.theme number)))
  | .unsubscribe token => s.onStore name fun number _ ↦ { stage := s.unsubscribeStore number token }
  | .drop => s.onStore name fun _ _ ↦
      { stage := { s with names := { s.names with stores := s.names.stores.erase name } } }

def onSpy (name : String) (f : Nat → Mounted (Spy Hearer) → Reply) : Reply :=
  match s.names.spies.get? name with
  | none => s.badRequest
  | some number =>
    match s.spies[number]? with
    | some m => f number m
    | none => s.badRequest

def holding (o : Object) (op : Stage → Progress) : Progress :=
  let progress := op (s.hold o)
  { progress with errands := progress.errands ++ [.letGo o] }

def createSpy (name : String) (registry : Registry) (band : Band) : Stage :=
  nameSpy { s with spies := s.spies ++ [⟨s.current, { registry, band }⟩] } name s.spies.length

def performSpy (name : String) : SpyOp → Reply
  | .create ids band =>
    match Registry.ofSections (ids.map fun id ↦ ⟨id, id⟩) with
    | .ok registry => { stage := s.createSpy name registry band }
    | .error e => { stage := s, outcome := .refused e }
  | .observe =>
    s.onSpy name fun number _ ↦ (s.holding (.spy number) (·.observeSpy number)).reply .nothing
  | .dispose => s.onSpy name fun number _ ↦ { stage := s.disposeSpy number }
  | .unsubscribe token =>
    s.onSpy name fun number m ↦ { stage := s.setSpy number (m.part.unsubscribe token) }
  | .drop => s.onSpy name fun number _ ↦
      { stage :=
          reclaim { s with names := { s.names with spies := s.names.spies.erase name } }
            (.spy number) }

def revealWith (number : Nat) (scroller : Scroller) (id : String) : Progress :=
  match s.documents[number]? with
  | none => { stage := s }
  | some d =>
    let moved := scroller.reveal d id
    { stage := s.setDocument number moved.1, notes := moved.2 }

def performScroller (name : String) : ScrollerOp → Reply
  | .create headerOffset =>
    { stage :=
        { s with
          names := { s.names with scrollers :=
            s.names.scrollers.insert name ⟨s.current, ⟨headerOffset⟩⟩ } } }
  | .reveal id =>
    match s.names.scrollers.get? name with
    | some m => (s.revealWith m.document m.part id).reply .nothing
    | none => s.badRequest

def onMenu (name : String) (f : Nat → Menu → Reply) : Reply :=
  match s.names.menus.get? name with
  | none => s.badRequest
  | some number =>
    match s.menus[number]? with
    | some m => f number m
    | none => s.badRequest

def addMenu (store : Nat) (p : Preference Hearer) (contents : Option Contents) : Stage :=
  let menu := { store, contents, themeToken := some p.listeners.next }
  { s.setStore store (p.subscribe (.menu s.menus.length)) with menus := s.menus ++ [menu] }

def addContents (registry : Registry) (band : Band) : Stage :=
  let spy : Spy Hearer := { registry, band }
  { s with spies := s.spies ++ [⟨s.current, spy.subscribe (.menu s.menus.length)⟩] }

def createMenu (name : String) (store : Nat) (p : Preference Hearer) (registry : Registry)
    (headerOffset : Length) (band : Band) : Stage :=
  ((s.addContents registry band).addMenu store p (some ⟨s.spies.length, ⟨headerOffset⟩⟩)).nameMenu
    name
    s.menus.length

def setOpen (number : Nat) (isOpen : Bool) : Progress :=
  match s.menus[number]? with
  | none => { stage := s }
  | some m =>
    { stage := s.setMenu number { m with isOpen }, errands :=
      if m.isOpen = isOpen then [] else [.redraw number] }

def startMenu (number : Nat) (m : Menu) : Progress :=
  let loaded := s.loadStore m.store
  let observe := m.contents.toList.map fun c ↦ Errand.observe c.spy
  { loaded with errands := loaded.errands ++ observe ++ [.redraw number] }

def selectSection (number : Nat) (m : Menu) (id : String) : Progress :=
  let moved : Progress :=
    match m.contents.bind fun c ↦ s.spies[c.spy]?.map fun spy ↦ (spy.document, c.scroller) with
    | some (document, scroller) => s.revealWith document scroller id
    | none => { stage := s }
  let closed := moved.stage.setOpen number false
  { closed with notes := moved.notes }

def listenMenu (number : Nat) (m : Menu) (probe : Nat) : Stage :=
  s.setMenu number { m with viewer := some ⟨probe, s.snapshot m⟩ }

def reportMenu (m : Menu) (id : String) : MenuReport :=
  ⟨s.snapshot m, (s.snapshot m).active = some id, s.sections m⟩

def performMenu (name : String) : MenuOp → Reply
  | .create store sections headerOffset band => s.onStore store fun number p ↦
      match Registry.ofSections sections with
      | .ok registry => { stage := s.createMenu name number p.part registry headerOffset band }
      | .error e => { stage := s, outcome := .refused e }
  | .createBare store => s.onStore store fun number p ↦
      { stage := (s.addMenu number p.part none).nameMenu name s.menus.length }
  | .share menu => s.onMenu menu fun number _ ↦ { stage := s.nameMenu name number }
  | .start =>
    s.onMenu name fun number m ↦ (s.holding (.menu number) (·.startMenu number m)).reply .nothing
  | .dispose => s.onMenu name fun number _ ↦ { stage := s.releaseMenu number }
  | .select id =>
    s.onMenu name fun number m ↦
      (s.holding (.menu number) (·.selectSection number m id)).reply .nothing
  | .toggle => s.onMenu name fun number m ↦
    (s.holding (.menu number) (·.setOpen number !m.isOpen)).reply .nothing
  | .close =>
    s.onMenu name fun number _ ↦ (s.holding (.menu number) (·.setOpen number false)).reply .nothing
  | .toggleTheme => s.onMenu name fun number m ↦
      (s.holding (.menu number) (·.toggleStore m.store)).reply
        (.theme (some ((s.toggleStore m.store).stage.theme m.store)))
  | .inspect id => s.onMenu name fun _ m ↦ { stage := s, outcome := .menu (s.reportMenu m id) }
  | .drop => s.onMenu name fun number _ ↦
      { stage :=
          reclaim { s with names := { s.names with menus := s.names.menus.erase name } }
            (.menu number) }

/-- Sets up a watch on the current document. Its handle gets its name only after the first batch is
handed over. -/
def watchPage (d : Document Receiver) (probe : Nat) (name : String) (ids : List String)
    (band : Band) : Progress :=
  let batch := d.firstBatch ids band
  let first := if batch.isEmpty then [] else [Errand.hand (.probe probe) batch]
  { stage := s.setDocument s.current (d.observe (.probe probe) ids band)
    errands := first ++ [.keepHandle name ⟨s.current, d.nextToken⟩] }

def performListen (probe : Nat) : Spot → Reply
  | .watch name ids band =>
    s.onDocument s.current fun d ↦ (s.watchPage d probe name ids band).reply .nothing
  | .store name => s.onStore name fun number m ↦
      { stage := s.setStore number (m.part.subscribe (.probe probe)), outcome :=
        .token m.part.listeners.next }
  | .spy name => s.onSpy name fun number m ↦
      { stage := s.setSpy number (m.part.subscribe (.probe probe)), outcome :=
        .token m.part.listeners.next }
  | .menu name => s.onMenu name fun number m ↦ { stage := s.listenMenu number m probe }

/-- Takes one step; a listener that it sets up gets the number `probe`. -/
def perform (probe : Nat) : Step → Reply
  | .page op => s.performPage op
  | .handle name op => s.performHandle name op
  | .store name op => s.performStore name op
  | .spy name op => s.performSpy name op
  | .scroller name op => s.performScroller name op
  | .menu name op => s.performMenu name op
  | .listen spot _ _ _ => s.performListen probe spot
  | .malformed _ => s.badRequest

end Stage

end Wayfinder.Session
