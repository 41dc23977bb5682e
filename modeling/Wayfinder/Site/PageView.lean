import Wayfinder.Session.Basic
import Wayfinder.Config

namespace Wayfinder.Site

open Session

/-- One view of a page: its menu, which is the only one on the stage, and a listener that keeps what
it showed last. The preference and the table of contents each have an empty document of their
own. -/
structure PageView where
  machine : Machine

namespace PageView

def blankPage : Blueprint := {}

/-- A preference on an empty document, and a second empty document for the table of contents. -/
def emptyStage : Stage where
  documents := [blankPage.build, blankPage.build]
  current := 1
  stores := [⟨0, { key := Config.default.storageKey }⟩]

def preference : Preference Hearer := { key := Config.default.storageKey }

def mounted (s : Stage) : PageView :=
  let listening :=
    match s.menus[0]? with
    | some m => s.listenMenu 0 m 0
    | none => s
  ⟨{ stage := listening.hold (.menu 0), probes := [⟨"", 0, []⟩] }⟩

def bare : PageView := mounted (emptyStage.addMenu 0 preference none)

def ofRegistry (registry : Registry) : PageView :=
  mounted ((emptyStage.addContents registry Config.default.band).addMenu 0 preference
    (some ⟨0, ⟨Config.default.headerOffset⟩⟩))

def ofSections? (sections : List Section) : Option PageView :=
  match Registry.ofSections sections with
  | .ok registry => some (ofRegistry registry)
  | .error _ => none

variable (v : PageView)

def stage : Stage := v.machine.stage

def menu? : Option Menu := v.stage.menus[0]?

def shown : Snapshot :=
  match v.menu?.bind Menu.viewer with
  | some viewer => viewer.seen
  | none => ⟨none, .light, false⟩

def sections : List Section :=
  match v.menu? with
  | some m => v.stage.sections m
  | none => []

def operate (op : Stage → Menu → Progress) : PageView :=
  match v.menu? with
  | some m => ⟨v.machine.settle (op v.stage m)⟩
  | none => v

def toggleMenu : PageView := v.operate fun s m ↦ s.setOpen 0 !m.isOpen

def closeMenu : PageView := v.operate fun s _ ↦ s.setOpen 0 false

def toggleTheme : PageView := v.operate fun s m ↦ s.toggleStore m.store

def select (id : String) : PageView := v.operate fun s m ↦ s.selectSection 0 m id

def isActive (id : String) : Bool := v.shown.active = some id

def forget : PageView := ⟨v.machine.forget⟩

end PageView

end Wayfinder.Site
