import Wayfinder.Proofs.Changes
import Wayfinder.Proofs.Stage
import Wayfinder.Session.Machine

namespace Wayfinder

namespace Preference

variable {σ ω : Type}

structure ThemeChangeOnly (p : Preference σ) (d : Document ω) (c : Change σ ω) : Prop where
  listeners : c.preference.listeners = p.listeners
  told : c.told = if p.theme = c.preference.theme then [] else p.listeners.toList
  alike : Document.Alike d c.document
  steered : Document.SteeredAlike d c.document

theorem load_themeChangeOnly (p : Preference σ) (d : Document ω) (faults : Faults) :
    ThemeChangeOnly p d (p.load d faults) := by
  unfold load
  split
  · exact ⟨rfl, by simp, ⟨rfl, rfl, rfl, .stay rfl rfl⟩, rfl, rfl, rfl⟩
  · dsimp only
    split <;> exact ⟨rfl, rfl, ⟨rfl, rfl, rfl, .stay rfl rfl⟩, rfl, rfl, rfl⟩

theorem toggle_themeChangeOnly (p : Preference σ) (d : Document ω) (faults : Faults) :
    ThemeChangeOnly p d (p.toggle d faults) := by
  unfold toggle
  dsimp only
  split
  · rename_i written ok
    obtain ⟨alike, offset, target, requests⟩ := Document.alike_writeSaved ok
    exact ⟨rfl, rfl, ⟨alike.page, alike.watches, alike.token, .stay offset target⟩, offset,
      target, requests⟩
  · exact ⟨rfl, rfl, ⟨rfl, rfl, rfl, .stay rfl rfl⟩, rfl, rfl, rfl⟩

end Preference

namespace Session

def Errand.isIdle : Errand → Bool
  | .frames _ _ | .observe _ | .hand (.spy _) _ | .call _ _ => true
  | _ => false

def Errand.isFree : Errand → Bool
  | .observe _ | .redraw _ => true
  | _ => false

def Job.scrolls : Job → Bool
  | .act (.page (.userScroll _)) | .act (.page (.scrollTo _ _)) | .act (.page .frame)
  | .errand (.frames _ _) => true
  | _ => false

def Job.steers : Job → Bool
  | .act (.scroller _ (.reveal _)) | .act (.menu _ (.select _)) => true
  | j => j.scrolls

theorem Job.steers_of_scrolls {j : Job} (scrolls : j.scrolls) : j.steers := by
  unfold steers
  split
  · rfl
  · rfl
  · exact scrolls

def Job.observes : Job → Bool
  | .act (.spy _ .observe) | .errand (.observe _) => true
  | _ => false

def HandleOp.frees : HandleOp → Bool
  | .inspect => false
  | _ => true

inductive Use where
  | load
  | toggle
deriving DecidableEq

namespace Stage

variable (s : Stage)

def menu? (name : String) : Option Menu := (s.names.menus.get? name).bind fun n ↦ s.menus[n]?

def use? : Job → Option (Nat × Use)
  | .act (.store name .load) => (s.names.stores.get? name).map (·, .load)
  | .act (.store name .toggle) => (s.names.stores.get? name).map (·, .toggle)
  | .act (.menu name .start) => (s.menu? name).map (·.store, .load)
  | .act (.menu name .toggleTheme) => (s.menu? name).map (·.store, .toggle)
  | _ => none

def observer? : Job → Option Nat
  | .act (.spy name .observe) => s.names.spies.get? name
  | .errand (.observe n) => some n
  | _ => none

def Calls : Object → Prop
  | .spy n => ∃ name, s.names.spies.get? name = some n
  | .menu n => ∃ name, s.names.menus.get? name = some n

def Restyles (j : Job) (k : Nat) : Prop :=
  s.current = k ∧
    ((∃ key value, j = .act (.page (.write key value))) ∨ ∃ t, j = .act (.page (.applyTheme t))) ∨
    ∃ n use m, s.use? j = some (n, use) ∧ s.stores[n]? = some m ∧ m.document = k

end Stage

def handFirst (receiver : Receiver) (batch : List Entry) : List Errand :=
  if batch.isEmpty then [] else [.hand receiver batch]

def beginObserving (spy : Spy Hearer) (d : Document Receiver) : Spy Hearer :=
  { spy with phase := .observing, observed := spy.present d }

variable {may : Stage → Job → Prop}

/-- One edit of the stage and of the errands that wait. Edits that only some jobs make name the
job. -/
inductive Edit (may : Stage → Job → Prop) (s : Stage) : List Errand → Stage → List Errand → Prop
  | skip {t : Errand} {ts : List Errand} (idle : t.isIdle) (allowed : may s (.errand t)) :
      Edit may s (t :: ts) s ts
  | push {t : Errand} {ts : List Errand} (free : t.isFree)
      (allowed : ∃ s₀ name, may s₀ (.act (.menu name .start))) : Edit may s ts s (t :: ts)
  | animate {ts : List Errand} {k left : Nat}
      (allowed : may s (.act (.page .settle)) ∨ ∃ left, may s (.errand (.frames k left))) :
      Edit may s ts s (.frames k left :: ts)
  | handOn {ts : List Errand} {probe : Nat} {batch : List Entry}
      (allowed : may s (.errand (.hand (.probe probe) batch))) :
      Edit may s (.hand (.probe probe) batch :: ts) s (.call probe (.batch batch) :: ts)
  | passOn {ts : List Errand} {probe : Nat} {news : Notice} :
      Edit may s (.tell (.probe probe) news :: ts) s (.call probe news :: ts)
  | amend {ts : List Errand} {k : Nat} {d d' : Document Receiver} (found : s.documents[k]? = some d)
      (alike : Document.Alike d d') (offset : d'.scrollY = d.scrollY)
      (dressed : d.DressedAlike d' ∨ ∃ s₀ j, s₀.Restyles j k ∧ may s₀ j)
      (steered : d.SteeredAlike d' ∨ ∃ s₀ j, j.steers ∧ may s₀ j) :
      Edit may s ts (s.setDocument k d') ts
  | inform {ts : List Errand} {k : Nat} {d d' : Document Receiver}
      (found : s.documents[k]? = some d) (alike : Document.Alike d d') {j : Job}
      (scrolls : j.scrolls) (allowed : may s j) (dressed : d.DressedAlike d') :
      Edit may s ts (s.setDocument k d'.inform.1) (handAll d'.inform.2 ++ ts)
  | emit {ts : List Errand} {k : Nat} {d : Document Receiver} {batch : List Entry}
      (found : s.documents[k]? = some d)
      (allowed : may s (.act (.page (.emit batch)))) :
      Edit may s ts s (handAll (d.emit batch) ++ ts)
  | openPage {ts : List Errand} (page : Blueprint) : Edit may s ts (s.openPage page) ts
  | faults {ts : List Errand} (faults : Faults)
      (allowed : faults.observe = s.faults.observe ∨
        ∃ fails, may s (.act (.page (.failObserve fails)))) :
      Edit may s ts { s with faults } ts
  | watch {ts : List Errand} {k : Nat} {d : Document Receiver} (found : s.documents[k]? = some d)
      (probe : Nat) (name : String) (ids : List String) (band : Band) {label : String}
      {script : List Step} {limit : Nat}
      (allowed : may s (.act (.listen (.watch name ids band) label script limit))) :
      Edit may s ts (s.setDocument k (d.observe (.probe probe) ids band))
        (handFirst (.probe probe) (d.firstBatch ids band) ++ .keepHandle name ⟨k,
          d.nextToken⟩ :: ts)
  | keepHandle {ts : List Errand} {name : String} {link : Link}
      (allowed : may s (.errand (.keepHandle name link))) :
      Edit may s (.keepHandle name link :: ts) (s.nameHandle name (some link)) ts
  | freeHandle {ts : List Errand} (name : String) {op : HandleOp} (frees : op.frees)
      (allowed : may s (.act (.handle name op))) : Edit may s ts (s.nameHandle name none) ts
  | dropHandle {ts : List Errand} {name : String} {link : Option Link}
      (named : s.names.handles.get? name = some link)
      (allowed : may s (.act (.handle name .drop))) :
      Edit may s ts (s.dropHandle name link) ts
  | createStore {ts : List Errand} (name key : String) : Edit may s ts (s.createStore name key) ts
  | adopt {ts : List Errand} {k : Nat} {m : Mounted (Preference Hearer)} {p : Preference Hearer}
      (found : s.stores[k]? = some m) (listeners : p.listeners = m.part.listeners)
      (used : ∃ s₀ j use, s₀.use? j = some (k, use) ∧ may s₀ j) : Edit may s ts (s.setStore k p)
        (tellAll (if m.part.theme = p.theme then [] else m.part.listeners.toList)
          (.theme p.theme) ++ ts)
  | subscribeStore {ts : List Errand} {k : Nat} {m : Mounted (Preference Hearer)}
      (found : s.stores[k]? = some m) (probe : Nat) {name label : String} {script : List Step}
      {limit : Nat} (allowed : may s (.act (.listen (.store name) label script limit))) :
      Edit may s ts (s.setStore k (m.part.subscribe (.probe probe))) ts
  | unsubscribeStore {ts : List Errand} {name : String} {k token : Nat}
      (allowed : may s (.act (.store name (.unsubscribe token))))
      (named : s.names.stores.get? name = some k) :
      Edit may s ts (s.unsubscribeStore k token) ts
  | dropStore {ts : List Errand} (name : String) :
      Edit may s ts { s with names := { s.names with stores := s.names.stores.erase name } } ts
  | createSpy {ts : List Errand} {name : String} {ids : List String} {band : Band}
      (registry : Registry)
      (allowed : may s (.act (.spy name (.create ids band)))) :
      Edit may s ts (s.createSpy name registry band) ts
  | observe {ts : List Errand} {n : Nat} {m : Mounted (Spy Hearer)} {d : Document Receiver}
      (found : s.spies[n]? = some m) (document : s.documents[m.document]? = some d)
      (idle : m.part.phase = .idle) {s₀ : Stage} {j : Job} (observes : j.observes)
        (allowed : may s₀ j)
      (target : s₀.observer? j = some n) : Edit may s ts
        ((s.setSpy n (beginObserving m.part d)).setDocument m.document
          (d.observe (.spy n) (m.part.present d) m.part.band))
        (handFirst (.spy n) (d.firstBatch (m.part.present d) m.part.band) ++
          .keepWatch n (some d.nextToken) :: ts)
  | observeNothing {ts : List Errand} {n : Nat} {m : Mounted (Spy Hearer)} {d : Document Receiver}
      (found : s.spies[n]? = some m) (document : s.documents[m.document]? = some d)
      (idle : m.part.phase = .idle) (fails : s.faults.observe) {s₀ : Stage} {j : Job}
        (observes : j.observes)
      (allowed : may s₀ j) (target : s₀.observer? j = some n) : Edit may s ts
        ((s.setSpy n (beginObserving m.part d)).setDocument m.document d) (.keepWatch n none :: ts)
  | keepWatch {ts : List Errand} {n : Nat} {watch : Option Nat} :
      Edit may s (.keepWatch n watch :: ts) (s.keepWatch n watch) ts
  | disposeSpy {ts : List Errand} {name : String} {n : Nat}
      (allowed : may s (.act (.spy name .dispose)))
      (named : s.names.spies.get? name = some n) : Edit may s ts (s.disposeSpy n) ts
  | subscribeSpy {ts : List Errand} {n : Nat} {m : Mounted (Spy Hearer)}
      (found : s.spies[n]? = some m)
      (probe : Nat) {name label : String} {script : List Step} {limit : Nat}
      (allowed : may s (.act (.listen (.spy name) label script limit))) :
      Edit may s ts (s.setSpy n (m.part.subscribe (.probe probe))) ts
  | unsubscribeSpy {ts : List Errand} {name : String} {n token : Nat} {m : Mounted (Spy Hearer)}
      (found : s.spies[n]? = some m) (named : s.names.spies.get? name = some n)
      (allowed : may s (.act (.spy name (.unsubscribe token)))) :
      Edit may s ts (s.setSpy n (m.part.unsubscribe token)) ts
  | receive {ts : List Errand} {n : Nat} {m : Mounted (Spy Hearer)} {batch : List Entry}
      {spy : Spy Hearer} (found : s.spies[n]? = some m) (moved : m.part.receive? batch = some spy)
      (allowed : may s (.errand (.hand (.spy n) batch))) :
      Edit may s ts (s.setSpy n spy) (tellAll spy.listeners.toList (.active spy.active) ++ ts)
  | dropSpy {ts : List Errand} {name : String} {n : Nat} (allowed : may s (.act (.spy name .drop)))
      (named : s.names.spies.get? name = some n) :
      Edit may s ts (Stage.reclaim { s with names :=
        { s.names with spies := s.names.spies.erase name } }
        (.spy n)) ts
  | createScroller {ts : List Errand} (name : String) (m : Mounted Scroller) :
      Edit may s ts { s with names :=
        { s.names with scrollers := s.names.scrollers.insert name m } } ts
  | createMenu {ts : List Errand} {k : Nat} {m : Mounted (Preference Hearer)}
      (found : s.stores[k]? = some m) (name : String) (registry : Registry) (headerOffset : Length)
      (band : Band) {store : String} {sections : List Section}
        (named : s.names.stores.get? store = some k)
      (valid : Registry.ofSections sections = .ok registry)
      (allowed : may s (.act (.menu name (.create store sections headerOffset band)))) :
      Edit may s ts (s.createMenu name k m.part registry headerOffset band) ts
  | createBare {ts : List Errand} {k : Nat} {m : Mounted (Preference Hearer)}
      (found : s.stores[k]? = some m) (name : String) {store : String}
      (named : s.names.stores.get? store = some k)
        (allowed : may s (.act (.menu name (.createBare store)))) :
      Edit may s ts ((s.addMenu k m.part none).nameMenu name s.menus.length) ts
  | shareMenu {ts : List Errand} {old : String} {n : Nat} {m : Menu} (found : s.menus[n]? = some m)
      (named : s.names.menus.get? old = some n) (name : String)
        (allowed : may s (.act (.menu name (.share old)))) :
      Edit may s ts (s.nameMenu name n) ts
  | disposeMenu {ts : List Errand} {name : String} {n : Nat}
      (allowed : may s (.act (.menu name .dispose)))
      (named : s.names.menus.get? name = some n) : Edit may s ts (s.releaseMenu n) ts
  | dropMenu {ts : List Errand} {name : String} {n : Nat} (named : s.names.menus.get? name = some n)
      (allowed : may s (.act (.menu name .drop))) :
      Edit may s ts (Stage.reclaim { s with names :=
        { s.names with menus := s.names.menus.erase name } }
        (.menu n)) ts
  | setOpen {ts : List Errand} {n : Nat} {m : Menu} (found : s.menus[n]? = some m) (isOpen : Bool) :
      Edit may s ts (s.setMenu n { m with isOpen })
        ((if m.isOpen = isOpen then [] else [.redraw n]) ++ ts)
  | listenMenu {ts : List Errand} {name label : String} {script : List Step}
      {limit n : Nat} {m : Menu}
      (allowed : may s (.act (.listen (.menu name) label script limit)))
        (found : s.menus[n]? = some m)
      (probe : Nat) : Edit may s ts (s.listenMenu n m probe) ts
  | tellMenu {ts : List Errand} {n : Nat} {m : Menu} {news : Notice} (found : s.menus[n]? = some m)
      (alive : m.alive) :
      Edit may s (.tell (.menu n) news :: ts) (s.hold (.menu n))
        (.redraw n :: .letGo (.menu n) :: ts)
  | deaf {ts : List Errand} {n : Nat} {news : Notice} (gone : ∀ m, s.menus[n]? = some m →
      m.alive = false) :
      Edit may s (.tell (.menu n) news :: ts) s ts
  | redraw {ts : List Errand} {n : Nat} {m : Menu} {v : Viewer}
      (allowed : may s (.errand (.redraw n)))
      (found : s.menus[n]? = some m) (viewer : m.viewer = some v) :
      Edit may s (.redraw n :: ts)
        (s.setMenu n { m with viewer := some { v with seen := s.snapshot m } })
        (.call v.probe (.menu (s.snapshot m)) :: ts)
  | unseen {ts : List Errand} {n : Nat} (alone : ∀ m, s.menus[n]? = some m → m.viewer = none) :
      Edit may s (.redraw n :: ts) s ts
  | hold {ts : List Errand} (o : Object) (called : s.Calls o) : Edit may s ts (s.hold o)
      (.letGo o :: ts)
  | letGo {ts : List Errand} {o : Object} (allowed : may s (.errand (.letGo o))) :
      Edit may s (.letGo o :: ts) (s.letGo o) ts

inductive Edits (may : Stage → Job → Prop) : Stage → List Errand → Stage → List Errand → Prop
  | refl {s : Stage} {ts : List Errand} : Edits may s ts s ts
  | cons {s s' s'' : Stage} {ts ts' ts'' : List Errand} :
      Edit may s ts s' ts' → Edits may s' ts' s'' ts'' → Edits may s ts s'' ts''

theorem Edit.single {s s' : Stage} {ts ts' : List Errand} (e : Edit may s ts s' ts') :
    Edits may s ts s' ts' :=
  .cons e .refl

theorem Edits.trans {s s' s'' : Stage} {ts ts' ts'' : List Errand} (es : Edits may s ts s' ts')
    (es' : Edits may s' ts' s'' ts'') : Edits may s ts s'' ts'' := by
  induction es with
  | refl => exact es'
  | cons e _ ih => exact .cons e (ih es')

theorem Edits.keep {I : Stage → List Errand → Prop} {s s' : Stage} {ts ts' : List Errand}
    (es : Edits may s ts s' ts')
    (edit : ∀ {s s' : Stage} {ts ts' : List Errand}, Edit may s ts s' ts' → I s ts → I s' ts')
    (holds : I s ts) : I s' ts' := by
  induction es with
  | refl => exact holds
  | cons e _ ih => exact ih (edit e holds)

/-- The progress is a row of edits, with its errands put in front of those that wait. -/
def Yields (may : Stage → Job → Prop) (s : Stage) (ts : List Errand) (p : Progress) : Prop :=
  Edits may s ts p.stage (p.errands ++ ts)

namespace Yields

variable {s : Stage} {ts : List Errand}

theorem nothing {notes : List Note} : Yields may s ts { stage := s, notes } := .refl

theorem of_edit {s' : Stage} {notes : List Note} (e : Edit may s ts s' ts) :
    Yields may s ts { stage := s', notes } :=
  e.single

theorem onDocument {k : Nat} {f : Document Receiver → Reply}
    (h : ∀ d, s.documents[k]? = some d → Yields may s ts (f d).toProgress) :
    Yields may s ts (s.onDocument k f).toProgress := by
  unfold Stage.onDocument
  split
  · exact h _ ‹_›
  · exact nothing

theorem onHandle {name : String} {f : Option Link → Reply}
    (h : ∀ link, s.names.handles.get? name = some link → Yields may s ts (f link).toProgress) :
    Yields may s ts (s.onHandle name f).toProgress := by
  unfold Stage.onHandle
  split
  · exact h _ ‹_›
  · exact nothing

theorem onStore {name : String} {f : Nat → Mounted (Preference Hearer) → Reply}
    (h : ∀ k m, s.names.stores.get? name = some k → s.stores[k]? = some m →
      Yields may s ts (f k m).toProgress) :
    Yields may s ts (s.onStore name f).toProgress := by
  unfold Stage.onStore
  split
  · exact nothing
  · split
    · exact h _ _ ‹_› ‹_›
    · exact nothing

theorem onSpy {name : String} {f : Nat → Mounted (Spy Hearer) → Reply}
    (h : ∀ n m, s.names.spies.get? name = some n → s.spies[n]? = some m →
      Yields may s ts (f n m).toProgress) :
    Yields may s ts (s.onSpy name f).toProgress := by
  unfold Stage.onSpy
  split
  · exact nothing
  · split
    · exact h _ _ ‹_› ‹_›
    · exact nothing

theorem onMenu {name : String} {f : Nat → Menu → Reply}
    (h : ∀ n m, s.names.menus.get? name = some n → s.menus[n]? = some m →
      Yields may s ts (f n m).toProgress) :
    Yields may s ts (s.onMenu name f).toProgress := by
  unfold Stage.onMenu
  split
  · exact nothing
  · split
    · exact h _ _ ‹_› ‹_›
    · exact nothing

theorem holding {o : Object} {op : Stage → Progress} (called : s.Calls o)
    (h : Yields may (s.hold o) (.letGo o :: ts) (op (s.hold o))) :
    Yields may s ts (s.holding o op) := by
  refine .cons (.hold o called) ?_
  simpa [Yields, Stage.holding] using h

theorem deliver_amend {k : Nat} {d d' : Document Receiver} {outcome : Outcome}
    (found : s.documents[k]? = some d) (alike : Document.Alike d d')
    (offset : d'.scrollY = d.scrollY)
    (dressed : d.DressedAlike d' ∨ ∃ s₀ j, s₀.Restyles j k ∧ may s₀ j)
    (steered : d.SteeredAlike d' ∨ ∃ s₀ j, j.steers ∧ may s₀ j) :
    Yields may s ts (s.deliver k (d', []) outcome).toProgress :=
  of_edit (.amend found alike offset dressed steered)

theorem deliver_shift {k : Nat} {d : Document Receiver}
    {change : Document Receiver × List (Delivery Receiver)} {j : Job}
    {outcome : Outcome} (found : s.documents[k]? = some d) (shift : d.Shifts change)
    (scrolls : j.scrolls) (allowed : may s j) :
    Yields may s ts (s.deliver k change outcome).toProgress := by
  cases shift with
  | stay alike offset dressed =>
    exact deliver_amend found alike offset (.inl dressed)
      (.inr ⟨s, j, Job.steers_of_scrolls scrolls, allowed⟩)
  | inform alike dressed => exact (Edit.inform found alike scrolls allowed dressed).single

theorem deliver_emit {k : Nat} {d : Document Receiver} {batch : List Entry} {outcome : Outcome}
    (found : s.documents[k]? = some d) (allowed : may s (.act (.page (.emit batch)))) :
    Yields may s ts (s.deliver k (d, d.emit batch) outcome).toProgress := by
  have emitted : Edits may s ts s (handAll (d.emit batch) ++ ts) := (Edit.emit found allowed).single
  rwa [Yields, Stage.deliver, Stage.setDocument_self found]

end Yields

namespace Stage

variable (s : Stage) (ts : List Errand)

theorem yields_page {op : PageOp} (allowed : may s (.act (.page op))) :
    Yields may s ts (s.performPage op).toProgress := by
  cases op with
  | userScroll y =>
    exact .onDocument fun d found ↦ .deliver_shift found (d.shifts_userScroll y) rfl allowed
  | frame => exact .onDocument fun d found ↦ .deliver_shift found d.shifts_advanceFrame rfl allowed
  | settle => exact (Edit.animate (.inl allowed)).single
  | scrollTo y animated =>
    exact .onDocument fun d found ↦ .deliver_shift found (d.shifts_scrollTo y animated) rfl allowed
  | emit batch => exact .onDocument fun d found ↦ .deliver_emit found allowed
  | disableStorage =>
    exact .onDocument fun d found ↦
      .deliver_amend found ⟨rfl, rfl, rfl, .stay rfl rfl⟩ rfl (.inl ⟨rfl, rfl⟩)
      (.inl ⟨rfl, rfl, rfl⟩)
  | applyTheme t =>
    exact .onDocument fun d found ↦ .deliver_amend found ⟨rfl, rfl, rfl, .stay rfl rfl⟩ rfl
      (.inr ⟨s, _, .inl ⟨rfl, .inr ⟨t, rfl⟩⟩, allowed⟩) (.inl ⟨rfl, rfl, rfl⟩)
  | read | stored | scheme | anchor | hits | requests => exact .onDocument fun d found ↦ .nothing
  | write key value =>
    refine .onDocument fun d found ↦ ?_
    simp only [writePage]
    split
    · rename_i written ok
      obtain ⟨alike, steered⟩ := Document.alike_writeSaved ok
      exact .of_edit (.amend found alike steered.offset
        (.inr ⟨s, _, .inl ⟨rfl, .inl ⟨key, value, rfl⟩⟩, allowed⟩) (.inl steered))
    · exact .nothing
  | replace page => exact .of_edit (.openPage page)
  | failRead | failWrite => exact .of_edit (.faults _ (.inl rfl))
  | failObserve => exact .of_edit (.faults _ (.inr ⟨_, allowed⟩))

theorem yields_handle {name : String} {op : HandleOp} (allowed : may s (.act (.handle name op))) :
    Yields may s ts (s.performHandle name op).toProgress := by
  cases op with
  | inert => exact .of_edit (.freeHandle name rfl allowed)
  | disconnect => exact .onHandle fun _ _ ↦ .of_edit (.freeHandle name rfl allowed)
  | inspect => exact .onHandle fun _ _ ↦ .nothing
  | drop => exact .onHandle fun _ named ↦ .of_edit (.dropHandle named allowed)

section Use

variable {s₀ : Stage} {j : Job} {k : Nat} {use : Use} (used : s₀.use? j = some (k, use))
  (stores : s₀.stores = s.stores) (allowed : may s₀ j)
include used stores allowed

theorem yields_change
    {op : Preference Hearer → Document Receiver → Faults → Preference.Change Hearer Receiver}
    (themeChangeOnly : ∀ p d faults, Preference.ThemeChangeOnly p d (op p d faults)) :
    Yields may s ts (s.changeStore k op) := by
  unfold changeStore
  split
  · exact .nothing
  · rename_i m found
    split
    · exact .nothing
    · rename_i d present
      obtain ⟨listeners, told, alike, steered⟩ := themeChangeOnly m.part d s.faults
      have adopted : Edit may s ts (s.setStore k (op m.part d s.faults).preference) _ :=
        .adopt found listeners ⟨s₀, j, use, used, allowed⟩
      have restyles : s₀.Restyles j m.document := .inr ⟨k, use, m, used, stores ▸ found, rfl⟩
      rw [← told] at adopted
      have present' :
          (s.setStore k (op m.part d s.faults).preference).documents[m.document]? = some d :=
        present
      exact .cons adopted
        (Edit.amend present' alike steered.offset (.inr ⟨s₀, j, restyles, allowed⟩)
          (.inl steered)).single

theorem yields_load : Yields may s ts (s.loadStore k) :=
  s.yields_change ts used stores allowed Preference.load_themeChangeOnly

theorem yields_toggle : Yields may s ts (s.toggleStore k) :=
  s.yields_change ts used stores allowed Preference.toggle_themeChangeOnly

end Use

theorem yields_store {name : String} {op : StoreOp} (allowed : may s (.act (.store name op))) :
    Yields may s ts (s.performStore name op).toProgress := by
  cases op with
  | create key => exact .of_edit (.createStore name key)
  | load => exact .onStore fun k _ named _ ↦ s.yields_load ts (by rw [use?, named]; rfl) rfl allowed
  | toggle =>
    exact .onStore fun k _ named _ ↦ s.yields_toggle ts (by rw [use?, named]; rfl) rfl allowed
  | unsubscribe token => exact .onStore fun k _ named _ ↦ .of_edit (.unsubscribeStore allowed named)
  | drop => exact .onStore fun _ _ _ _ ↦ .of_edit (.dropStore name)

theorem observeSpy_cases (n : Nat) :
    (s.observeSpy n).stage = s ∧ (s.observeSpy n).errands = [] ∨
    ∃ m d, s.spies[n]? = some m ∧ s.documents[m.document]? = some d ∧ m.part.phase = .idle ∧
      ((s.observeSpy n).stage = (s.setSpy n (beginObserving m.part d)).setDocument m.document
          (d.observe (.spy n) (m.part.present d) m.part.band) ∧
        (s.observeSpy n).errands = handFirst (.spy n)
        (d.firstBatch (m.part.present d) m.part.band) ++
          [.keepWatch n (some d.nextToken)] ∨
      s.faults.observe ∧ (s.observeSpy n).stage =
        (s.setSpy n (beginObserving m.part d)).setDocument m.document d ∧
        (s.observeSpy n).errands = [.keepWatch n none]) := by
  unfold observeSpy
  split
  · exact .inl ⟨rfl, rfl⟩
  · rename_i m found
    split
    · exact .inl ⟨rfl, rfl⟩
    · rename_i start started
      obtain ⟨d, document, started⟩ := Option.bind_eq_some_iff.1 started
      unfold Spy.start? at started
      split at started
      · rename_i idle
        cases started
        refine .inr ⟨m, d, found, document, idle, ?_⟩
        cases fails : s.faults.observe
        · exact .inl ⟨rfl, rfl⟩
        · exact .inr ⟨rfl, rfl, rfl⟩
      · cases started

theorem yields_observe {s₀ : Stage} {j : Job} {n : Nat} (observes : j.observes) (allowed : may s₀ j)
    (target : s₀.observer? j = some n) : Yields may s ts (s.observeSpy n) := by
  obtain ⟨stage, errands⟩ | ⟨m, d, found, document, idle,
      ⟨stage, errands⟩ | ⟨fails, stage, errands⟩⟩ :=
    s.observeSpy_cases n
  · rw [Yields, stage, errands]
    exact .refl
  · rw [Yields, stage, errands, List.append_assoc]
    exact (Edit.observe found document idle observes allowed target).single
  · rw [Yields, stage, errands]
    exact (Edit.observeNothing found document idle fails observes allowed target).single

theorem yields_spy {name : String} {op : SpyOp} (allowed : may s (.act (.spy name op))) :
    Yields may s ts (s.performSpy name op).toProgress := by
  cases op with
  | create ids band =>
    simp only [performSpy]
    split
    · exact .of_edit (.createSpy _ allowed)
    · exact .nothing
  | observe =>
    exact .onSpy fun n _ named _ ↦ .holding ⟨name, named⟩ (yields_observe _ _ rfl allowed named)
  | dispose => exact .onSpy fun n _ named _ ↦ .of_edit (.disposeSpy allowed named)
  | unsubscribe token =>
    exact .onSpy fun n _ named found ↦ .of_edit (.unsubscribeSpy found named allowed)
  | drop => exact .onSpy fun n _ named _ ↦ .of_edit (.dropSpy allowed named)

theorem yields_reveal {s₀ : Stage} {j : Job} {k : Nat} {scroller : Scroller} {id : String}
    (steers : j.steers) (allowed : may s₀ j) : Yields may s ts (s.revealWith k scroller id) := by
  unfold revealWith
  split
  · exact .nothing
  · rename_i d found
    have moved : d.Alike (scroller.reveal d id).1 ∧ (scroller.reveal d id).1.scrollY = d.scrollY ∧
        d.DressedAlike (scroller.reveal d id).1 := by
      unfold Scroller.reveal
      dsimp only
      split
      · exact ⟨⟨rfl, rfl, rfl, .stay rfl rfl⟩, rfl, rfl, rfl⟩
      · exact ⟨⟨rfl, rfl, rfl, .aim _ rfl rfl⟩, rfl, rfl, rfl⟩
    exact .of_edit (.amend found moved.1 moved.2.1 (.inl moved.2.2) (.inr ⟨s₀, j, steers, allowed⟩))

theorem yields_scroller {name : String} {op : ScrollerOp}
    (allowed : may s (.act (.scroller name op))) :
    Yields may s ts (s.performScroller name op).toProgress := by
  cases op with
  | create headerOffset => exact .of_edit (.createScroller name _)
  | reveal id =>
    simp only [performScroller]
    split
    · exact s.yields_reveal ts rfl allowed
    · exact .nothing

theorem yields_setOpen {n : Nat} {isOpen : Bool} : Yields may s ts (s.setOpen n isOpen) := by
  unfold setOpen
  split
  · exact .nothing
  · exact (Edit.setOpen ‹_› isOpen).single

theorem yields_select {s₀ : Stage} {name : String} {n : Nat} {m : Menu} {id : String}
    (allowed : may s₀ (.act (.menu name (.select id)))) :
    Yields may s ts (s.selectSection n m id) := by
  unfold selectSection
  dsimp only
  split
  · rename_i document scroller _
    have moved : Yields may s ts (s.revealWith document scroller id) :=
      s.yields_reveal ts rfl allowed
    have errands : (s.revealWith document scroller id).errands = [] := by
      unfold revealWith
      split <;> rfl
    rw [Yields, errands, List.nil_append] at moved
    exact moved.trans (yields_setOpen _ ts)
  · exact s.yields_setOpen ts

theorem yields_start {s₀ : Stage} {name : String} {use : Use} {n : Nat} {m : Menu}
    (used : s₀.use? (.act (.menu name .start)) = some (m.store, use))
    (stores : s₀.stores = s.stores) (allowed : may s₀ (.act (.menu name .start))) :
    Yields may s ts (s.startMenu n m) := by
  have redraw : Edits may s ts s (.redraw n :: ts) := (Edit.push rfl ⟨s₀, name, allowed⟩).single
  have observe : Edits may s ts s
      (m.contents.toList.map (fun c ↦ Errand.observe c.spy) ++ .redraw n :: ts) := by
    cases m.contents with
    | none => exact redraw
    | some c => exact redraw.trans (Edit.push rfl ⟨s₀, name, allowed⟩).single
  simpa [Yields, startMenu] using observe.trans (s.yields_load _ used stores allowed)

theorem yields_menu {name : String} {op : MenuOp} (allowed : may s (.act (.menu name op))) :
    Yields may s ts (s.performMenu name op).toProgress := by
  have menu {n : Nat} {m : Menu} (named : s.names.menus.get? name = some n)
      (found : s.menus[n]? = some m) :
      s.menu? name = some m := by rw [menu?, named, Option.bind_some, found]
  cases op with
  | create store sections headerOffset band =>
    refine .onStore fun k p named found ↦ ?_
    split
    · exact .of_edit (.createMenu found name _ headerOffset band named ‹_› allowed)
    · exact .nothing
  | createBare store =>
    exact .onStore fun k p named found ↦ .of_edit (.createBare found name named allowed)
  | share menu => exact .onMenu fun n m named found ↦ .of_edit (.shareMenu found named name allowed)
  | start =>
    refine .onMenu fun n m named found ↦ .holding ⟨name, named⟩ ?_
    have used : s.use? (.act (.menu name .start)) = some (m.store, .load) := by
      rw [use?, menu named found, Option.map_some]
    exact yields_start _ _ used rfl allowed
  | dispose => exact .onMenu fun n m named _ ↦ .of_edit (.disposeMenu allowed named)
  | select id => exact .onMenu fun n m named _ ↦ .holding ⟨name, named⟩ (yields_select _ _ allowed)
  | toggle | close => exact .onMenu fun n m named _ ↦ .holding ⟨name, named⟩ (yields_setOpen _ _)
  | toggleTheme =>
    refine .onMenu fun n m named found ↦ .holding ⟨name, named⟩ ?_
    have used : s.use? (.act (.menu name .toggleTheme)) = some (m.store, .toggle) := by
      rw [use?, menu named found, Option.map_some]
    exact yields_toggle _ _ used rfl allowed
  | inspect id => exact .onMenu fun _ _ _ _ ↦ .nothing
  | drop => exact .onMenu fun n m named _ ↦ .of_edit (.dropMenu named allowed)

theorem yields_listen {probe limit : Nat} {spot : Spot} {label : String} {script : List Step}
    (allowed : may s (.act (.listen spot label script limit))) :
    Yields may s ts (s.performListen probe spot).toProgress := by
  cases spot with
  | watch name ids band =>
    refine .onDocument fun d found ↦ ?_
    have watched : Edits may s ts _ _ := (Edit.watch found probe name ids band allowed).single
    rwa [← List.singleton_append, ← List.append_assoc] at watched
  | store name => exact .onStore fun k m _ found ↦ .of_edit (.subscribeStore found probe allowed)
  | spy name => exact .onSpy fun n m _ found ↦ .of_edit (.subscribeSpy found probe allowed)
  | menu name => exact .onMenu fun n m _ found ↦ .of_edit (.listenMenu allowed found probe)

/-- A step is a row of edits. -/
theorem yields_perform {probe : Nat} {step : Step} (allowed : may s (.act step)) :
    Yields may s ts (s.perform probe step).toProgress := by
  cases step with
  | page op => exact s.yields_page ts allowed
  | handle name op => exact s.yields_handle ts allowed
  | store name op => exact s.yields_store ts allowed
  | spy name op => exact s.yields_spy ts allowed
  | scroller name op => exact s.yields_scroller ts allowed
  | menu name op => exact s.yields_menu ts allowed
  | listen spot label script limit => exact s.yields_listen ts allowed
  | malformed name => exact .nothing

theorem edits_carry {t : Errand} (allowed : may s (.errand t)) :
    Edits may s (t :: ts) (s.carry t).stage ((s.carry t).errands ++ ts) := by
  cases t with
  | frames k left =>
    refine .cons (.skip rfl allowed) ?_
    simp only [carry, advanceFrames]
    split
    · rename_i d left found
      have more : Edits may s ts s
          ((if d.advanceFrame.1.isAnimating then [Errand.frames k left] else []) ++ ts) := by
        split
        · exact (Edit.animate (.inr ⟨_, allowed⟩)).single
        · exact .refl
      have moved (rest : List Errand) :
          Yields may s rest (s.deliver k d.advanceFrame .nothing).toProgress :=
        .deliver_shift found d.shifts_advanceFrame rfl allowed
      simpa [deliver] using more.trans (moved _)
    · exact .refl
  | observe spy => exact .cons (.skip rfl allowed) (s.yields_observe ts rfl allowed rfl)
  | hand receiver batch =>
    cases receiver with
    | probe probe => exact (Edit.handOn allowed).single
    | spy n =>
      refine .cons (.skip rfl allowed) ?_
      simp only [carry, handSpy]
      split
      · exact .refl
      · rename_i spy received
        obtain ⟨m, found, moved⟩ := Option.bind_eq_some_iff.1 received
        exact (Edit.receive found moved allowed).single
  | tell hearer news =>
    cases hearer with
    | probe probe => exact Edit.passOn.single
    | menu n =>
      simp only [carry, tellMenu]
      split
      · exact (Edit.deaf (by simp [*])).single
      · rename_i m found
        split
        · exact (Edit.tellMenu found ‹_›).single
        · exact (Edit.deaf (by simp_all)).single
  | redraw n =>
    simp only [carry, redrawMenu]
    split
    · exact (Edit.unseen (by simp [*])).single
    · rename_i m found
      split
      · exact (Edit.unseen (by simp_all)).single
      · exact (Edit.redraw allowed found ‹_›).single
  | call probe notice => exact (Edit.skip rfl allowed).single
  | keepWatch n watch => exact Edit.keepWatch.single
  | keepHandle name link => exact (Edit.keepHandle allowed).single
  | letGo o => exact (Edit.letGo allowed).single

end Stage

end Session

end Wayfinder
