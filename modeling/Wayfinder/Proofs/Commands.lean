import Wayfinder.Proofs.Traffic

namespace Wayfinder

/-- What a document is told about where to go: the reader scrolls it, or it is asked to scroll. -/
inductive Command where
  | user (y : Length)
  | request (y : Length) (animated : Bool)

namespace Command

def position : Command → Length
  | user y | request y _ => y

def request? : Command → Option (Length × Bool)
  | user _ => none
  | request y animated => some (y, animated)

def goal? (p : Page) : Command → Option Length
  | request y true => some (p.clampScroll y)
  | _ => none

end Command

namespace Document

variable {ω : Type} {d d' : Document ω}

def obey (d : Document ω) : Command → Document ω
  | .user y => (d.userScroll y).1
  | .request y animated => (d.scrollTo y animated).1

theorem page_obey (d : Document ω) (c : Command) : (d.obey c).page = d.page := by
  cases c with
  | user y => exact (d.shifts_userScroll y).page
  | request y animated => exact (d.shifts_scrollTo y animated).page

theorem target_obey (d : Document ω) (c : Command) : (d.obey c).target = c.goal? d.page := by
  cases c with
  | user y => rfl
  | request y animated => cases animated <;> rfl

theorem offset_obey {c : Command} (rest : (d.obey c).target = none) :
    (d.obey c).scrollY = d.page.clampScroll c.position := by
  cases c with
  | user y => rfl
  | request y animated =>
    cases animated with
    | true => cases rest
    | false => rfl

theorem requests_obey (d : Document ω) (c : Command) :
    (d.obey c).requests = d.requests ++ c.request?.toList := by
  cases c with
  | user y => exact (List.append_nil _).symm
  | request y animated => cases animated <;> rfl

def isNear (d : Document ω) : Bool := d.target.any fun t ↦ (t - d.scrollY).abs ≤ snap

theorem steered_advanceFrame (d : Document ω) :
    d.advanceFrame.1.requests = d.requests ∧
      if d.isNear then d.target = some d.advanceFrame.1.scrollY ∧ d.advanceFrame.1.target = none
      else d.advanceFrame.1.target = d.target := by
  cases target : d.target with
  | none => simp [isNear, advanceFrame, nextFrame?, target]
  | some t =>
    by_cases near : (t - d.scrollY).abs ≤ snap
    · simp [isNear, advanceFrame, nextFrame?, inform, target, near]
    · simp [isNear, advanceFrame, nextFrame?, inform, target, near]

theorem advanceFrame_of_rest (rest : d.target = none) : d.advanceFrame.1 = d := by
  simp [advanceFrame, nextFrame?, rest]

theorem SteeredAlike.refl (d : Document ω) : d.SteeredAlike d := ⟨rfl, rfl, rfl⟩

theorem SteeredAlike.trans {d'' : Document ω} (h : d.SteeredAlike d') (h' : d'.SteeredAlike d'') :
    d.SteeredAlike d'' :=
  ⟨h'.offset.trans h.offset, h'.target.trans h.target, h'.requests.trans h.requests⟩

end Document

theorem Blueprint.steered_build {ω : Type} (page : Blueprint) :
    (page.build : Document ω).scrollY = 0 ∧
    (page.build : Document ω).target = none ∧ (page.build : Document ω).requests = [] := by
  have furnished (d : Document ω) (fresh : d.scrollY = 0 ∧ d.target = none ∧ d.requests = []) :
      (page.furnishings.foldl furnish d).scrollY = 0 ∧
      (page.furnishings.foldl furnish d).target = none ∧
        (page.furnishings.foldl furnish d).requests = [] := by
    induction page.furnishings generalizing d with
    | nil => exact fresh
    | cons f fs ih => exact ih _ (by cases f <;> exact fresh)
  exact furnished _ ⟨rfl, rfl, rfl⟩

namespace Session

namespace Stage

variable (s : Stage)

def scroller? (m : Menu) : Option (Mounted Scroller) :=
  m.contents.bind fun c ↦ s.spies[c.spy]?.map fun spy ↦ ⟨spy.document, c.scroller⟩

def reveals? : Job → Option (Mounted Scroller × String)
  | .act (.scroller name (.reveal id)) => (s.names.scrollers.get? name).map (·, id)
  | .act (.menu name (.select id)) => ((s.menu? name).bind s.scroller?).map (·, id)
  | _ => none

/-- What a job tells document `k`, which is `d`. A section without an anchor is not asked for. -/
def tells? (k : Nat) (d : Document Receiver) : Job → Option Command
  | .act (.page (.userScroll y)) => if s.current = k then some (.user y) else none
  | .act (.page (.scrollTo y animated)) =>
    if s.current = k then some (.request y animated) else none
  | j => (s.reveals? j).bind fun r ↦
      if r.1.document = k then
        (d.page.anchorTop? r.2).map fun top ↦
          .request (Scroller.offset top r.1.part.headerOffset) true
      else none

def frames (k : Nat) : Job → Bool
  | .act (.page .frame) => s.current = k
  | .errand (.frames i (_ + 1)) => i = k
  | _ => false

def steered (k : Nat) (j : Job) (d : Document Receiver) : Document Receiver :=
  if s.frames k j then d.advanceFrame.1 else (s.tells? k d j).elim d d.obey

variable {s} {k : Nat} {j : Job}

theorem tells?_of_not_steers (d : Document Receiver) (calm : j.steers = false) :
    s.tells? k d j = none := by
  unfold tells?
  split
  · cases calm
  · cases calm
  · unfold reveals?
    split
    · cases calm
    · cases calm
    · rfl

theorem frames_of_not_steers (calm : j.steers = false) : s.frames k j = false := by
  unfold frames
  split
  · cases calm
  · cases calm
  · rfl

theorem tells?_of_frames (d : Document Receiver) (frames : s.frames k j) :
    s.tells? k d j = none := by
  unfold Stage.frames at frames
  split at frames
  · rfl
  · rfl
  · cases frames

theorem page_steered (d : Document Receiver) : (s.steered k j d).page = d.page := by
  unfold steered
  split
  · exact d.shifts_advanceFrame.page
  · cases s.tells? k d j with
    | none => rfl
    | some c => exact d.page_obey c

end Stage

namespace Move

variable (e : Move) (k : Nat)

def command? : Option Command :=
  e.machine.stage.documents[k]?.bind fun d ↦ e.machine.stage.tells? k d e.job

def frames : Bool := e.machine.stage.frames k e.job

def lands : Bool := e.frames k && e.machine.stage.documents[k]?.any Document.isNear

end Move

variable {may : Stage → Step → Prop} {m m' : Machine} {jobs jobs' : List Job} {j : Job}
  {past : List Move} {k : Nat} {d : Document Receiver}

namespace Stage

variable {s s' : Stage} {i : Nat} {f : Document Receiver → Document Receiver}

/-- One document changes, if it is there. -/
theorem getElem?_changed (there : ∀ d, s.documents[i]? = some d →
    s'.documents = s.documents.set i (f d))
    (absent : s.documents[i]? = none → s'.documents = s.documents) :
    s'.documents[k]? = s.documents[k]?.map fun d ↦ if i = k then f d else d := by
  cases old : s.documents[i]? with
  | none =>
    rw [absent old]
    by_cases same : i = k
    · rw [← same, old, Option.map_none]
    · simp [same]
  | some d =>
    rw [there d old]
    by_cases same : i = k
    · have bound := (List.getElem?_eq_some_iff.1 old).1
      rw [← same, List.getElem?_set_self bound, old]
      simp
    · rw [List.getElem?_set_ne same]
      simp [same]

theorem getElem?_deliver {g : Document Receiver → Document Receiver × List (Delivery Receiver)}
    {outcome : Document Receiver → Outcome} :
    (s.onDocument i fun d ↦ s.deliver i (g d) (outcome d)).stage.documents[k]? =
      s.documents[k]?.map fun d ↦ if i = k then (g d).1 else d := by
  apply getElem?_changed (f := fun d ↦ (g d).1)
  · intro d there
    simp only [onDocument, there, deliver, setDocument]
  · intro absent
    simp only [onDocument, absent, badRequest]

theorem getElem?_advanceFrames (left : Nat) : (s.advanceFrames i (left + 1)).stage.documents[k]? =
    s.documents[k]?.map fun d ↦ if i = k then d.advanceFrame.1 else d := by
  apply getElem?_changed (f := fun d ↦ d.advanceFrame.1)
  · intro d there
    simp only [advanceFrames, there, setDocument]
  · intro absent
    simp only [advanceFrames, absent]

theorem reveal_eq (scroller : Scroller) (d : Document Receiver) (id : String) :
    (scroller.reveal d id).1 =
    ((d.page.anchorTop? id).map fun top ↦
      .request (Scroller.offset top scroller.headerOffset) true).elim d d.obey := by
  unfold Scroller.reveal
  cases d.page.anchorTop? id <;> rfl

theorem getElem?_revealWith (scroller : Scroller) (id : String) :
    (s.revealWith i scroller id).stage.documents[k]? =
    s.documents[k]?.map fun d ↦ if i = k then (scroller.reveal d id).1 else d := by
  apply getElem?_changed (f := fun d ↦ (scroller.reveal d id).1)
  · intro d there
    simp only [revealWith, there, setDocument]
  · intro absent
    simp only [revealWith, absent]

theorem documents_setOpen (s : Stage) (n : Nat) (isOpen : Bool) :
    (s.setOpen n isOpen).stage.documents = s.documents := by
  unfold setOpen
  split <;> rfl

/-- A menu from which a section is chosen has its scroller reveal it. -/
theorem documents_select {name id : String} : (s.performMenu name (.select id)).stage.documents =
    (((s.menu? name).bind s.scroller?).elim s fun r ↦
      (s.revealWith r.document r.part id).stage).documents := by
  have held (i : Nat) (o : Object) (scroller : Scroller) :
      ((s.hold o).revealWith i scroller id).stage.documents =
        (s.revealWith i scroller id).stage.documents := by
    have same : (s.hold o).documents = s.documents := rfl
    unfold revealWith
    rw [same]
    split <;> rfl
  have spies (n : Nat) : (s.hold (.menu n)).spies = s.spies := rfl
  simp only [performMenu, onMenu, menu?]
  cases s.names.menus.get? name with
  | none => rfl
  | some n =>
    cases found : s.menus[n]? with
    | none => simp [found, badRequest]
    | some menu =>
      simp only [Option.bind_some, found, Progress.reply, holding, selectSection,
        documents_setOpen, spies]
      cases contents : menu.contents with
      | none => simp [scroller?, contents, hold]
      | some c =>
        cases spy : s.spies[c.spy]? with
        | none => simp [scroller?, contents, spy, hold]
        | some mounted => simp [scroller?, contents, spy, held]

theorem steered_of_reveals {r : Option (Mounted Scroller)} {id : String}
    (reveals : s.reveals? j = r.map (·, id)) (still : s.frames k j = false)
    (tells : ∀ d, s.tells? k d j = (s.reveals? j).bind fun r ↦ if r.1.document = k then
      (d.page.anchorTop? r.2).map fun top ↦
        .request (Scroller.offset top r.1.part.headerOffset) true else none) :
    (r.elim s fun r ↦ (s.revealWith r.document r.part id).stage).documents[k]? =
      s.documents[k]?.map (s.steered k j) := by
  have step (d : Document Receiver) : s.steered k j d =
      r.elim d fun r ↦ if r.document = k then (r.part.reveal d id).1 else d := by
    rw [steered, still, tells, reveals]
    cases r with
    | none => rfl
    | some r =>
      by_cases here : r.document = k
      · simp [here, reveal_eq]
      · simp [here]
  rw [funext step]
  cases r with
  | none => simp
  | some r => exact getElem?_revealWith r.part id

end Stage

/-- What a job that steers documents makes of them. -/
theorem Turn.steered (turn : Turn may m jobs j m' jobs') (steers : j.steers) (k : Nat) :
    m'.stage.documents[k]? = m.stage.documents[k]?.map (m.stage.steered k j) := by
  obtain ⟨step, rfl, -, stage, -⟩ | ⟨t, rest, rfl, -, stage, -⟩ | ⟨⟨_, _, rfl⟩, -⟩ := turn.effect
  · rw [stage]
    cases step with
    | page op =>
      cases op with
      | userScroll y | scrollTo y animated | frame =>
        apply Stage.getElem?_deliver.trans
        congr 1
        funext d
        by_cases here : m.stage.current = k
        · simp [Stage.steered, Stage.frames, Stage.tells?, Document.obey, here]
        · simp [Stage.steered, Stage.frames, Stage.tells?, Stage.reveals?, here]
      | _ => cases steers
    | scroller name op =>
      cases op with
      | create => cases steers
      | reveal id =>
        have shown : (m.stage.performScroller name (.reveal id)).stage =
            (m.stage.names.scrollers.get? name).elim m.stage fun r ↦
              (m.stage.revealWith r.document r.part id).stage := by
          unfold Stage.performScroller
          cases m.stage.names.scrollers.get? name <;> rfl
        rw [Stage.perform, shown]
        exact Stage.steered_of_reveals rfl rfl fun d ↦ rfl
    | menu name op =>
      cases op with
      | select id =>
        rw [Stage.perform, Stage.documents_select]
        exact Stage.steered_of_reveals rfl rfl fun d ↦ rfl
      | _ => cases steers
    | _ => cases steers
  · rw [stage]
    cases t with
    | frames i left =>
      cases left with
      | zero =>
        have none : (m.stage.advanceFrames i 0).stage = m.stage := by
          unfold Stage.advanceFrames
          cases m.stage.documents[i]? <;> rfl
        have same : m.stage.steered k (.errand (.frames i 0)) = id := rfl
        rw [Stage.carry, none, same, Option.map_id, id]
      | succ left =>
        apply (Stage.getElem?_advanceFrames left).trans
        congr 1
        funext d
        by_cases here : i = k
        · simp [Stage.steered, Stage.frames, here]
        · simp [Stage.steered, Stage.frames, Stage.tells?, Stage.reveals?, here]
    | _ => cases steers
  · cases steers

def Unsteered (d : Document Receiver) : Prop := d.scrollY = 0 ∧ d.target = none ∧ d.requests = []

/-- Any other job leaves documents as they are scrolled. -/
theorem Edits.unsteered {s₀ s s' : Stage} {ts ts' : List Errand}
    (es : Edits (Only s₀ j) s ts s' ts') (calm : j.steers = false) :
    Grows (fun d d' ↦ d'.page = d.page ∧ d.SteeredAlike d') Unsteered s.documents s'.documents := by
  induction es with
  | refl => exact .refl fun d ↦ ⟨rfl, .refl d⟩
  | cons e _ ih =>
    refine Grows.trans (e.grows (fun d ↦ ⟨rfl, .refl d⟩) Blueprint.steered_build ?_ ?_ ?_ ?_) ih ?_
      ?_
    · intro k d d' alike _ _ steered
      obtain steered | ⟨_, _, steers, -, rfl⟩ := steered
      · exact ⟨alike.page, steered⟩
      · rw [calm] at steers
        cases steers
    · rintro d d' _ _ ⟨_, scrolls, -, rfl⟩
      rw [Job.steers_of_scrolls scrolls] at calm
      cases calm
    · intro d o ids band
      exact ⟨rfl, rfl, rfl, rfl⟩
    · intro d token
      exact ⟨rfl, rfl, rfl, rfl⟩
    · intro a b c ab bc
      exact ⟨bc.1.trans ab.1, ab.2.trans bc.2⟩
    · intro a b fresh ab
      exact ⟨ab.2.offset.trans fresh.1, ab.2.target.trans fresh.2.1, ab.2.requests.trans fresh.2.2⟩

theorem Turn.document (turn : Turn may m jobs j m' jobs') (found : m.stage.documents[k]? = some d) :
    ∃ d', m'.stage.documents[k]? = some d' ∧ d'.page = d.page ∧
      (m.stage.steered k j d).SteeredAlike d' := by
  cases steers : j.steers with
  | true =>
    rw [turn.steered steers k, found]
    exact ⟨_, rfl, Stage.page_steered d, .refl _⟩
  | false =>
    obtain ⟨d', found', page, alike⟩ := (turn.edits_only.unsteered steers).old found
    refine ⟨d', found', page, ?_⟩
    rwa [Stage.steered, Stage.frames_of_not_steers steers, Stage.tells?_of_not_steers d steers]

theorem Turn.new_document {d' : Document Receiver} (turn : Turn may m jobs j m' jobs')
    (absent : m.stage.documents[k]? = none) (found : m'.stage.documents[k]? = some d') :
    Unsteered d' := by
  cases steers : j.steers with
  | true =>
    rw [turn.steered steers k, absent] at found
    cases found
  | false => exact (turn.edits_only.unsteered steers).new absent found

/-- What holds of a new document, and goes on to hold as the document obeys commands and advances,
holds of every document, along with the moves made so far. -/
theorem History.steer {P : List Move → Document Receiver → Prop} (run : History may past m jobs)
    (found : m.stage.documents[k]? = some d)
    (new : ∀ {past d}, (∀ e ∈ past, e.machine.stage.documents[k]? = none) → Unsteered d → P past d)
    (turn : ∀ {past d d' e}, P past d → e.machine.stage.documents[k]? = some d → d'.page = d.page →
      (e.machine.stage.steered k e.job d).SteeredAlike d' → P (e :: past) d') : P past d := by
  have both : (m.stage.documents[k]? = none → ∀ e ∈ past, e.machine.stage.documents[k]? = none) ∧
      ∀ d, m.stage.documents[k]? = some d → P past d := by
    clear found
    induction run with
    | opened page =>
      refine ⟨by simp, fun d found ↦ ?_⟩
      obtain rfl := List.mem_singleton.1 (List.mem_of_getElem? found)
      exact new (by simp) page.steered_build
    | @turn past m m' jobs jobs' j _ next ih =>
      cases old : m.stage.documents[k]? with
      | none =>
        have before : ∀ e ∈ (⟨m, jobs, j⟩ : Move) :: past, e.machine.stage.documents[k]? = none :=
          List.forall_mem_cons.2 ⟨old, ih.1 old⟩
        exact ⟨fun _ ↦ before, fun d found ↦ new before (next.new_document old found)⟩
      | some d₀ =>
        obtain ⟨d', found', page, alike⟩ := next.document old
        refine ⟨fun absent ↦ ?_, fun d found ↦ ?_⟩
        · rw [absent] at found'
          cases found'
        · obtain rfl := Option.some.inj (found.symm.trans found')
          exact turn (e := ⟨m, jobs, j⟩) (ih.2 d₀ old) old page alike
  exact both.2 d found

/-- Document `k`, on page `p`, is on its way to `t`: it was told so, and since then it has neither
been told anything else nor landed. -/
def Pursues (past : List Move) (k : Nat) (p : Page) (t : Length) : Prop :=
  ∃ since order before y, past = since ++ order :: before ∧
    order.command? k = some (.request y true) ∧
    (∀ e ∈ since, e.command? k = none ∧ e.lands k = false) ∧ t = p.clampScroll y

variable {e : Move} {p : Page} {t : Length}

theorem pursues_of_told {c : Command} (told : e.command? k = some c) :
    Pursues (e :: past) k p t ↔ c.goal? p = some t := by
  constructor
  · rintro ⟨since, order, before, y, split, ordered, undisturbed, rfl⟩
    cases since with
    | nil =>
      cases split
      obtain rfl := Option.some.inj (told.symm.trans ordered)
      rfl
    | cons e' since =>
      cases split
      have untold := (undisturbed e (.head _)).1
      rw [told] at untold
      cases untold
  · intro goal
    cases c with
    | user y => cases goal
    | request y animated =>
      cases animated with
      | false => cases goal
      | true =>
        cases goal
        exact ⟨[], e, past, y, rfl, told, by simp, rfl⟩

theorem pursues_of_untold (untold : e.command? k = none) :
    Pursues (e :: past) k p t ↔ e.lands k = false ∧ Pursues past k p t := by
  constructor
  · rintro ⟨since, order, before, y, split, ordered, undisturbed, rfl⟩
    cases since with
    | nil =>
      cases split
      rw [untold] at ordered
      cases ordered
    | cons e' since =>
      cases split
      obtain ⟨⟨-, first⟩, later⟩ := List.forall_mem_cons.1 undisturbed
      exact ⟨first, since, order, before, y, rfl, ordered, later, rfl⟩
  · rintro ⟨aloft, since, order, before, y, rfl, ordered, undisturbed, rfl⟩
    exact ⟨e :: since, order, before, y, rfl, ordered,
      List.forall_mem_cons.2 ⟨⟨untold, aloft⟩, undisturbed⟩, rfl⟩

def lastCommand? (past : List Move) (k : Nat) : Option Command := past.findSome? (·.command? k)

theorem lastCommand?_of_untold (untold : e.command? k = none) :
    lastCommand? (e :: past) k = lastCommand? past k := by
  rw [lastCommand?, List.findSome?_cons, untold, ← lastCommand?]

theorem lastCommand?_of_told {c : Command} (told : e.command? k = some c) :
    lastCommand? (e :: past) k = some c := by
  rw [lastCommand?, List.findSome?_cons, told]

theorem lastCommand?_append {since before : List Move} (untold : ∀ e ∈ since, e.command? k = none) :
    lastCommand? (since ++ before) k = lastCommand? before k := by
  induction since with
  | nil => rfl
  | cons e since ih =>
    obtain ⟨first, later⟩ := List.forall_mem_cons.1 untold
    rw [List.cons_append, lastCommand?_of_untold first, ih later]

theorem Pursues.lastCommand? (h : Pursues past k p t) :
    ∃ y, lastCommand? past k = some (.request y true) ∧ t = p.clampScroll y := by
  obtain ⟨since, order, before, y, rfl, ordered, undisturbed, rfl⟩ := h
  refine ⟨y, ?_, rfl⟩
  rw [lastCommand?_append fun e member ↦ (undisturbed e member).1, lastCommand?_of_told ordered]

/-- Where the document is to stand after a command, and at the top before any. -/
def standing (p : Page) (c : Option Command) : Length := c.elim 0 fun c ↦ p.clampScroll c.position

def requestsOf (past : List Move) (k : Nat) : List (Length × Bool) :=
  past.reverse.filterMap fun e ↦ (e.command? k).bind Command.request?

theorem requestsOf_cons : requestsOf (e :: past) k =
    requestsOf past k ++ ((e.command? k).bind Command.request?).toList := by
  rw [requestsOf, List.reverse_cons, List.filterMap_append, ← requestsOf, List.filterMap_cons]
  cases (e.command? k).bind Command.request? <;> rfl

structure Obeys (past : List Move) (k : Nat) (d : Document Receiver) : Prop where
  requests : d.requests = requestsOf past k
  target : ∀ t, d.target = some t ↔ Pursues past k d.page t
  offset : d.target = none → d.scrollY = standing d.page (lastCommand? past k)
  page : ∀ e ∈ past, ∀ d₀, e.machine.stage.documents[k]? = some d₀ → d₀.page = d.page

namespace Obeys

variable {d' : Document Receiver} (h : Obeys past k d)
  (found : e.machine.stage.documents[k]? = some d) (page : d'.page = d.page)
include h found page

theorem page_cons : ∀ e' ∈ e :: past, ∀ d₀, e'.machine.stage.documents[k]? = some d₀ →
    d₀.page = d'.page := by
  rw [page]
  refine List.forall_mem_cons.2 ⟨fun d₀ found₀ ↦ ?_, h.page⟩
  rw [Option.some.inj (found₀.symm.trans found)]

theorem go_on (untold : e.command? k = none) (aloft : e.lands k = false)
    (requests : d'.requests = d.requests) (target : d'.target = d.target)
    (offset : d.target = none → d'.scrollY = d.scrollY) : Obeys (e :: past) k d' where
  requests := by
    rw [requests, h.requests, requestsOf_cons, untold, Option.bind_none, Option.toList_none,
      List.append_nil]
  target t := by rw [target, h.target, page, pursues_of_untold untold, and_iff_right aloft]
  offset rest := by
    rw [target] at rest
    rw [offset rest, h.offset rest, page, lastCommand?_of_untold untold]
  page := h.page_cons found page

theorem obey {c : Command} (told : e.command? k = some c) (alike : (d.obey c).SteeredAlike d') :
    Obeys (e :: past) k d' where
  requests := by
    rw [alike.requests, Document.requests_obey, h.requests, requestsOf_cons, told, Option.bind_some]
  target t := by rw [alike.target, Document.target_obey, page, pursues_of_told told]
  offset rest := by
    rw [alike.target] at rest
    rw [alike.offset, Document.offset_obey rest, page, lastCommand?_of_told told]
    rfl
  page := h.page_cons found page

theorem land (untold : e.command? k = none) (lands : e.lands k)
    (requests : d'.requests = d.requests) (target : d.target = some d'.scrollY)
    (rest : d'.target = none) : Obeys (e :: past) k d' where
  requests := by
    rw [requests, h.requests, requestsOf_cons, untold, Option.bind_none, Option.toList_none,
      List.append_nil]
  target t := by
    rw [rest, pursues_of_untold untold, lands]
    simp
  offset _ := by
    obtain ⟨y, told, there⟩ := ((h.target _).1 target).lastCommand?
    rw [there, page, lastCommand?_of_untold untold, told]
    rfl
  page := h.page_cons found page

theorem turn (alike : (e.machine.stage.steered k e.job d).SteeredAlike d') :
    Obeys (e :: past) k d' := by
  have command : e.command? k = e.machine.stage.tells? k d e.job := by
    rw [Move.command?, found, Option.bind_some]
  have landing : e.lands k = (e.frames k && d.isNear) := by rw [Move.lands, found, Option.any_some]
  unfold Stage.steered at alike
  split at alike
  · rename_i frames
    have untold : e.command? k = none := command.trans (Stage.tells?_of_frames d frames)
    rw [Move.frames, frames, Bool.true_and] at landing
    obtain ⟨requests, advance⟩ := d.steered_advanceFrame
    split at advance
    · rename_i near
      rw [near] at landing
      apply h.land found page untold landing (alike.requests.trans requests)
      · rw [alike.offset, advance.1]
      · rw [alike.target, advance.2]
    · rename_i far
      rw [Bool.eq_false_iff.2 far] at landing
      apply h.go_on found page untold landing (alike.requests.trans requests)
        (alike.target.trans advance)
      intro rest
      rw [alike.offset, Document.advanceFrame_of_rest rest]
  · rename_i still
    rw [Move.frames, Bool.eq_false_iff.2 still, Bool.false_and] at landing
    cases told : e.machine.stage.tells? k d e.job with
    | none =>
      rw [told] at command alike
      exact h.go_on found page command landing alike.requests alike.target fun _ ↦ alike.offset
    | some c =>
      rw [told] at command alike
      exact h.obey found page command alike

end Obeys

theorem History.obeys (run : History may past m jobs) (found : m.stage.documents[k]? = some d) :
    Obeys past k d := by
  apply run.steer found
  · intro past d absent fresh
    have untold : ∀ e ∈ past, e.command? k = none := by
      intro e member
      rw [Move.command?, absent e member, Option.bind_none]
    have none : lastCommand? past k = none := by
      rw [← List.append_nil past, lastCommand?_append untold]
      rfl
    refine ⟨?_, fun t ↦ ?_, fun _ ↦ ?_, ?_⟩
    · rw [fresh.2.2, requestsOf, eq_comm, List.filterMap_eq_nil_iff]
      intro e member
      rw [untold e (List.mem_reverse.1 member), Option.bind_none]
    · rw [fresh.2.1]
      constructor
      · rintro ⟨⟩
      · intro pursues
        obtain ⟨y, told, -⟩ := pursues.lastCommand?
        rw [none] at told
        cases told
    · rw [fresh.1, none]
      rfl
    · intro e member d₀ found₀
      rw [absent e member] at found₀
      cases found₀
  · intro past d d' e h found page alike
    exact h.turn found page alike

/-- A frame keeps the target or lands exactly on it, and says whether there is still a target. -/
theorem Turn.frame (turn : Turn may m jobs j m' jobs') (found : m.stage.documents[k]? = some d)
    (frames : m.stage.frames k j) : ∃ d', m'.stage.documents[k]? = some d' ∧
      (if (Move.mk m jobs j).lands k then d.target = some d'.scrollY ∧ d'.target = none
        else d'.target = d.target) ∧
      (j = .act (.page .frame) → m.outcome (.page .frame) = .flag d'.target.isSome) := by
  obtain ⟨d', found', -, alike⟩ := turn.document found
  rw [Stage.steered, if_pos frames] at alike
  have lands : (Move.mk m jobs j).lands k = d.isNear := by
    rw [Move.lands, Move.frames, frames, found, Option.any_some, Bool.true_and]
  refine ⟨d', found', ?_, ?_⟩
  · rw [lands, alike.offset, alike.target]
    exact d.steered_advanceFrame.2
  · rintro rfl
    have here : m.stage.current = k := of_decide_eq_true frames
    rw [alike.target]
    simp [Machine.outcome, Machine.reply, Stage.perform, Stage.performPage, Stage.onDocument,
      here, found, Stage.deliver, Document.isAnimating]

/-- The last thing that document `k` was told was to reveal the section with this id below a header
of this height. -/
def LastRevealed (past : List Move) (k : Nat) (id : String) (header : Length) : Prop :=
  ∃ since order before, past = since ++ order :: before ∧ order.machine.stage.documents[k]?.isSome ∧
    order.machine.stage.reveals? order.job = some (⟨k, ⟨header⟩⟩, id) ∧
    ∀ e ∈ since, e.command? k = none

theorem Stage.tells?_of_reveals {s : Stage} {id : String} {header top : Length}
    (reveals : s.reveals? j = some (⟨k, ⟨header⟩⟩, id)) (anchor : d.page.anchorTop? id = some top) :
    s.tells? k d j = some (.request (Scroller.offset top header) true) := by
  have asked : s.tells? k d j = (s.reveals? j).bind fun r ↦ if r.1.document = k then
      (d.page.anchorTop? r.2).map fun top ↦
        .request (Scroller.offset top r.1.part.headerOffset) true else none := by
    unfold tells?
    split
    · cases reveals
    · cases reveals
    · rfl
  rw [asked, reveals, Option.bind_some, if_pos rfl, anchor, Option.map_some]

/-- A document that was last told to reveal a section, and is at rest, shows it just below the
header. -/
theorem Obeys.revealed {id : String} {header top : Length} (h : Obeys past k d)
    (revealed : LastRevealed past k id header) (anchor : d.page.anchorTop? id = some top)
    (rest : d.target = none) :
    d.scrollY = d.page.clampScroll (Scroller.offset top header) := by
  obtain ⟨since, order, before, rfl, there, reveals, untold⟩ := revealed
  obtain ⟨d₀, found⟩ := Option.isSome_iff_exists.1 there
  have page := h.page order (by simp) d₀ found
  have told : order.command? k = some (.request (Scroller.offset top header) true) := by
    rw [Move.command?, found, Option.bind_some]
    exact Stage.tells?_of_reveals reveals (page ▸ anchor)
  rw [h.offset rest, lastCommand?_append untold, lastCommand?_of_told told]
  rfl

theorem Turn.reveal_nothing {name id : String} {scroller : Scroller}
    (turn : Turn may m jobs (.act (.scroller name (.reveal id))) m' jobs')
    (found : m.stage.documents[k]? = some d)
    (named : m.stage.names.scrollers.get? name = some ⟨k, scroller⟩)
    (absent : d.page.anchorTop? id = none) :
    m'.stage = m.stage ∧ errandsOf jobs' = errandsOf jobs := by
  obtain ⟨stage, errands⟩ := turn.effect_act
  have stays : (scroller.reveal d id).1 = d := by
    rw [Stage.reveal_eq, absent, Option.map_none, Option.elim_none]
  have nothing : (m.stage.perform m.probes.length (.scroller name (.reveal id))).stage = m.stage ∧
      (m.stage.perform m.probes.length (.scroller name (.reveal id))).errands = [] := by
    simp only [Stage.perform, Stage.performScroller, named, Stage.revealWith, found,
      Progress.reply, stays, Stage.setDocument_self found]
    exact ⟨trivial, trivial⟩
  exact ⟨stage.trans nothing.1, by rw [errands, nothing.2, List.nil_append]⟩

/-- The latest command wins. A document is on its way to `t` just if the last thing it was told was
to scroll smoothly to a place that is `t` on its page, and it has not landed since; otherwise it
stands where it was last told to. A frame keeps the target or lands exactly on it, and requests are
listed in order. So any two documents with the same page that were last told to reveal the same
section below the same header, and have landed, stand at the same place, whatever happened before.
Where a section has no anchor, to reveal it changes nothing. -/
theorem latest_command_wins (run : History may past m jobs)
    (found : m.stage.documents[k]? = some d) :
    (∀ t, d.target = some t ↔ Pursues past k d.page t) ∧
    (d.target = none → d.scrollY = standing d.page (lastCommand? past k)) ∧
    d.requests = requestsOf past k ∧
    (∀ {j m' jobs'}, Turn may m jobs j m' jobs' → m.stage.frames k j →
      ∃ d', m'.stage.documents[k]? = some d' ∧
      (if (Move.mk m jobs j).lands k then d.target = some d'.scrollY ∧ d'.target = none
        else d'.target = d.target) ∧
      (j = .act (.page .frame) → m.outcome (.page .frame) = .flag d'.target.isSome)) ∧
    (∀ {id header top}, LastRevealed past k id header → d.page.anchorTop? id = some top →
      d.target = none →
      d.scrollY = d.page.clampScroll (Scroller.offset top header) ∧
      ∀ {may' past' m' jobs' k' d'}, History may' past' m' jobs' →
        m'.stage.documents[k']? = some d' →
        d'.page = d.page → LastRevealed past' k' id header → d'.target = none →
          d'.scrollY = d.scrollY) ∧
    (∀ {name id scroller m' jobs'}, Turn may m jobs (.act (.scroller name (.reveal id))) m' jobs' →
      m.stage.names.scrollers.get? name = some ⟨k, scroller⟩ → d.page.anchorTop? id = none →
        m'.stage = m.stage ∧ errandsOf jobs' = errandsOf jobs) := by
  have obeys := run.obeys found
  refine ⟨obeys.target, obeys.offset, obeys.requests, fun turn ↦ turn.frame found, ?_, ?_⟩
  · intro id header top revealed anchor rest
    have shown := obeys.revealed revealed anchor rest
    refine ⟨shown, ?_⟩
    intro may' past' m' jobs' k' d' run' found' page revealed' rest'
    rw [shown, ← page]
    exact (run'.obeys found').revealed revealed' (page ▸ anchor) rest'
  · intro name id scroller m' jobs' turn
    exact turn.reveal_nothing found

def wandering : List Step :=
  [.scroller "s" (.create 20), .page (.userScroll 500), .page (.scrollTo 900 true), .page .frame,
    .page (.scrollTo 5 false), .scroller "s" (.reveal "x"), .page (.scrollTo 700 true),
    .page .frame, .scroller "s" (.reveal "b"), .page .settle]

def straight : List Step := [.scroller "t" (.create 20), .scroller "t" (.reveal "b"), .page .settle]

def ComesToRest (script : List Step) : Prop :=
  ∃ r ∈ Machine.journal? 60 script (.opened twoSections) [],
    (∀ e ∈ r.2, Allows (fun _ _ ↦ True) e.machine.stage e.job) ∧
    ∃ d ∈ r.1.stage.documents[0]?, d.target.isNone ∧ d.page.viewport = 100 ∧
      d.page.minHeight = 1000 ∧
      d.page.anchors =
        [{ id := "a", top := 0, height := 100 }, { id := "b", top := 100, height := 100 }] ∧
      ∃ e ∈ r.2.find? fun e ↦ (e.command? 0).isSome, e.machine.stage.documents[0]?.isSome ∧
        ∃ q ∈ e.machine.stage.reveals? e.job, q.1.document = 0 ∧
          q.1.part.headerOffset = 20 ∧ q.2 = "b"

theorem ComesToRest.exists_history {script : List Step} (h : ComesToRest script) :
    ∃ m past, ∃ d : Document Receiver,
    Machine.journal? 60 script (.opened twoSections) [] = some (m, past) ∧
    History (fun _ _ ↦ True) past m [] ∧
      m.stage.documents[0]? = some d ∧ LastRevealed past 0 "b" 20 ∧ d.target = none ∧
      d.page = ⟨100,
        [{ id := "a", top := 0, height := 100 }, { id := "b", top := 100, height := 100 }],
          1000⟩ := by
  obtain ⟨⟨m, past⟩, kept, allowed, d, found, rest, viewport, height, anchors, e, last, there,
    ⟨⟨_, ⟨_⟩⟩, _⟩, reveals, rfl, rfl, rfl⟩ := h
  obtain ⟨-, since, before, split, untold⟩ := List.find?_eq_some_iff_append.1 last
  refine ⟨m, past, d, kept, (History.opened twoSections).journal kept allowed, found,
    ?_, by simpa using rest, ?_⟩
  · exact ⟨since, e, before, split, there, reveals, by simpa using untold⟩
  · rw [← anchors, ← height, ← viewport]

theorem latest_command_wins_wandering : ∃ m past m' past', ∃ d d' : Document Receiver,
    Machine.journal? 60 wandering (.opened twoSections) [] = some (m, past) ∧
      Machine.journal? 60 straight (.opened twoSections) [] = some (m', past') ∧
      m.stage.documents[0]? = some d ∧ m'.stage.documents[0]? = some d' ∧ d.target = none ∧
      d'.target = none ∧
      d.scrollY = 80 ∧ d'.scrollY = 80 ∧ d.requests = requestsOf past 0 := by
  have wandered : ComesToRest wandering := by
    unfold ComesToRest
    decide +kernel
  have walked : ComesToRest straight := by
    unfold ComesToRest
    decide +kernel
  obtain ⟨m, past, d, kept, run, found, revealed, rest, page⟩ := wandered.exists_history
  obtain ⟨m', past', d', kept', run', found', revealed', rest', page'⟩ := walked.exists_history
  obtain ⟨-, -, requests, -, shows, -⟩ := latest_command_wins run found
  have anchor : d.page.anchorTop? "b" = some 100 := by
    rw [page]
    rfl
  obtain ⟨shown, same⟩ := shows revealed anchor rest
  have landing : d.scrollY = 80 := by
    have ahead : (0 : Length) < 100 - 20 := by decide +kernel
    rw [shown, page, Scroller.offset_of_pos ahead]
    decide +kernel
  have landing' := same run' found' (page'.trans page.symm) revealed' rest'
  exact ⟨m, past, m', past', d, d', kept, kept', found, found', rest, rest', landing,
    landing'.trans landing, requests⟩

end Session

end Wayfinder
