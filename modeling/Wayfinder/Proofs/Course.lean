import Wayfinder.Proofs.Observations
import Wayfinder.Proofs.Registration
import Wayfinder.Proofs.Release

namespace Wayfinder

def Page.hasAnchor (p : Page) (id : String) : Bool := p.anchors.any (·.id = id)

def Document.SamePage {ω : Type} (d d' : Document ω) : Prop := d'.page = d.page

namespace Spy

variable {σ ω : Type}

/-- How a spy can go on: not at all, from idle to observing, and from anywhere to disposed. -/
inductive Phase.Leads : Phase → Phase → Prop
  | stay (p : Phase) : Leads p p
  | begin : Leads .idle .observing
  | dispose (p : Phase) : Leads p .disposed

namespace Phase.Leads

variable {p q r : Phase}

theorem trans (h : Leads p q) (h' : Leads q r) : Leads p r := by
  cases h' with
  | stay => exact h
  | dispose => exact .dispose p
  | begin =>
    cases h with
    | stay => exact .begin

theorem eq_idle (h : Leads p .idle) : p = .idle := by
  cases h with
  | stay => rfl

theorem eq_disposed (h : Leads .disposed p) : p = .disposed := by
  cases h with
  | stay | dispose => rfl

end Phase.Leads

theorem present_eq (s : Spy σ) (d : Document ω) :
    s.present d = s.registry.ids.filter d.page.hasAnchor := by
  refine List.filter_congr fun id _ ↦ ?_
  rw [Page.anchorTop?, Option.isSome_map, List.isSome_find?, Page.hasAnchor]

theorem mem_observed_of_winner? {s : Spy σ} {batch : List Entry} {id : String}
    (winner : s.winner? batch = some id) :
    id ∈ s.observed := by
  obtain ⟨e, found, rfl⟩ := Option.map_eq_some_iff.1 winner
  have wins := List.find?_some found
  simp only [Bool.and_eq_true, List.contains_eq_mem, decide_eq_true_eq] at wins
  exact wins.2

end Spy

namespace Session

/-- A spy goes on without beginning to observe: it may move to another section it observes, and be
disposed. -/
structure SameObserved (m m' : Mounted (Spy Hearer)) : Prop where
  document : m'.document = m.document
  registry : m'.part.registry = m.part.registry
  band : m'.part.band = m.part.band
  observed : m'.part.observed = m.part.observed
  active : m'.part.active = m.part.active ∨ m.part.phase = .observing ∧
    m'.part.active ∈ m.part.observed
  phase : m'.part.phase = m.part.phase ∨ m'.part.phase = .disposed

theorem Stays.sameObserved {m m' : Mounted (Spy Hearer)} (h : Stays m m') : SameObserved m m' :=
  ⟨h.document, h.registry, h.band, h.observed, .inl h.active, h.phase⟩

theorem SameObserved.refl (m : Mounted (Spy Hearer)) : SameObserved m m :=
  (Stays.refl m).sameObserved

theorem SameObserved.trans {m m' m'' : Mounted (Spy Hearer)} (h : SameObserved m m')
    (h' : SameObserved m' m'') : SameObserved m m'' where
  document := h'.document.trans h.document
  registry := h'.registry.trans h.registry
  band := h'.band.trans h.band
  observed := h'.observed.trans h.observed
  active := by
    obtain same | ⟨observing, moved⟩ := h'.active
    · rw [same]
      exact h.active
    · obtain same | disposed := h.phase
      · exact .inr ⟨same ▸ observing, h.observed ▸ moved⟩
      · rw [disposed] at observing
        cases observing
  phase := by
    obtain same | disposed := h'.phase
    · rw [same]
      exact h.phase
    · exact .inr disposed

structure Blank (m : Mounted (Spy Hearer)) : Prop where
  phase : m.part.phase ≠ .observing
  observed : m.part.observed = []
  active : m.part.active = m.part.registry.first.id

theorem Blank.sameObserved {m m' : Mounted (Spy Hearer)} (h : Blank m)
    (sameObserved : SameObserved m m') : Blank m' where
  phase := by
    obtain same | disposed := sameObserved.phase
    · rw [same]
      exact h.phase
    · simp [disposed]
  observed := sameObserved.observed.trans h.observed
  active := by
    obtain same | ⟨observing, -⟩ := sameObserved.active
    · rw [same, sameObserved.registry, h.active]
    · exact absurd observing h.phase

variable {may : Stage → Job → Prop} {s s' : Stage} {ts ts' : List Errand} {n : Nat}

namespace Stage

theorem sameObserved_setSpy {N : Mounted (Spy Hearer) → Prop} {m : Mounted (Spy Hearer)}
    {spy : Spy Hearer} (found : s.spies[n]? = some m)
    (sameObserved : SameObserved m { m with part := spy }) :
    Grows SameObserved N s.spies (s.setSpy n spy).spies :=
  .modify SameObserved.refl fun m' found' ↦ by rwa [Option.some.inj (found'.symm.trans found)]

theorem sameObserved_disposeSpy {N : Mounted (Spy Hearer) → Prop} (n : Nat) :
    Grows SameObserved N s.spies (s.disposeSpy n).spies := by
  cases found : s.spies[n]? with
  | none =>
    rw [disposeSpy, found]
    exact .refl SameObserved.refl
  | some m =>
    rw [disposeSpy_eq found, spies_disconnect]
    exact sameObserved_setSpy found ⟨rfl, rfl, rfl, rfl, .inl rfl, .inr rfl⟩

theorem sameObserved_reclaimOld {N : Mounted (Spy Hearer) → Prop} {o : Option Object}
    (spies : s'.spies = s.spies) :
    Grows SameObserved N s.spies (s'.reclaimOld o).spies := by
  rw [← spies]
  exact reclaimOld_ind (P := fun s₁ ↦ Grows SameObserved N s'.spies s₁.spies)
    (.refl SameObserved.refl) (fun h ↦ h)
    (fun h ↦ h) fun _ k _ _ _ ↦ sameObserved_disposeSpy k

theorem sameObserved_releaseMenu {N : Mounted (Spy Hearer) → Prop} :
    Grows SameObserved N s.spies (s.releaseMenu n).spies :=
  releaseMenu_ind (P := fun s' ↦ Grows SameObserved N s.spies s'.spies) (.refl SameObserved.refl)
    (fun h ↦ h) (fun h ↦ h)
    fun k _ ↦ sameObserved_disposeSpy k

theorem sameObserved_addSpy {m : Mounted (Spy Hearer)} {o : Option Object}
    (spies : s'.spies = s.spies ++ [m]) (blank : Blank m) (here : m.document = s.current) :
    Grows SameObserved (fun m ↦ Blank m ∧ m.document = s.current) s.spies
      (s'.reclaimOld o).spies := by
  have added : Grows SameObserved (fun m ↦ Blank m ∧ m.document = s.current) s.spies s'.spies :=
    spies ▸ .concat SameObserved.refl ⟨blank, here⟩
  exact added.trans (sameObserved_reclaimOld rfl) .trans fun new sameObserved ↦
    ⟨new.1.sameObserved sameObserved, sameObserved.document.trans new.2⟩

end Stage

/-- What an edit does to the spies: one of them begins to observe, or none does. New ones are on the
current page. -/
theorem Edit.spies (e : Edit may s ts s' ts') :
    Grows SameObserved (fun m ↦ Blank m ∧ m.document = s.current) s.spies s'.spies ∨
      ∃ (n : Nat) (m : Mounted (Spy Hearer)) (d : Document Receiver), s.spies[n]? = some m ∧
        s.documents[m.document]? = some d ∧ m.part.phase = .idle ∧
        (∃ s₀ j, s₀.observer? j = some n ∧ may s₀ j) ∧
        s'.spies = (s.setSpy n (beginObserving m.part d)).spies := by
  have same {s' : Stage} (spies : s'.spies = s.spies) :
      Grows SameObserved (fun m ↦ Blank m ∧ m.document = s.current) s.spies s'.spies :=
        spies ▸ .refl SameObserved.refl
  cases e with
  | observe found document idle observes allowed target
  | observeNothing found document idle fails observes allowed target =>
    exact .inr ⟨_, _, _, found, document, idle, ⟨_, _, target, allowed⟩, rfl⟩
  | skip | push | animate | handOn | passOn | amend | inform | emit | openPage | faults | watch
  | createStore | adopt | subscribeStore | dropStore | createScroller | setOpen | listenMenu
  | tellMenu | deaf | redraw | unseen | hold => exact .inl (same rfl)
  | keepHandle | freeHandle | dropHandle => exact .inl (same (Stage.spies_disconnect _))
  | unsubscribeStore =>
    unfold Stage.unsubscribeStore
    split <;> exact .inl (same rfl)
  | keepWatch =>
    unfold Stage.keepWatch
    split
    · exact .inl (same rfl)
    · exact .inl (Stage.sameObserved_setSpy ‹_› ⟨rfl, rfl, rfl, rfl, .inl rfl, .inl rfl⟩)
  | subscribeSpy found | unsubscribeSpy found =>
    exact .inl (Stage.sameObserved_setSpy found ⟨rfl, rfl, rfl, rfl, .inl rfl, .inl rfl⟩)
  | receive found moved =>
    obtain ⟨observing, id, winner, -, rfl⟩ := Spy.receive?_eq_some moved
    have member := Spy.mem_observed_of_winner? winner
    exact .inl (Stage.sameObserved_setSpy found ⟨rfl, rfl, rfl, rfl,
      .inr ⟨observing, member⟩, .inl rfl⟩)
  | disposeSpy => exact .inl (Stage.sameObserved_disposeSpy _)
  | disposeMenu => exact .inl Stage.sameObserved_releaseMenu
  | createBare | shareMenu => exact .inl (Stage.sameObserved_reclaimOld rfl)
  | dropSpy | dropMenu | letGo => exact .inl (Stage.sameObserved_reclaimOld (o := some _) rfl)
  | createSpy => exact .inl (Stage.sameObserved_addSpy rfl ⟨by simp, rfl, rfl⟩ rfl)
  | createMenu => exact .inl (Stage.sameObserved_addSpy rfl ⟨by simp [Spy.subscribe], rfl, rfl⟩ rfl)

structure NoNewSpyWatch (d d' : Document Receiver) : Prop where
  page : d'.page = d.page
  watches : ∀ {t n : Nat}, (t, .spy n) ∈ d'.registered.entries → (t, .spy n) ∈ d.registered.entries

theorem NoNewSpyWatch.refl (d : Document Receiver) : NoNewSpyWatch d d := ⟨rfl, id⟩

theorem NoNewSpyWatch.of_losesWatchesOnly {d d' : Document Receiver} (h : d.LosesWatchesOnly d') :
    NoNewSpyWatch d d' :=
  ⟨h.page, fun member ↦ (h.watches.map _).subset member⟩

theorem NoNewSpyWatch.of_registered {d d' : Document Receiver} (page : d'.page = d.page)
    (registered : d'.registered = d.registered) : NoNewSpyWatch d d' :=
  ⟨page, fun member ↦ registered ▸ member⟩

abbrev Stage.NoNewSpyWatch (s s' : Stage) : Prop :=
  Grows Session.NoNewSpyWatch (·.registered.entries = []) s.documents s'.documents

theorem KeepsTraffic.noNewSpyWatch (h : KeepsTraffic s ts s' ts') : s.NoNewSpyWatch s' :=
  h.documents.mono .of_losesWatchesOnly fun none ↦ by rw [Document.registered, none, List.map_nil]

theorem Stage.noNewSpyWatch_setDocument {k : Nat} {d d' : Document Receiver}
    (found : s.documents[k]? = some d) (noNewSpyWatch : Session.NoNewSpyWatch d d') :
    s.NoNewSpyWatch (s.setDocument k d') :=
  grows_setDocument Session.NoNewSpyWatch.refl found noNewSpyWatch

/-- A spy gets a watch only when it begins to observe. -/
theorem Edit.documents (e : Edit may s ts s' ts') :
    s.NoNewSpyWatch s' ∨ ∃ (n : Nat) (m : Mounted (Spy Hearer))
    (d : Document Receiver), s.spies[n]? = some m ∧
      s.documents[m.document]? = some d ∧ m.part.phase = .idle ∧
      s'.documents =
        (s.setDocument m.document
          (d.observe (.spy n) (m.part.present d) m.part.band)).documents := by
  have same {s' : Stage} (documents : s'.documents = s.documents) : s.NoNewSpyWatch s' := by
    rw [Stage.NoNewSpyWatch, documents]
    exact .refl NoNewSpyWatch.refl
  have calm {s' : Stage} (h : KeepsTraffic s [] s' []) := h.noNewSpyWatch
  have tidied {s₁ : Stage} {o : Option Object} (documents : s₁.documents = s.documents) :
      s.NoNewSpyWatch (s₁.reclaimOld o) := by
    have h : KeepsTraffic s₁ [] (s₁.reclaimOld o) [] := .reclaimOld o
    rw [Stage.NoNewSpyWatch, ← documents]
    exact h.noNewSpyWatch
  have released {s₁ : Stage} {link : Option Link} (documents : s₁.documents = s.documents) :
      s.NoNewSpyWatch (s₁.disconnect link) := by
    have h : KeepsTraffic s₁ [] (s₁.disconnect link) [] := .disconnect link
    rw [Stage.NoNewSpyWatch, ← documents]
    exact h.noNewSpyWatch
  cases e with
  | observe found document idle => exact .inr ⟨_, _, _, found, document, idle, rfl⟩
  | observeNothing found document => exact .inl (Stage.noNewSpyWatch_setDocument document (.refl _))
  | skip | push | animate | handOn | passOn | emit | faults | createStore | adopt | subscribeStore
  | dropStore | subscribeSpy | unsubscribeSpy | receive | createScroller | setOpen | listenMenu
  | tellMenu | deaf | redraw | unseen | hold => exact .inl (same rfl)
  | amend found alike =>
    exact .inl (Stage.noNewSpyWatch_setDocument found (.of_registered alike.page alike.registered))
  | inform found alike =>
    refine .inl (Stage.noNewSpyWatch_setDocument found (.of_registered alike.page ?_))
    rw [Document.registered_inform, alike.registered]
  | watch found probe =>
    refine .inl (Stage.noNewSpyWatch_setDocument found ⟨rfl, fun member ↦ ?_⟩)
    rw [Document.registered_observe] at member
    obtain old | last := List.mem_append.1 member
    · exact old
    · simp at last
  | openPage page => exact .inl (.concat NoNewSpyWatch.refl (by rw [page.registered_build]))
  | keepHandle | freeHandle | dropHandle => exact .inl (released rfl)
  | unsubscribeStore =>
    unfold Stage.unsubscribeStore
    split <;> exact .inl (same rfl)
  | keepWatch =>
    unfold Stage.keepWatch
    split <;> exact .inl (same rfl)
  | disposeSpy => exact .inl (calm (.disposeSpy _))
  | disposeMenu => exact .inl (calm (.releaseMenu _))
  | createSpy | createMenu | createBare | shareMenu => exact .inl (tidied rfl)
  | dropSpy | dropMenu | letGo => exact .inl (tidied (o := some _) rfl)

/-- No page is lost, and none changes. -/
theorem Edit.pages (e : Edit may s ts s' ts') :
    Grows Document.SamePage (fun _ ↦ True) s.documents s'.documents :=
  e.grows (fun _ ↦ rfl) (fun _ ↦ trivial) (fun alike _ _ _ ↦ alike.page)
    (fun alike _ _ ↦ alike.page)
    (fun _ _ _ _ ↦ rfl) fun _ _ ↦ rfl

/-- What becomes of a spy in the course of time. -/
structure Course (m m' : Mounted (Spy Hearer)) : Prop where
  document : m'.document = m.document
  registry : m'.part.registry = m.part.registry
  band : m'.part.band = m.part.band
  phase : m.part.phase.Leads m'.part.phase
  ended : m.part.phase = .disposed → m'.part.active = m.part.active ∧
    m'.part.observed = m.part.observed

theorem Course.refl (m : Mounted (Spy Hearer)) : Course m m :=
  ⟨rfl, rfl, rfl, .stay _, fun _ ↦ ⟨rfl, rfl⟩⟩

theorem Course.trans {m m' m'' : Mounted (Spy Hearer)} (h : Course m m') (h' : Course m' m'') :
    Course m m'' where
  document := h'.document.trans h.document
  registry := h'.registry.trans h.registry
  band := h'.band.trans h.band
  phase := h.phase.trans h'.phase
  ended disposed := by
    have still : m'.part.phase = .disposed := by
      have leads := h.phase
      rw [disposed] at leads
      exact leads.eq_disposed
    obtain ⟨active, observed⟩ := h.ended disposed
    obtain ⟨active', observed'⟩ := h'.ended still
    exact ⟨active'.trans active, observed'.trans observed⟩

theorem SameObserved.course {m m' : Mounted (Spy Hearer)} (h : SameObserved m m') :
    Course m m' where
  document := h.document
  registry := h.registry
  band := h.band
  phase := by
    obtain same | disposed := h.phase
    · rw [same]
      exact .stay _
    · rw [disposed]
      exact .dispose _
  ended disposed := by
    obtain same | ⟨observing, -⟩ := h.active
    · exact ⟨same, h.observed⟩
    · rw [disposed] at observing
      cases observing

theorem course_beginObserving {m : Mounted (Spy Hearer)} (idle : m.part.phase = .idle)
    (d : Document Receiver) :
    Course m { m with part := beginObserving m.part d } where
  document := rfl
  registry := rfl
  band := rfl
  phase := by
    rw [idle]
    exact .begin
  ended disposed := by
    rw [idle] at disposed
    cases disposed

theorem Edit.course (e : Edit may s ts s' ts') :
    Grows Course (fun m ↦ m.document = s.current) s.spies s'.spies := by
  obtain sameObserved | ⟨n, m, d, found, -, idle, -, spies⟩ := e.spies
  · exact sameObserved.mono SameObserved.course And.right
  · rw [spies]
    refine .modify Course.refl fun m' found' ↦ ?_
    rw [Option.some.inj (found'.symm.trans found)]
    exact course_beginObserving idle d

def Stage.SpiesOnDocuments (s : Stage) : Prop :=
  ∀ (n : Nat) (m : Mounted (Spy Hearer)), s.spies[n]? = some m →
    ∃ d, s.documents[m.document]? = some d

theorem Edit.spiesOnDocuments (e : Edit may s ts s' ts') (currentExists : s.CurrentExists)
    (spiesOnDocuments : s.SpiesOnDocuments) : s'.SpiesOnDocuments := by
  intro n m' found
  have persists {k : Nat} {d : Document Receiver} (found : s.documents[k]? = some d) :
      ∃ d', s'.documents[k]? = some d' := by
    obtain ⟨d', found', -⟩ := e.pages.old found
    exact ⟨d', found'⟩
  cases before : s.spies[n]? with
  | some m =>
    obtain ⟨m₁, found₁, course⟩ := e.course.old before
    obtain rfl := Option.some.inj (found₁.symm.trans found)
    obtain ⟨d, present⟩ := spiesOnDocuments n m before
    rw [course.document]
    exact persists present
  | none =>
    rw [e.course.new before found]
    exact persists (List.getElem?_eq_getElem currentExists)

section Observing

namespace Stage

theorem spies_observeSpy (s : Stage) (n : Nat) :
    (s.observeSpy n).stage.spies = s.spies ∧ (∀ {m : Mounted (Spy Hearer)} {d : Document Receiver},
      s.spies[n]? = some m → s.documents[m.document]? = some d → m.part.phase ≠ .idle) ∨
    ∃ (m : Mounted (Spy Hearer)) (d : Document Receiver), s.spies[n]? = some m ∧
      s.documents[m.document]? = some d ∧ m.part.phase = .idle ∧
      (s.observeSpy n).stage.spies = (s.setSpy n (beginObserving m.part d)).spies := by
  obtain ⟨stage, errands⟩ | ⟨m, d, found, document, idle, ⟨stage, -⟩ | ⟨-, stage, -⟩⟩ :=
    s.observeSpy_cases n
  · refine .inl ⟨by rw [stage], ?_⟩
    intro m d found document idle
    simp [observeSpy, found, document, Spy.start?, idle] at errands
  · exact .inr ⟨m, d, found, document, idle, by rw [stage]; rfl⟩
  · exact .inr ⟨m, d, found, document, idle, by rw [stage]; rfl⟩

theorem spies_hold_observeSpy (s : Stage) (o : Object) (n : Nat) :
    ((s.hold o).observeSpy n).stage.spies = (s.observeSpy n).stage.spies := by
  unfold observeSpy
  have spies : (s.hold o).spies = s.spies := rfl
  have documents : (s.hold o).documents = s.documents := rfl
  have faults : (s.hold o).faults = s.faults := rfl
  rw [spies, documents, faults]
  split
  · rfl
  · split <;> rfl

theorem observes_of_observer? {j : Job} (target : s.observer? j = some n) : j.observes := by
  unfold observer? at target
  split at target
  · rfl
  · rfl
  · cases target

end Stage

variable {may : Stage → Step → Prop} {m m' : Machine} {jobs jobs' : List Job} {j : Job}

theorem Turn.observe (turn : Turn may m jobs j m' jobs') (observes : j.observes) :
    m.stage.observer? j = none ∧ m'.stage.spies = m.stage.spies ∨
      ∃ n, m.stage.observer? j = some n ∧ m'.stage.spies = (m.stage.observeSpy n).stage.spies := by
  obtain ⟨step, rfl, -, stage, -⟩ | ⟨t, rest, rfl, -, stage, -⟩ | ⟨⟨_, _, rfl⟩, -⟩ := turn.effect
  · unfold Job.observes at observes
    split at observes
    · rename_i name same
      cases same
      rw [stage]
      simp only [Stage.observer?, Stage.perform, Stage.performSpy, Stage.onSpy]
      cases named : m.stage.names.spies.get? name with
      | none => exact .inl ⟨rfl, rfl⟩
      | some n =>
        refine .inr ⟨n, rfl, ?_⟩
        cases found : m.stage.spies[n]? with
        | none => simp [Stage.badRequest, Stage.observeSpy, found]
        | some spy =>
          simp only [found]
          exact m.stage.spies_hold_observeSpy _ n
    · rename_i same
      cases same
    · cases observes
  · cases t with
    | observe n => exact .inr ⟨n, rfl, by rw [stage]; rfl⟩
    | _ => cases observes
  · cases observes

/-- What a turn does to the spies: it has one begin to observe, or none. -/
theorem Turn.spies (turn : Turn may m jobs j m' jobs')
    (spiesOnDocuments : m.stage.SpiesOnDocuments) :
    Grows SameObserved Blank m.stage.spies m'.stage.spies ∧
      (∀ {n : Nat} {spy : Mounted (Spy Hearer)}, m.stage.observer? j = some n →
        m.stage.spies[n]? = some spy → spy.part.phase ≠ .idle) ∨
    ∃ (n : Nat) (spy : Mounted (Spy Hearer)) (d : Document Receiver), m.stage.observer? j = some n ∧
      m.stage.spies[n]? = some spy ∧ m.stage.documents[spy.document]? = some d ∧
      spy.part.phase = .idle ∧
      m'.stage.spies = (m.stage.setSpy n (beginObserving spy.part d)).spies := by
  by_cases observes : j.observes
  · obtain ⟨none, spies⟩ | ⟨n, target, spies⟩ := turn.observe observes
    · refine .inl ⟨spies ▸ .refl SameObserved.refl, fun target ↦ ?_⟩
      cases none.symm.trans target
    · obtain ⟨same, busy⟩ | ⟨spy, d, found, document, idle, begun⟩ := m.stage.spies_observeSpy n
      · refine .inl ⟨by rw [spies, same]; exact .refl SameObserved.refl, fun target' found ↦ ?_⟩
        obtain rfl := Option.some.inj (target.symm.trans target')
        obtain ⟨d, document⟩ := spiesOnDocuments _ _ found
        exact busy found document
      · exact .inr ⟨n, spy, d, target, found, document, idle, spies.trans begun⟩
  · refine .inl ⟨?_, fun target ↦ absurd (Stage.observes_of_observer? target) observes⟩
    refine turn.edits_only.keep (I := fun s _ ↦ Grows SameObserved Blank m.stage.spies s.spies)
      (fun e h ↦ ?_)
      (.refl SameObserved.refl)
    obtain sameObserved | ⟨n, _, _, -, -, -, ⟨_, _, target, rfl, rfl⟩, -⟩ := e.spies
    · exact h.trans (sameObserved.mono id And.left) .trans .sameObserved
    · exact absurd (Stage.observes_of_observer? target) observes

end Observing

structure Placed (begun : Bool) (p : Page) (m : Mounted (Spy Hearer)) : Prop where
  observed : m.part.observed = if begun then m.part.registry.ids.filter p.hasAnchor else []
  active : m.part.active = m.part.registry.first.id ∨ m.part.active ∈ m.part.observed
  observing : m.part.phase = .observing → begun
  idle : m.part.phase = .idle → begun = false

namespace Placed

variable {begun : Bool} {p : Page} {m m' : Mounted (Spy Hearer)}

theorem of_blank (h : Blank m) (p : Page) : Placed false p m := by
  refine ⟨?_, .inl h.active, fun observing ↦ absurd observing h.phase, fun _ ↦ rfl⟩
  rw [h.observed]
  rfl

theorem sameObserved (h : Placed begun p m) (sameObserved : SameObserved m m') :
    Placed begun p m' where
  observed := by rw [sameObserved.observed, sameObserved.registry, h.observed]
  active := by
    rw [sameObserved.registry, sameObserved.observed]
    obtain same | ⟨-, moved⟩ := sameObserved.active
    · rw [same]
      exact h.active
    · exact .inr moved
  observing observing := by
    obtain same | disposed := sameObserved.phase
    · exact h.observing (same ▸ observing)
    · rw [disposed] at observing
      cases observing
  idle idle := by
    obtain same | disposed := sameObserved.phase
    · exact h.idle (same ▸ idle)
    · rw [disposed] at idle
      cases idle

theorem begin {d : Document Receiver} (h : Placed begun d.page m) (idle : m.part.phase = .idle) :
    Placed true d.page { m with part := beginObserving m.part d } where
  observed := m.part.present_eq d
  active := by
    have none : m.part.observed = [] := by rw [h.observed, h.idle idle]; rfl
    obtain first | moved := h.active
    · exact .inl first
    · simp [none] at moved
  observing _ := rfl
  idle idle := by cases idle

theorem active_mem (h : Placed begun p m) : m.part.active ∈ m.part.registry.ids := by
  obtain first | moved := h.active
  · rw [first]
    exact m.part.registry.first_mem_ids
  · rw [h.observed] at moved
    split at moved
    · exact List.mem_of_mem_filter moved
    · cases moved

end Placed

theorem keepWatch_unique {w w' : Option Nat} (once : (ts.filterMap Errand.keeper?).Nodup)
    (first : .keepWatch n w ∈ ts) (second : .keepWatch n w' ∈ ts) : w = w' := by
  induction ts with
  | nil => cases first
  | cons t ts ih =>
    have alone {v v' : Option Nat} (head : .keepWatch n v = t)
        (tail : .keepWatch n v' ∈ ts) : False := by
      subst head
      exact (List.nodup_cons.1 once).1 (List.mem_filterMap.2 ⟨_, tail, rfl⟩)
    obtain head | tail := List.mem_cons.1 first
    · obtain head' | tail' := List.mem_cons.1 second
      · exact (Errand.keepWatch.inj (head.trans head'.symm)).2
      · exact (alone head tail').elim
    · obtain head' | tail' := List.mem_cons.1 second
      · exact (alone head' tail).elim
      · exact ih (once.sublist ((List.sublist_cons_self t ts).filterMap _)) tail tail'

theorem Kept.nodup_tokens {k : Nat} {d : Document Receiver} (kept : Kept s ts)
    (found : s.documents[k]? = some d) :
    (d.watches.map Watch.token).Nodup := by
  simpa [Document.registered,
    Function.comp_def] using (kept.sound (Stage.register?_of_found found)).distinct

namespace Stage

variable {o : Receiver} {l l' : Link}

def linksOf (s : Stage) (o : Receiver) : List Link :=
  s.documents.zipIdx.flatMap fun e ↦ (e.1.watches.filter (·.owner = o)).map fun w ↦ ⟨e.2, w.token⟩

theorem mem_linksOf : l ∈ s.linksOf o ↔ s.Stands o l := by
  obtain ⟨k, t⟩ := l
  simp only [linksOf, List.mem_flatMap, List.mem_map, List.mem_filter, decide_eq_true_eq,
    Stands, register?, Prod.exists, Link.mk.injEq]
  constructor
  · rintro ⟨d, i, found, w, ⟨member, owner⟩, rfl, rfl⟩
    refine ⟨d.registered, ?_, ?_⟩
    · rw [List.mem_zipIdx_iff_getElem?.1 found, Option.map_some]
    · exact owner ▸ List.mem_map_of_mem member
  · rintro ⟨r, register, member⟩
    obtain ⟨d, found, rfl⟩ := Option.map_eq_some_iff.1 register
    obtain ⟨w, watch, same⟩ := List.mem_map.1 member
    obtain ⟨token, owner⟩ := Prod.mk.inj same
    exact ⟨d, k, List.mem_zipIdx_iff_getElem?.2 found, w, ⟨watch, owner⟩, rfl, token⟩

theorem nodup_linksOf (kept : Kept s ts) : (s.linksOf o).Nodup := by
  refine List.nodup_flatMap.2 ⟨fun e member ↦ ?_, ?_⟩
  · have found : s.documents[e.2]? = some e.1 := List.mem_zipIdx_iff_getElem?.1 member
    have part : (((e.1.watches.filter (·.owner = o)).map Watch.token).map (Link.mk e.2)).Nodup := by
      refine ((kept.nodup_tokens found).sublist (List.filter_sublist.map _)).map fun t t' same ↦ ?_
      exact (Link.mk.inj same).2
    rwa [List.map_map] at part
  · have numbered : (s.documents.zipIdx.map Prod.snd).Nodup := by
      rw [List.zipIdx_map_snd]
      exact List.nodup_range'
    refine (List.pairwise_map.1 numbered).imp fun {e e'} other ↦ ?_
    intro l member member'
    obtain ⟨w, -, rfl⟩ := List.mem_map.1 member
    obtain ⟨w', -, same⟩ := List.mem_map.1 member'
    exact other (Link.mk.inj same).1.symm

def Fresh (s : Stage) (n : Nat) : Prop := ∀ m, s.spies[n]? = some m → m.part.phase = .idle

end Stage

theorem Kept.not_stands {l : Link} (kept : Kept s ts) (fresh : s.Fresh n) :
    ¬ s.Stands (.spy n) l := by
  intro stands
  have registered : s.Registered l.document l.token n := stands
  obtain ⟨p, post, -, watch | waiting⟩ := kept.exact.1 registered
  · obtain ⟨m, found, rfl⟩ := Option.map_eq_some_iff.1 post
    rw [kept.idle post (fresh m found)] at watch
    cases watch
  · obtain ⟨p', post', -, busy⟩ := kept.waiting waiting
    obtain ⟨m, found, rfl⟩ := Option.map_eq_some_iff.1 post'
    exact busy (fresh m found)

theorem Kept.stands_unique {l l' : Link} (kept : Kept s ts) (stands : s.Stands (.spy n) l)
    (stands' : s.Stands (.spy n) l') : l' = l := by
  obtain ⟨k, t⟩ := l
  obtain ⟨k', t'⟩ := l'
  have registered : s.Registered k t n := stands
  have registered' : s.Registered k' t' n := stands'
  obtain ⟨p, post, rfl, holds⟩ := kept.exact.1 registered
  obtain ⟨p', post', rfl, holds'⟩ := kept.exact.1 registered'
  obtain rfl := Option.some.inj (post.symm.trans post')
  have waits {w : Option Nat} (pending : .keepWatch n w ∈ ts) : p.watch = none := by
    obtain ⟨p', post', none, -⟩ := kept.waiting pending
    obtain rfl := Option.some.inj (post.symm.trans post')
    exact none
  have token : some t = some t' := by
    obtain watch | waiting := holds
    · obtain watch' | waiting' := holds'
      · exact watch.symm.trans watch'
      · cases watch.symm.trans (waits waiting')
    · obtain watch' | waiting' := holds'
      · cases watch'.symm.trans (waits waiting)
      · exact keepWatch_unique kept.once waiting waiting'
  rw [Option.some.inj token]

theorem Edit.fresh (e : Edit may s ts s' ts') (fresh : s'.Fresh n) : s.Fresh n := by
  intro m found
  obtain ⟨m', found', course⟩ := e.course.old found
  have leads := course.phase
  rw [fresh m' found'] at leads
  exact leads.eq_idle

theorem Edit.stands {l : Link} (e : Edit may s ts s' ts') (stands : s'.Stands (.spy n) l) :
    s.Stands (.spy n) l ∨ s.Fresh n := by
  obtain noNewSpyWatch | ⟨i, m, d, found, document, idle, documents⟩ := e.documents
  · obtain ⟨r, register, member⟩ := stands
    obtain ⟨d', found', rfl⟩ := Option.map_eq_some_iff.1 register
    cases before : s.documents[l.document]? with
    | some d =>
      obtain ⟨d₁, found₁, thinned⟩ := noNewSpyWatch.old before
      obtain rfl := Option.some.inj (found₁.symm.trans found')
      exact .inl ⟨_, Stage.register?_of_found before, thinned.watches member⟩
    | none => simp [noNewSpyWatch.new before found'] at member
  · have observed : (s.setDocument m.document
        (d.observe (.spy i) (m.part.present d) m.part.band)).Stands (.spy n) l := by
      rwa [Stage.Stands, Stage.register?, ← documents]
    obtain old | ⟨-, same⟩ := (Stage.stands_observe document _ _).1 observed
    · exact .inl old
    · cases same
      refine .inr fun m' found' ↦ ?_
      rwa [Option.some.inj (found'.symm.trans found)]

def Move.observesSpy (e : Move) (n : Nat) : Bool := e.machine.stage.observer? e.job = some n

def Move.beginsSpy (e : Move) (n : Nat) : Bool :=
  e.observesSpy n && e.machine.stage.spies[n]?.any (·.part.phase = .idle)

section Runs

variable {may : Stage → Step → Prop} {past : List Move} {m m' : Machine} {jobs jobs' : List Job}
  {j : Job} {k : Nat}

theorem Turn.pages (turn : Turn may m jobs j m' jobs') :
    Grows Document.SamePage (fun _ ↦ True) m.stage.documents m'.stage.documents :=
  turn.edits_only.keep
    (I := fun s _ ↦ Grows Document.SamePage (fun _ ↦ True) m.stage.documents s.documents)
    (fun e h ↦ h.trans e.pages (fun same same' ↦ Eq.trans same' same) fun _ _ ↦ trivial)
      (.refl fun _ ↦ rfl)

theorem History.pages {e : Move} (run : History may past m jobs) (made : e ∈ past) :
    Grows Document.SamePage (fun _ ↦ True) e.machine.stage.documents m.stage.documents := by
  induction run with
  | opened page => cases made
  | turn run turn ih =>
    obtain rfl | earlier := List.mem_cons.1 made
    · exact turn.pages
    · exact (ih earlier).trans turn.pages (fun same same' ↦ Eq.trans same' same) fun _ _ ↦ trivial

theorem Turn.course (turn : Turn may m jobs j m' jobs') :
    Grows Course (fun _ ↦ True) m.stage.spies m'.stage.spies :=
  turn.edits_only.keep (I := fun s _ ↦ Grows Course (fun _ ↦ True) m.stage.spies s.spies)
    (fun e h ↦ h.trans (e.course.mono id fun _ ↦ trivial) .trans fun _ _ ↦ trivial)
      (.refl Course.refl)

theorem History.spiesOnDocuments (run : History may past m jobs) : m.stage.SpiesOnDocuments := by
  have kept := run.keeps (I := fun s _ ↦ s.CurrentExists ∧ s.SpiesOnDocuments)
    (fun page ↦ ⟨Nat.zero_lt_one, fun n m found ↦ by simp at found⟩)
    fun e h ↦ ⟨e.currentExists h.1, e.spiesOnDocuments h.1 h.2⟩
  exact kept.2

theorem Turn.stands {l : Link} (turn : Turn may m jobs j m' jobs')
    (stands : m'.stage.Stands (.spy n) l) :
    m.stage.Stands (.spy n) l ∨ m.stage.Fresh n := by
  have kept := turn.edits_only.keep
    (I := fun s _ ↦ (s.Stands (.spy n) l → m.stage.Stands (.spy n) l ∨ m.stage.Fresh n) ∧
      (s.Fresh n → m.stage.Fresh n))
    (fun e h ↦ ⟨fun stands ↦ (e.stands stands).elim h.1 fun fresh ↦ .inr (h.2 fresh),
      h.2 ∘ e.fresh⟩)
    ⟨.inl, id⟩
  exact kept.1 stands

theorem History.fresh {e : Move} (run : History may past m jobs) (made : e ∈ past)
    (fresh : m.stage.Fresh n) :
    e.machine.stage.Fresh n := by
  induction run with
  | opened page => cases made
  | turn run turn ih =>
    have before :=
      turn.edits_only.keep (I := fun s _ ↦ s.Fresh n → _) (fun e h ↦ h ∘ e.fresh) id fresh
    obtain rfl | earlier := List.mem_cons.1 made
    · exact before
    · exact ih earlier before

/-- A watch of the spy that stood earlier is the one that stands now. -/
theorem History.stands_unique {e : Move} {l l' : Link} (run : History may past m jobs)
    (made : e ∈ past) (stood : e.machine.stage.Stands (.spy n) l)
    (stands : m.stage.Stands (.spy n) l') : l' = l := by
  induction run with
  | opened page => cases made
  | @turn past m m' jobs jobs' j run turn ih =>
    obtain old | fresh := turn.stands stands
    · obtain rfl | earlier := List.mem_cons.1 made
      · exact run.kept.stands_unique stood old
      · exact ih earlier old
    · -- the spy has only just begun to observe, so it had no watch before
      have wasFresh : e.machine.stage.Fresh n := by
        obtain rfl | earlier := List.mem_cons.1 made
        · exact fresh
        · exact run.fresh earlier fresh
      obtain ⟨later, earlier, split⟩ := List.append_of_mem made
      exact absurd stood (((run.turn turn).before split).kept.not_stands wasFresh)

theorem History.kept_of_mem (run : History may past m jobs) (reached : s ∈ stages m past) :
    ∃ ts, Kept s ts := by
  obtain rfl | earlier := List.mem_cons.1 reached
  · exact ⟨_, run.kept⟩
  · obtain ⟨e, made, rfl⟩ := List.mem_map.1 earlier
    obtain ⟨later, earlier, split⟩ := List.append_of_mem made
    exact ⟨_, (run.before split).kept⟩

theorem History.links_agree {l l' : Link} (run : History may past m jobs)
    (reached : s ∈ stages m past) (reached' : s' ∈ stages m past) (stands : s.Stands (.spy n) l)
    (stands' : s'.Stands (.spy n) l') : l' = l := by
  induction run with
  | opened page =>
    obtain rfl := List.mem_singleton.1 reached
    obtain rfl := List.mem_singleton.1 reached'
    exact (kept_opened page).stands_unique stands stands'
  | @turn past m m' jobs jobs' j run turn ih =>
    have last : s = m'.stage ∨ s ∈ stages m past := List.mem_cons.1 reached
    have last' : s' = m'.stage ∨ s' ∈ stages m past := List.mem_cons.1 reached'
    have since {s : Stage} (earlier : s ∈ stages m past) :
        ∃ e ∈ ⟨m, jobs, j⟩ :: past, e.machine.stage = s :=
      List.mem_map.1 earlier
    obtain rfl | earlier := last
    · obtain rfl | earlier' := last'
      · exact (run.turn turn).kept.stands_unique stands stands'
      · obtain ⟨e, made, rfl⟩ := since earlier'
        exact ((run.turn turn).stands_unique made stands' stands).symm
    · obtain rfl | earlier' := last'
      · obtain ⟨e, made, rfl⟩ := since earlier
        exact (run.turn turn).stands_unique made stands stands'
      · exact ih earlier earlier'

/-- At most one watch is ever set up for a spy. -/
theorem History.exists_link (run : History may past m jobs) (n : Nat) :
    ∃ link, ∀ s ∈ stages m past, s.linksOf (.spy n) = [] ∨ s.linksOf (.spy n) = [link] := by
  by_cases watched : ∃ s ∈ stages m past, ∃ link, s.Stands (.spy n) link
  · obtain ⟨s₀, reached₀, link, stands₀⟩ := watched
    refine ⟨link, fun s reached ↦ ?_⟩
    obtain ⟨ts, kept⟩ := run.kept_of_mem reached
    have all : ∀ l ∈ s.linksOf (.spy n), l = link := by
      intro l member
      exact run.links_agree reached₀ reached stands₀ (Stage.mem_linksOf.1 member)
    obtain ⟨count, same⟩ : ∃ i, s.linksOf (.spy n) = List.replicate i link :=
      ⟨_, List.eq_replicate_of_mem all⟩
    have distinct := Stage.nodup_linksOf (o := .spy n) kept
    rw [same, List.nodup_replicate] at distinct
    rw [same]
    obtain _ | _ | count := count
    · exact .inl rfl
    · exact .inr rfl
    · omega
  · refine ⟨⟨0, 0⟩, fun s reached ↦ .inl (List.eq_nil_iff_forall_not_mem.2 fun l member ↦ ?_)⟩
    exact watched ⟨s, reached, l, Stage.mem_linksOf.1 member⟩

structure Fate (e : Move) (n : Nat) (old new : Mounted (Spy Hearer)) : Prop where
  course : Course old new
  observed : e.observesSpy n → new.part.phase ≠ .idle
  disposed : e.disposesSpy n → new.part.phase = .disposed ∧ new.part.active = old.part.active ∧
    new.part.observed = old.part.observed

theorem Fate.course_next {e : Move} {old new new' : Mounted (Spy Hearer)} (h : Fate e n old new)
    (next : Course new new') : Fate e n old new' where
  course := h.course.trans next
  observed told idle := by
    have leads := next.phase
    rw [idle] at leads
    exact h.observed told leads.eq_idle
  disposed ends := by
    obtain ⟨phase, active, observed⟩ := h.disposed ends
    obtain ⟨active', observed'⟩ := next.ended phase
    have leads := next.phase
    rw [phase] at leads
    exact ⟨leads.eq_disposed, active'.trans active, observed'.trans observed⟩

theorem Turn.fate {old : Mounted (Spy Hearer)} (turn : Turn may m jobs j m' jobs')
    (spiesOnDocuments : m.stage.SpiesOnDocuments) (owned : Private m.stage)
    (found : m.stage.spies[n]? = some old) :
    ∃ new, m'.stage.spies[n]? = some new ∧ Fate ⟨m, jobs, j⟩ n old new := by
  obtain ⟨new, found', course⟩ := turn.course.old found
  refine ⟨new, found', course, fun told idle ↦ ?_, fun ends ↦ ?_⟩
  · -- an idle spy would have begun to observe
    have target : m.stage.observer? j = some n := of_decide_eq_true told
    obtain ⟨-, busy⟩ | ⟨i, spy, d, target', found₁, -, -, spies⟩ := turn.spies spiesOnDocuments
    · have leads := course.phase
      rw [idle] at leads
      exact busy target found leads.eq_idle
    · obtain rfl := Option.some.inj (target.symm.trans target')
      rw [spies, Stage.getElem?_setSpy found₁, if_pos rfl] at found'
      cases found'
      cases idle
  · unfold Move.disposesSpy at ends
    split at ends
    · rename_i name job
      have job : j = .act (.spy name .dispose) := job
      subst job
      have named : m.stage.names.spies.get? name = some n := of_decide_eq_true ends
      obtain ⟨-, ⟨unnamed, -⟩ | ⟨k, spy, named', found₁, stage⟩⟩ := turn.disposes owned
      · cases named.symm.trans unnamed
      · obtain rfl := Option.some.inj (named.symm.trans named')
        obtain rfl := Option.some.inj (found.symm.trans found₁)
        rw [stage, Stage.disposeSpy_eq found, Stage.spies_disconnect, Stage.getElem?_setSpy found,
          if_pos rfl] at found'
        cases found'
        exact ⟨rfl, rfl, rfl⟩
    · cases ends

theorem History.fate (run : History may past m jobs) {e : Move} (made : e ∈ past)
    {old : Mounted (Spy Hearer)} (found : e.machine.stage.spies[n]? = some old) :
    ∃ new, m.stage.spies[n]? = some new ∧ Fate e n old new := by
  induction run with
  | opened page => cases made
  | turn run turn ih =>
    obtain rfl | earlier := List.mem_cons.1 made
    · exact turn.fate run.spiesOnDocuments run.owned found
    · obtain ⟨spy, found, fate⟩ := ih earlier
      obtain ⟨new, found', course⟩ := turn.course.old found
      exact ⟨new, found', fate.course_next course⟩

theorem History.placed (run : History may past m jobs) :
    (m.stage.spies[n]? = none → past.any (·.beginsSpy n) = false) ∧
      ∀ {spy : Mounted (Spy Hearer)}, m.stage.spies[n]? = some spy →
        ∃ d, m.stage.documents[spy.document]? = some d ∧
          Placed (past.any (·.beginsSpy n)) d.page spy := by
  induction run with
  | opened page => exact ⟨fun _ ↦ rfl, fun found ↦ by simp [Machine.opened] at found⟩
  | @turn past m m' jobs jobs' j run turn ih =>
    obtain ⟨unborn, placed⟩ := ih
    have absent (gone : m'.stage.spies[n]? = none) : m.stage.spies[n]? = none := by
      cases before : m.stage.spies[n]? with
      | none => rfl
      | some old =>
        obtain ⟨new, found, -⟩ := turn.course.old before
        cases gone.symm.trans found
    have page {spy : Mounted (Spy Hearer)} {d : Document Receiver}
        (found : m.stage.documents[spy.document]? = some d) :
        ∃ d', m'.stage.documents[spy.document]? = some d' ∧ d'.page = d.page := turn.pages.old found
    rw [List.any_cons]
    obtain ⟨sameObserved, busy⟩ | ⟨i, old, d, target, found, document, idle, spies⟩ :=
      turn.spies run.spiesOnDocuments
    · have still : Move.beginsSpy ⟨m, jobs, j⟩ n = false := by
        rw [← Bool.not_eq_true]
        intro begins
        obtain ⟨told, wasIdle⟩ := Bool.and_eq_true_iff.1 begins
        obtain ⟨spy, found, idle⟩ := (Option.any_eq_true _ _).1 wasIdle
        exact busy (of_decide_eq_true told) found (of_decide_eq_true idle)
      rw [still, Bool.false_or]
      refine ⟨fun gone ↦ unborn (absent gone), fun {spy} found ↦ ?_⟩
      cases before : m.stage.spies[n]? with
      | some old =>
        obtain ⟨new, found', drifted⟩ := sameObserved.old before
        obtain rfl := Option.some.inj (found.symm.trans found')
        obtain ⟨d, document, place⟩ := placed before
        obtain ⟨d', document', same⟩ := page document
        exact ⟨d', drifted.document ▸ document', same ▸ place.sameObserved drifted⟩
      | none =>
        obtain ⟨d, document⟩ := (run.turn turn).spiesOnDocuments _ _ found
        rw [unborn before]
        exact ⟨d, document, .of_blank (sameObserved.new before found) d.page⟩
    · have begins : Move.beginsSpy ⟨m, jobs, j⟩ n = decide (n = i) := by
        by_cases same : n = i
        · subst i
          simp [Move.beginsSpy, Move.observesSpy, target, found, idle]
        · simp [Move.beginsSpy, Move.observesSpy, target, same, Ne.symm same]
      rw [begins]
      refine ⟨fun gone ↦ ?_, fun {spy} found' ↦ ?_⟩
      · have other : n ≠ i := by
          rintro rfl
          cases (absent gone).symm.trans found
        rw [unborn (absent gone), decide_eq_false other]
        rfl
      · rw [spies, Stage.getElem?_setSpy found] at found'
        split at found'
        · subst i
          cases found'
          obtain ⟨d₁, document₁, place⟩ := placed found
          obtain rfl := Option.some.inj (document.symm.trans document₁)
          obtain ⟨d', document', same⟩ := page document
          refine ⟨d', document', ?_⟩
          rw [same, decide_eq_true rfl, Bool.true_or]
          exact place.begin idle
        · rename_i other
          obtain ⟨d, document, place⟩ := placed found'
          obtain ⟨d', document', same⟩ := page document
          rw [decide_eq_false other, Bool.false_or]
          exact ⟨d', document', same ▸ place⟩

/-- At every state of a run, and for every spy: it is on one of its sections, the first or one that
it observes; it observes nothing until it begins to, and from then on its sections that are on the
page, in their order; at most one watch is ever set up for it; and since any earlier state it has
gone on only as `Leads` says, is no longer idle if it was told to observe, and is just as it was if
it has been disposed. -/
theorem spy_course {spy : Spy Hearer} (run : History (fun _ _ ↦ True) past m jobs)
    (found : m.stage.spies[n]? = some ⟨k, spy⟩) : ∃ d, m.stage.documents[k]? = some d ∧
      spy.active ∈ spy.registry.ids ∧
      (spy.active = spy.registry.first.id ∨ spy.active ∈ spy.observed) ∧
      spy.observed =
        (if past.any (·.beginsSpy n) then spy.registry.ids.filter d.page.hasAnchor else []) ∧
      (∃ link, ∀ s ∈ stages m past, s.linksOf (.spy n) = [] ∨ s.linksOf (.spy n) = [link]) ∧
      ∀ e ∈ past, ∀ old, e.machine.stage.spies[n]? = some old →
        old.document = k ∧ old.part.registry = spy.registry ∧ old.part.band = spy.band ∧
        old.part.phase.Leads spy.phase ∧ (e.observesSpy n → spy.phase ≠ .idle) ∧
        (old.part.phase = .disposed ∨ e.disposesSpy n →
          spy.phase = .disposed ∧ spy.active = old.part.active ∧
            spy.observed = old.part.observed) := by
  obtain ⟨d, document, place⟩ := run.placed.2 found
  refine ⟨d, document, place.active_mem, place.active, place.observed, run.exists_link n, ?_⟩
  intro e made old before
  obtain ⟨new, found', fate⟩ := run.fate made before
  obtain rfl := Option.some.inj (found.symm.trans found')
  obtain ⟨document, registry, band, phase, ended⟩ := fate.course
  refine ⟨document.symm, registry.symm, band.symm, phase, fate.observed, ?_⟩
  rintro (disposed | disposes)
  · rw [disposed] at phase
    exact ⟨phase.eq_disposed, ended disposed⟩
  · exact fate.disposed disposes

end Runs

def forgedBatches : List Step :=
  [.spy "s" (.create ["b", "ghost", "a"] ⟨20, 80⟩),
    .listen (.spy "s") "l" [.page (.emit [⟨"ghost", true⟩, ⟨"b", true⟩, ⟨"nowhere", true⟩]),
      .spy "s" .dispose, .page (.emit [⟨"a", true⟩])] 1,
    .spy "s" .observe, .page (.userScroll 100)]

theorem spy_course_forgedBatches :
    ∃ m past spy d, Machine.journal? 50 forgedBatches (.opened twoSections) [] = some (m, past) ∧
      m.stage.spies[0]? = some ⟨0, spy⟩ ∧ m.stage.documents[0]? = some d ∧
      past.any (·.beginsSpy 0) ∧
      past.any (·.disposesSpy 0) ∧ spy.active = "b" ∧
      spy.observed = spy.registry.ids.filter d.page.hasAnchor ∧
      spy.phase = .disposed := by
  have checked : ∃ r ∈ Machine.journal? 50 forgedBatches (.opened twoSections) [],
      ∃ spy ∈ r.1.stage.spies[0]?, spy.document = 0 ∧ spy.part.active = "b" ∧
        r.2.any (·.beginsSpy 0) ∧
        ∃ e ∈ r.2, e.disposesSpy 0 ∧ (e.machine.stage.spies[0]?).isSome := by decide +kernel
  obtain ⟨⟨m, past⟩, kept, ⟨k, spy⟩, found, rfl, active, begun, e, made, disposes, present⟩ :=
    checked
  have run : History (fun _ _ ↦ True) past m [] :=
    (History.opened twoSections).journal kept fun e _ ↦ by cases e.job <;> trivial
  obtain ⟨d, document, -, -, observed, -, since⟩ := spy_course run found
  obtain ⟨old, before⟩ := Option.isSome_iff_exists.1 present
  obtain ⟨-, -, -, -, -, ended⟩ := since e made old before
  rw [if_pos begun] at observed
  exact ⟨m, past, spy, d, kept, found, document, begun, List.any_eq_true.2 ⟨e, made, disposes⟩,
    active, observed, (ended (.inr disposes)).1⟩

end Session

end Wayfinder
