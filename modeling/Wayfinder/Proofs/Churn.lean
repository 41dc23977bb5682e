import Wayfinder.Proofs.Highlight
import Wayfinder.Proofs.Subscriptions

namespace Wayfinder.Session

variable {s s' : Stage} {ts ts' : List Errand} {n k : Nat}

section Owners

namespace Stage

def owners (s : Stage) (k : Nat) : List Receiver := (s.register? k).elim [] Subscribers.toList

theorem owners_of_found {d : Document Receiver} (found : s.documents[k]? = some d) :
    s.owners k = d.registered.toList := by rw [owners, register?_of_found found, Option.elim_some]

theorem owners_congr (documents : s'.documents = s.documents) (k : Nat) :
    s'.owners k = s.owners k := by
  rw [owners, register?, documents, owners, register?]

theorem owners_setDocument {d d' : Document Receiver} (found : s.documents[n]? = some d) (k : Nat) :
    (s.setDocument n d').owners k = if k = n then d'.registered.toList else s.owners k := by
  rw [owners, register?_setDocument found]
  split <;> rfl

theorem owners_amend {d d' : Document Receiver} (found : s.documents[n]? = some d)
    (same : d'.registered = d.registered) (k : Nat) :
    (s.setDocument n d').owners k = s.owners k := by
  rw [owners_setDocument found]
  split
  · rename_i here
    rw [here, same, owners_of_found found]
  · rfl

theorem owners_observe {d : Document Receiver} (found : s.documents[n]? = some d) (owner : Receiver)
    (ids : List String) (band : Band) (k : Nat) :
    (s.setDocument n (d.observe owner ids band)).owners k =
      if k = n then s.owners k ++ [owner] else s.owners k := by
  rw [owners_setDocument found]
  split
  · rename_i here
    rw [here, Document.registered_observe, Subscribers.toList_add, owners_of_found found]
  · rfl

theorem owners_openPage (page : Blueprint) (k : Nat) : (s.openPage page).owners k = s.owners k := by
  rw [owners, register?_openPage]
  split
  · rename_i last
    have none : s.register? k = none := by simp [register?, last]
    rw [owners, none]
    rfl
  · rfl

theorem owners_disconnect (link : Option Link) (k : Nat) :
    ((s.disconnect link).owners k).Sublist (s.owners k) := by
  cases link with
  | none => exact List.Sublist.refl _
  | some link =>
    rw [owners, disconnect, register?_releaseLink]
    split
    · rw [owners]
      cases s.register? k with
      | none => exact List.Sublist.refl _
      | some r => exact List.filter_sublist.map _
    · exact List.Sublist.refl _

theorem owners_disposeSpy (n k : Nat) : ((s.disposeSpy n).owners k).Sublist (s.owners k) := by
  unfold disposeSpy
  split
  · exact List.Sublist.refl _
  · exact owners_disconnect _ k

theorem owners_reclaimOld (o : Option Object) (k : Nat) :
    ((s.reclaimOld o).owners k).Sublist (s.owners k) :=
  reclaimOld_ind (P := fun s' ↦ (s'.owners k).Sublist (s.owners k)) (List.Sublist.refl _)
    (fun h ↦ h) (fun h ↦ h)
    fun _ i _ _ _ ↦ owners_disposeSpy i k

theorem mem_owners {o : Receiver} : o ∈ s.owners k ↔ ∃ token, s.Stands o ⟨k, token⟩ := by
  cases register : s.register? k with
  | none => simp [owners, Stands, register]
  | some r => simp [owners, Stands, register, Subscribers.mem_toList]

end Stage

def Job.watches : Job → Bool
  | .act (.listen (.watch _ _ _) _ _ _) => true
  | _ => false

def Job.starts : Job → Bool
  | .act (.menu _ .start) => true
  | _ => false

variable {s₀ : Stage} {j : Job}

/-- No job sets up a watch, except to have a spy observe or for a handle. -/
theorem Edit.owners (e : Edit (Only s₀ j) s ts s' ts') (plain : j.observes = false)
    (unwatched : j.watches = false) (k : Nat) : (s'.owners k).Sublist (s.owners k) := by
  have same {s' : Stage} (documents : s'.documents = s.documents) :
      (s'.owners k).Sublist (s.owners k) := by
    rw [Stage.owners_congr documents]
  cases e with
  | skip | push | animate | handOn | passOn | emit | faults | createStore | adopt | subscribeStore
  | dropStore | subscribeSpy | unsubscribeSpy | receive | createScroller | setOpen | listenMenu
  | tellMenu | deaf | redraw | unseen | hold => exact same rfl
  | amend found alike => rw [Stage.owners_amend found alike.registered]
  | inform found alike =>
    rw [Stage.owners_amend found (Document.registered_inform.trans alike.registered)]
  | openPage page => rw [Stage.owners_openPage]
  | watch _ _ _ _ _ allowed =>
    rw [← allowed.2] at unwatched
    cases unwatched
  | observe _ _ _ observes allowed | observeNothing _ _ _ _ observes allowed =>
    rw [allowed.2, plain] at observes
    cases observes
  | keepHandle | freeHandle | dropHandle => exact Stage.owners_disconnect _ k
  | unsubscribeStore =>
    unfold Stage.unsubscribeStore
    split <;> exact same rfl
  | keepWatch =>
    unfold Stage.keepWatch
    split <;> exact same rfl
  | disposeSpy => exact Stage.owners_disposeSpy _ k
  | disposeMenu =>
    exact Stage.releaseMenu_ind (P := fun s' ↦ (s'.owners k).Sublist (s.owners k))
      (List.Sublist.refl _) (fun h ↦ h)
      (fun h ↦ h) fun i _ ↦ Stage.owners_disposeSpy i k
  | createSpy | createMenu | createBare | shareMenu => exact Stage.owners_reclaimOld _ k
  | dropSpy | dropMenu | letGo => exact Stage.owners_reclaimOld (some _) k

end Owners

section Bookings

def Errand.spyToObserve? : Errand → Option Nat
  | .observe n => some n
  | _ => none

def spiesToObserve (ts : List Errand) : List Nat := ts.filterMap Errand.spyToObserve?

theorem spiesToObserve_append (ts ts' : List Errand) :
    spiesToObserve (ts ++ ts') = spiesToObserve ts ++ spiesToObserve ts' :=
  List.filterMap_append

theorem mem_spiesToObserve : n ∈ spiesToObserve ts ↔ .observe n ∈ ts := by
  rw [spiesToObserve, List.mem_filterMap]
  constructor
  · rintro ⟨t, member, booking⟩
    unfold Errand.spyToObserve? at booking
    split at booking
    · cases booking
      exact member
    · cases booking
  · exact fun member ↦ ⟨_, member, rfl⟩

theorem spiesToObserve_eq_nil (others : ∀ t ∈ ts, t.spyToObserve? = none) :
    spiesToObserve ts = [] :=
  List.filterMap_eq_nil_iff.2 others

theorem spiesToObserve_tellAll (hearers : List Hearer) (news : Notice) :
    spiesToObserve (tellAll hearers news) = [] :=
  spiesToObserve_eq_nil (by simp [tellAll, Errand.spyToObserve?])

theorem spiesToObserve_handAll (ds : List (Delivery Receiver)) : spiesToObserve (handAll ds) = [] :=
  spiesToObserve_eq_nil (by simp [handAll, Errand.spyToObserve?])

theorem spiesToObserve_handFirst (o : Receiver) (batch : List Entry) :
    spiesToObserve (handFirst o batch) = [] := by
  unfold handFirst
  split <;> rfl

variable {s₀ : Stage} {j : Job}

/-- Only a start has a spy observe. -/
theorem Edit.spiesToObserve (e : Edit (Only s₀ j) s ts s' ts') (idle : j.starts = false) :
    (spiesToObserve ts').Sublist (spiesToObserve ts) := by
  cases e with
  | skip => exact (List.sublist_cons_self _ _).filterMap _
  | push _ allowed =>
    obtain ⟨_, _, -, rfl⟩ := allowed
    cases idle
  | animate | handOn | passOn | amend | openPage | faults | keepHandle | freeHandle | dropHandle
  | createStore | subscribeStore | unsubscribeStore | dropStore | createSpy | observeNothing
  | keepWatch | disposeSpy | subscribeSpy | unsubscribeSpy | dropSpy | createScroller | createMenu
  | createBare | shareMenu | disposeMenu | dropMenu | listenMenu | tellMenu | deaf | redraw | unseen
  | hold | letGo => exact List.Sublist.refl _
  | inform | emit => rw [spiesToObserve_append, spiesToObserve_handAll, List.nil_append]
  | adopt | receive => rw [spiesToObserve_append, spiesToObserve_tellAll, List.nil_append]
  | setOpen => split <;> exact List.Sublist.refl _
  | watch | observe =>
    rw [spiesToObserve_append, spiesToObserve_handFirst, List.nil_append]
    exact List.Sublist.refl _

end Bookings

namespace Stage

def spyOf? (s : Stage) (n : Nat) : Option Nat := s.menus[n]?.bind Menu.spy?

def documentAndSpy? (s : Stage) (n : Nat) : Option (Nat × Nat) :=
  (s.spyOf? n).bind fun i ↦ s.spies[i]?.map fun m ↦ (m.document, i)

def isIdleOn (s : Stage) (k i : Nat) : Bool :=
  s.spies[i]?.any fun m ↦ m.document = k && m.part.phase = .idle

theorem spyOf?_eq_some {i : Nat} :
    s.spyOf? n = some i ↔ ∃ menu c, s.menus[n]? = some menu ∧ menu.contents = some c ∧
      c.spy = i := by
  simp [spyOf?, Menu.spy?, Option.bind_eq_some_iff]

theorem documentAndSpy?_eq_some {i : Nat} :
    s.documentAndSpy? n = some (k, i) ↔ s.spyOf? n = some i ∧ ∃ m, s.spies[i]? = some m ∧
      m.document = k := by
  simp only [documentAndSpy?, Option.bind_eq_some_iff, Option.map_eq_some_iff, Prod.mk.injEq]
  constructor
  · rintro ⟨i, spy, m, found, document, rfl⟩
    exact ⟨spy, m, found, document⟩
  · rintro ⟨spy, m, found, document⟩
    exact ⟨i, spy, m, found, document, rfl⟩

theorem isIdleOn_iff {i : Nat} :
    s.isIdleOn k i ↔ ∃ m, s.spies[i]? = some m ∧ m.document = k ∧ m.part.phase = .idle := by
  simp [isIdleOn, Option.any_eq_true]

end Stage

theorem course_setSpy {m : Mounted (Spy Hearer)} (found : s.spies[n]? = some m)
    (idle : m.part.phase = .idle) (d : Document Receiver) :
    Grows Course (fun _ ↦ True) s.spies (s.setSpy n (beginObserving m.part d)).spies := by
  refine .modify Course.refl fun m' found' ↦ ?_
  rw [Option.some.inj (found'.symm.trans found)]
  exact course_beginObserving idle d

/-- The owners of the watches on a document, and after them the spies on it that are about to get
one, stand among all these in their order. -/
structure OwnersInOrder (k : Nat) (all : List Receiver) (s : Stage) (ts : List Errand) : Prop where
  order : (s.owners k ++ ((spiesToObserve ts).filter (s.isIdleOn k)).map Receiver.spy).Sublist all
  known : ∀ i ∈ spiesToObserve ts, i < s.spies.length

namespace OwnersInOrder

variable {all : List Receiver} {N : Mounted (Spy Hearer) → Prop}

theorem filter_isIdleOn (h : OwnersInOrder k all s ts)
    (fewer : (spiesToObserve ts').Sublist (spiesToObserve ts))
    (course : Grows Course N s.spies s'.spies) :
    ((spiesToObserve ts').filter (s'.isIdleOn k)).Sublist
      ((spiesToObserve ts).filter (s.isIdleOn k)) := by
  have sooner : ∀ i ∈ spiesToObserve ts', s'.isIdleOn k i =
      (s'.isIdleOn k i && s.isIdleOn k i) := by
    intro i member
    rw [Bool.eq_self_and]
    intro isIdleOn
    obtain ⟨m', found', document, idle⟩ := Stage.isIdleOn_iff.1 isIdleOn
    obtain ⟨new, found, course⟩ :=
      course.old (List.getElem?_eq_getElem (h.known i (fewer.subset member)))
    cases found.symm.trans found'
    have leads := course.phase
    rw [idle] at leads
    exact Stage.isIdleOn_iff.2 ⟨_, List.getElem?_eq_getElem _, course.document.symm.trans document,
      leads.eq_idle⟩
  rw [List.filter_congr sooner, ← List.filter_filter]
  exact List.filter_sublist.trans (fewer.filter _)

theorem of_less (h : OwnersInOrder k all s ts) (owners : (s'.owners k).Sublist (s.owners k))
    (fewer : (spiesToObserve ts').Sublist (spiesToObserve ts))
    (course : Grows Course N s.spies s'.spies) :
    OwnersInOrder k all s' ts' where
  order := (owners.append ((h.filter_isIdleOn fewer course).map _)).trans h.order
  known i member := Nat.lt_of_lt_of_le (h.known i (fewer.subset member)) course.length_le

theorem mono {all' : List Receiver} (h : OwnersInOrder k all s ts) (more : all.Sublist all') :
    OwnersInOrder k all' s ts :=
  ⟨h.order.trans more, h.known⟩

theorem edit {s₀ : Stage} {j : Job} (h : OwnersInOrder k all s ts)
    (e : Edit (Only s₀ j) s ts s' ts') (plain : j.observes = false) (unwatched : j.watches = false)
    (idle : j.starts = false) : OwnersInOrder k all s' ts' :=
  h.of_less (e.owners plain unwatched k) (e.spiesToObserve idle) e.course

/-- A spy that begins to observe has its turn, and then its watch comes last. -/
theorem begin {m : Mounted (Spy Hearer)} {d : Document Receiver} {ids : List String} {band : Band}
    (h : OwnersInOrder k all s (.observe n :: ts)) (found : s.spies[n]? = some m)
    (document : s.documents[m.document]? = some d) (idle : m.part.phase = .idle)
    (same : spiesToObserve ts' = spiesToObserve ts) :
    OwnersInOrder k all
      ((s.setSpy n (beginObserving m.part d)).setDocument m.document (d.observe (.spy n) ids band))
        ts' := by
  have course := course_setSpy found idle d
  have rest : OwnersInOrder k all s ts :=
    h.of_less (List.Sublist.refl _) (List.sublist_cons_self _ _)
      (.refl (N := fun _ ↦ True) Course.refl)
  have fewer : (spiesToObserve ts').Sublist (spiesToObserve ts) := by rw [same]
  have owners :=
    Stage.owners_observe (s := s.setSpy n (beginObserving m.part d)) document (.spy n) ids band k
  have unchanged : (s.setSpy n (beginObserving m.part d)).owners k = s.owners k :=
    Stage.owners_congr rfl k
  rw [unchanged] at owners
  refine ⟨?_, fun i member ↦
    Nat.lt_of_lt_of_le (rest.known i (fewer.subset member)) course.length_le⟩
  rw [owners]
  have later := (rest.filter_isIdleOn (k := k) fewer course).map Receiver.spy
  split
  · rename_i here
    have expected : s.isIdleOn k n := Stage.isIdleOn_iff.2 ⟨m, found, here.symm, idle⟩
    have order := h.order
    have first : spiesToObserve (.observe n :: ts) = n :: spiesToObserve ts := rfl
    rw [first, List.filter_cons_of_pos expected, List.map_cons, List.append_cons] at order
    exact ((List.Sublist.refl _).append later).trans order
  · exact ((List.Sublist.refl _).append later).trans rest.order

theorem observe (h : OwnersInOrder k all s (.observe n :: ts)) :
    OwnersInOrder k all (s.observeSpy n).stage ((s.observeSpy n).errands ++ ts) := by
  have fewer : (spiesToObserve ts).Sublist (spiesToObserve (.observe n :: ts)) :=
    List.sublist_cons_self _ _
  obtain ⟨stage, errands⟩ | ⟨m, d, found, document, idle, ⟨stage, errands⟩ | ⟨-, stage, errands⟩⟩ :=
    s.observeSpy_cases n
  · rw [stage, errands]
    exact h.of_less (List.Sublist.refl _) fewer (.refl (N := fun _ ↦ True) Course.refl)
  · rw [stage, errands]
    refine h.begin found document idle ?_
    rw [List.append_assoc, spiesToObserve_append, spiesToObserve_handFirst]
    rfl
  · rw [stage, errands]
    rw [Stage.setDocument_self (s := s.setSpy n (beginObserving m.part d)) document]
    exact h.of_less (List.Sublist.refl _) fewer (course_setSpy found idle d)

end OwnersInOrder

namespace Stage

variable {name : String} {menu : Menu}

theorem spiesToObserve_changeStore
    {op : Preference Hearer → Document Receiver → Faults → Preference.Change Hearer Receiver} :
    spiesToObserve (s.changeStore n op).errands = [] := by
  unfold changeStore
  split
  · rfl
  · split
    · rfl
    · exact spiesToObserve_tellAll _ _

theorem owners_loadStore (k : Nat) : (s.loadStore n).stage.owners k = s.owners k := by
  unfold loadStore changeStore
  split
  · rfl
  · rename_i m found
    split
    · rfl
    · rename_i d document
      exact owners_amend (s := s.setStore n _) document
        (Preference.load_themeChangeOnly m.part d s.faults).alike.registered k

theorem spies_loadStore : (s.loadStore n).stage.spies = s.spies := by
  unfold loadStore changeStore
  split
  · rfl
  · split <;> rfl

theorem spiesToObserve_startMenu (n : Nat) (menu : Menu) :
    spiesToObserve (s.startMenu n menu).errands = menu.spy?.toList := by
  have observe : spiesToObserve (menu.contents.toList.map fun c ↦ .observe c.spy) =
      menu.spy?.toList := by
    rw [Menu.spy?]
    cases menu.contents <;> rfl
  simp only [startMenu, spiesToObserve_append, loadStore, spiesToObserve_changeStore, observe,
    List.nil_append]
  exact List.append_nil _

theorem start_cases (s : Stage) (name : String) :
    (s.performMenu name .start).stage = s ∧ (s.performMenu name .start).errands = [] ∧
      (∀ n, s.names.menus.get? name = some n → s.menus[n]? = none) ∨
    ∃ n menu, s.names.menus.get? name = some n ∧ s.menus[n]? = some menu ∧
      (s.performMenu name .start).stage.spies = s.spies ∧
      (∀ k, (s.performMenu name .start).stage.owners k = s.owners k) ∧
      spiesToObserve (s.performMenu name .start).errands = menu.spy?.toList := by
  simp only [performMenu, onMenu]
  split
  · rename_i unnamed
    exact .inl ⟨rfl, rfl, fun n named ↦ by cases unnamed.symm.trans named⟩
  · rename_i n named
    split
    · rename_i menu found
      refine .inr ⟨n, menu, named, found, spies_loadStore, fun k ↦ owners_loadStore k, ?_⟩
      have errands :
          spiesToObserve (((s.hold (.menu n)).startMenu n menu).errands ++ [.letGo (.menu n)]) =
          menu.spy?.toList := by
        rw [spiesToObserve_append, spiesToObserve_startMenu]
        exact List.append_nil _
      exact errands
    · rename_i missing
      exact .inl ⟨rfl, rfl, fun n' named' ↦ by rwa [← Option.some.inj (named.symm.trans named')]⟩

end Stage

/-- By a start, the spy of the menu comes last, unless it has observed before. -/
theorem OwnersInOrder.start {all news : List Receiver} (h : OwnersInOrder k all s [])
    (owned : Private s) (name : String)
    (new : ∀ n i, s.names.menus.get? name = some n → s.spyOf? n = some i → s.isIdleOn k i →
      news = [.spy i]) :
    OwnersInOrder k (all ++ news)
    (s.performMenu name .start).stage (s.performMenu name .start).errands := by
  have order : (s.owners k).Sublist all := by simpa [spiesToObserve] using h.order
  obtain ⟨stage, errands, -⟩ | ⟨n, menu, named, found, spies, owners, ownersInOrder⟩ :=
    s.start_cases name
  · rw [stage, errands]
    exact ⟨h.order.trans (List.sublist_append_left _ _), h.known⟩
  · have same : (s.performMenu name .start).stage.isIdleOn k = s.isIdleOn k := by
      funext i
      rw [Stage.isIdleOn, spies, Stage.isIdleOn]
    refine ⟨?_, fun i member ↦ ?_⟩
    · rw [owners, same, ownersInOrder]
      cases spy : menu.spy? with
      | none => exact (List.append_nil _).symm ▸ order.trans (List.sublist_append_left _ _)
      | some i =>
        by_cases isIdleOn : s.isIdleOn k i
        · have here : s.spyOf? n = some i := by rw [Stage.spyOf?, found, Option.bind_some, spy]
          rw [new n i named here isIdleOn, Option.toList_some, List.filter_cons_of_pos isIdleOn]
          exact order.append (List.Sublist.refl _)
        · rw [Option.toList_some, List.filter_cons_of_neg isIdleOn]
          exact (List.append_nil _).symm ▸ order.trans (List.sublist_append_left _ _)
    · rw [ownersInOrder, Option.mem_toList] at member
      obtain ⟨c, contents, rfl⟩ := Option.map_eq_some_iff.1 member
      rw [spies]
      exact owned.bound found contents

/-- Whom a document may have a watch of: a menu by its spy, or a handle by its listener. -/
inductive WatchOwner where
  | menu (number spy : Nat)
  | handle (name : String) (probe : Nat)
deriving DecidableEq, Repr

def WatchOwner.receiver : WatchOwner → Receiver
  | .menu _ spy => .spy spy
  | .handle _ probe => .probe probe

def Move.starts (e : Move) (n : Nat) : Bool :=
  match e.job with
  | .act (.menu name .start) => e.machine.stage.names.menus.get? name = some n
  | _ => false

/-- Whom the move gives a watch on the document: a new handle, or a menu with sections that is
started for the first time and has not been disposed. -/
def Move.admits (e : Move) (k : Nat) (past : List Move) : Option WatchOwner :=
  match e.job with
  | .act (.listen (.watch name _ _) _ _ _) =>
    if e.machine.stage.current = k then some (.handle name e.machine.probes.length) else none
  | .act (.menu name .start) =>
    (e.machine.stage.names.menus.get? name).bind fun n ↦
      (e.machine.stage.documentAndSpy? n).bind fun seat ↦
      if seat.1 = k && !past.any fun e ↦ e.starts n || e.disposesMenu n then
        some (.menu n seat.2) else none
  | _ => none

def watchOwners (k : Nat) : List Move → List WatchOwner
  | [] => []
  | e :: past => watchOwners k past ++ (e.admits k past).toList

/-- A menu keeps its watch as long as it lasts; a handle, until it is disconnected or dropped or its
name is given to another. -/
def WatchOwner.stays (past : List Move) (s : Stage) : WatchOwner → Bool
  | .menu n _ => lasts past s n
  | .handle name probe => !past.any fun e ↦ probe < e.machine.probes.length && e.frees name

theorem Move.starts_iff {e : Move} : e.starts n ↔
    ∃ name, e.job = .act (.menu name .start) ∧ e.machine.stage.names.menus.get? name = some n := by
  unfold Move.starts
  split
  · rename_i name job
    simp [job]
  · rename_i other
    refine iff_of_false Bool.false_ne_true ?_
    rintro ⟨name, job, -⟩
    exact other name job

theorem Move.admits_start {e : Move} {past : List Move} {name : String} {g : WatchOwner}
    (job : e.job = .act (.menu name .start)) :
    e.admits k past = some g ↔ ∃ n i, e.machine.stage.names.menus.get? name = some n ∧
      e.machine.stage.documentAndSpy? n = some (k, i) ∧
      (∀ e' ∈ past, ¬ e'.starts n ∧ ¬ e'.disposesMenu n) ∧ g = .menu n i := by
  have admits : e.admits k past = (e.machine.stage.names.menus.get? name).bind fun n ↦
      (e.machine.stage.documentAndSpy? n).bind fun seat ↦
        if seat.1 = k && !past.any fun e ↦ e.starts n || e.disposesMenu n then some (.menu n seat.2)
        else none := by
    rw [Move.admits, job]
  rw [admits]
  simp only [Option.bind_eq_some_iff, Option.ite_none_right_eq_some, Bool.and_eq_true,
    decide_eq_true_eq, Bool.not_eq_true', List.any_eq_false, Bool.or_eq_true, not_or]
  constructor
  · rintro ⟨n, named, ⟨document, i⟩, seat, ⟨⟨rfl, first⟩, ⟨⟩⟩⟩
    exact ⟨n, i, named, seat, first, rfl⟩
  · rintro ⟨n, i, named, seat, first, rfl⟩
    exact ⟨n, named, (k, i), seat, ⟨rfl, first⟩, rfl⟩

theorem Move.admits_watch {e : Move} {past : List Move} {g : WatchOwner}
    (other : ∀ name, e.job ≠ .act (.menu name .start)) :
    e.admits k past = some g ↔ ∃ name probe ids band, e.setsUp name probe k ids band ∧
      g = .handle name probe := by
  simp only [Move.setsUp_iff]
  unfold Move.admits
  split
  · rename_i name ids band label script limit job
    rw [Option.ite_none_right_eq_some]
    constructor
    · rintro ⟨current, ⟨⟩⟩
      exact ⟨name, _, ids, band, ⟨rfl, current, label, script, limit, job⟩, rfl⟩
    · rintro ⟨_, _, _, _, ⟨rfl, current, _, _, _, job'⟩, rfl⟩
      cases job.symm.trans job'
      exact ⟨current, rfl⟩
  · rename_i name job
    exact absurd job (other name)
  · rename_i unwatched _
    refine iff_of_false (by simp) ?_
    rintro ⟨name, _, ids, band, ⟨-, -, label, script, limit, job⟩, -⟩
    exact unwatched _ _ _ _ _ _ job

theorem Move.admits_cases {e : Move} {past : List Move} {g : WatchOwner}
    (admits : e.admits k past = some g) :
    (∃ n i, g = .menu n i ∧ e.starts n ∧ e.machine.stage.documentAndSpy? n = some (k, i) ∧
      ∀ e' ∈ past, ¬ e'.starts n ∧ ¬ e'.disposesMenu n) ∨
    ∃ name probe ids band, g = .handle name probe ∧ e.setsUp name probe k ids band := by
  by_cases started : ∃ name, e.job = .act (.menu name .start)
  · obtain ⟨name, job⟩ := started
    obtain ⟨n, i, named, seat, first, rfl⟩ := (Move.admits_start job).1 admits
    exact .inl ⟨n, i, rfl, Move.starts_iff.2 ⟨name, job, named⟩, seat, first⟩
  · obtain ⟨name, probe, ids, band, setUp, rfl⟩ :=
      (Move.admits_watch (by simpa using started)).1 admits
    exact .inr ⟨name, probe, ids, band, rfl, setUp⟩

section Runs

variable {may : Stage → Step → Prop} {past : List Move} {m m' : Machine} {jobs jobs' : List Job}
  {j : Job} {e : Move} {i : Nat} {menu : Menu}

theorem Turn.spyOf? (turn : Turn may m jobs j m' jobs') (found : m.stage.menus[n]? = some menu) :
    m'.stage.spyOf? n = m.stage.spyOf? n := by
  have kept :=
    turn.edits_only.keep (I := fun s _ ↦ ∃ menu', s.menus[n]? = some menu' ∧
      menu'.contents = menu.contents)
    (fun e ⟨menu₁, found₁, same⟩ ↦ by
      obtain ⟨menu₂, found₂, -, contents⟩ := e.keepsMenu found₁
      exact ⟨menu₂, found₂, contents.trans same⟩) ⟨menu, found, rfl⟩
  obtain ⟨menu', found', same⟩ := kept
  simp only [Stage.spyOf?, found, found', Option.bind_some, Menu.spy?, same]

theorem Turn.documentAndSpy? (turn : Turn may m jobs j m' jobs')
    (seat : m.stage.documentAndSpy? n = some (k, i)) :
    m'.stage.documentAndSpy? n = some (k, i) := by
  obtain ⟨spy, mounted, found, document⟩ := Stage.documentAndSpy?_eq_some.1 seat
  obtain ⟨menu, -, present, -⟩ := Stage.spyOf?_eq_some.1 spy
  obtain ⟨new, found', course⟩ := turn.course.old found
  exact Stage.documentAndSpy?_eq_some.2 ⟨(turn.spyOf? present).trans spy, new, found',
    course.document.trans document⟩

theorem Move.menu_of_starts (starts : e.starts n)
    (namedMenusAlive : e.machine.stage.NamedMenusAlive) :
    ∃ menu, e.machine.stage.menus[n]? = some menu := by
  obtain ⟨name, -, named⟩ := Move.starts_iff.1 starts
  obtain ⟨menu, found, -⟩ := namedMenusAlive n (Stage.isNamed_of_calls ⟨name, named⟩)
  exact ⟨menu, found⟩

theorem History.menu_of_starts (run : History may past m jobs) (made : e ∈ past)
    (starts : e.starts n) :
    ∃ menu, m.stage.menus[n]? = some menu := by
  induction run with
  | opened page => cases made
  | turn run turn ih =>
    refine turn.edits_only.keep (I := fun s _ ↦ ∃ menu, s.menus[n]? = some menu) ?_ ?_
    · rintro s s' ts ts' e ⟨menu, found⟩
      obtain ⟨menu', found', -⟩ := e.keepsMenu found
      exact ⟨menu', found'⟩
    · obtain rfl | earlier := List.mem_cons.1 made
      · exact Move.menu_of_starts starts run.namedMenusAlive
      · exact ih earlier

/-- An errand waits until it is done. -/
theorem Turn.pending {t : Errand} (turn : Turn may m jobs j m' jobs') (waits : t ∈ errandsOf jobs) :
    j = .errand t ∨ t ∈ errandsOf jobs' := by
  obtain ⟨s, -, -, -, errands⟩ | ⟨t', rest, rfl, pending, -, errands⟩ | ⟨-, -, errands⟩ :=
    turn.effect
  · rw [errands]
    exact .inr (List.mem_append_right _ waits)
  · rw [pending] at waits
    obtain rfl | later := List.mem_cons.1 waits
    · exact .inl rfl
    · rw [errands]
      exact .inr (List.mem_append_right _ later)
  · exact .inr (errands ▸ waits)

theorem Turn.observe_of_starts (turn : Turn may m jobs j m' jobs')
    (starts : Move.starts ⟨m, jobs, j⟩ n) (found : m.stage.menus[n]? = some menu)
    (spy : menu.spy? = some i) : .observe i ∈ errandsOf jobs' := by
  obtain ⟨name, job, named⟩ := Move.starts_iff.1 starts
  have job : j = .act (.menu name .start) := job
  subst job
  obtain ⟨-, errands⟩ := turn.effect_act
  rw [errands]
  refine List.mem_append_left _ (mem_spiesToObserve.1 ?_)
  obtain ⟨-, -, missing⟩ | ⟨n', menu', named', found', -, -, ownersInOrder⟩ :=
    m.stage.start_cases name
  · cases (missing n named).symm.trans found
  · cases named.symm.trans named'
    cases found.symm.trans found'
    rw [Stage.perform, ownersInOrder, spy]
    exact .head _

/-- Once a menu was started, its spy observes or is about to. -/
theorem History.observe_of_starts {spy : Mounted (Spy Hearer)} (run : History may past m jobs)
    (made : e ∈ past) (starts : e.starts n) (own : m.stage.spyOf? n = some i)
    (found : m.stage.spies[i]? = some spy) (idle : spy.part.phase = .idle) :
    .observe i ∈ errandsOf jobs := by
  induction run generalizing spy with
  | opened page => cases made
  | @turn past m m' jobs jobs' j run turn ih =>
    obtain ⟨menu, present⟩ : ∃ menu, m.stage.menus[n]? = some menu := by
      obtain rfl | earlier := List.mem_cons.1 made
      · exact Move.menu_of_starts starts run.namedMenusAlive
      · exact run.menu_of_starts earlier starts
    rw [turn.spyOf? present] at own
    obtain ⟨menu', c, present', contents, rfl⟩ := Stage.spyOf?_eq_some.1 own
    have before := List.getElem?_eq_getElem (run.owned.bound present' contents)
    obtain ⟨new, found', fate⟩ := turn.fate run.spiesOnDocuments run.owned before
    cases found.symm.trans found'
    obtain rfl | earlier := List.mem_cons.1 made
    · exact turn.observe_of_starts starts present' (by rw [Menu.spy?, contents, Option.map_some])
    · have leads := fate.course.phase
      rw [idle] at leads
      obtain rfl | pending := turn.pending (ih earlier own before leads.eq_idle)
      · exact absurd idle (fate.observed (by simp [Move.observesSpy, Stage.observer?]))
      · exact pending

/-- At rest, a menu whose spy is idle has been neither started nor disposed. -/
theorem History.unvisited {spy : Mounted (Spy Hearer)} (run : History may past m [])
    (own : m.stage.spyOf? n = some i) (found : m.stage.spies[i]? = some spy)
    (idle : spy.part.phase = .idle) :
    ∀ e ∈ past, ¬ e.starts n ∧ ¬ e.disposesMenu n := by
  refine fun e made ↦ ⟨fun starts ↦ ?_, fun disposes ↦ ?_⟩
  · cases run.observe_of_starts made starts own found idle
  · obtain ⟨menu, present, lapsed⟩ := run.token_of_disposes made disposes
    obtain ⟨menu', c, present', contents, rfl⟩ := Stage.spyOf?_eq_some.1 own
    cases present.symm.trans present'
    have disposed :=
      (run.tokenMatchesSpy n menu c spy.post present contents (Stage.post?_of_found found)).2 lapsed
    cases idle.symm.trans disposed

theorem History.menu_of_watchOwners (run : History may past m jobs)
    (member : .menu n i ∈ watchOwners k past) :
    m.stage.documentAndSpy? n = some (k, i) ∧ ∃ e ∈ past, e.starts n := by
  induction run with
  | opened page => cases member
  | turn run turn ih =>
    obtain old | new := List.mem_append.1 member
    · obtain ⟨seat, e, made, starts⟩ := ih old
      exact ⟨turn.documentAndSpy? seat, e, .tail _ made, starts⟩
    · obtain ⟨_, _, ⟨rfl, rfl⟩, starts, seat, -⟩ | ⟨_, _, _, _, ⟨⟩, -⟩ :=
        Move.admits_cases (Option.mem_toList.1 new)
      exact ⟨turn.documentAndSpy? seat, _, .head _, starts⟩

theorem handle_of_watchOwners {name : String} {probe : Nat}
    (member : .handle name probe ∈ watchOwners k past) :
    ∃ e ∈ past, ∃ ids band, e.setsUp name probe k ids band := by
  induction past with
  | nil => cases member
  | cons e past ih =>
    obtain old | new := List.mem_append.1 member
    · obtain ⟨e', made, setUp⟩ := ih old
      exact ⟨e', .tail _ made, setUp⟩
    · obtain ⟨_, _, ⟨⟩, -⟩ | ⟨_, _, ids, band, ⟨rfl, rfl⟩, setUp⟩ :=
        Move.admits_cases (Option.mem_toList.1 new)
      exact ⟨e, .head _, ids, band, setUp⟩

theorem History.nodup_watchOwners (run : History may past m jobs) (k : Nat) :
    ((watchOwners k past).map WatchOwner.receiver).Nodup := by
  induction run with
  | opened page => exact .nil
  | @turn past m m' jobs jobs' j run turn ih =>
    have alone : (((Move.admits ⟨m, jobs, j⟩ k past).toList).map WatchOwner.receiver).Nodup := by
      cases Move.admits ⟨m, jobs, j⟩ k past <;> simp
    rw [watchOwners, List.map_append]
    refine List.nodup_append.2 ⟨ih, alone, ?_⟩
    intro o old o' new same
    obtain ⟨g, member, rfl⟩ := List.mem_map.1 old
    obtain ⟨g', member', rfl⟩ := List.mem_map.1 new
    obtain ⟨n, i, rfl, -, seat, first⟩ | ⟨name, probe, ids, band, rfl, setUp⟩ :=
      Move.admits_cases (Option.mem_toList.1 member')
    · -- another menu with the same spy would be the same menu, started before
      cases g with
      | handle => cases same
      | menu n' i' =>
        cases same
        obtain ⟨seat', e, made, starts⟩ := run.menu_of_watchOwners member
        obtain ⟨menu, c, present, contents, rfl⟩ :=
          Stage.spyOf?_eq_some.1 (Stage.documentAndSpy?_eq_some.1 seat).1
        obtain ⟨menu', c', present', contents', twin⟩ :=
          Stage.spyOf?_eq_some.1 (Stage.documentAndSpy?_eq_some.1 seat').1
        have spy : menu.spy? = some c.spy := by rw [Menu.spy?, contents, Option.map_some]
        have spy' : menu'.spy? = some c.spy := by rw [Menu.spy?, contents', Option.map_some, twin]
        obtain rfl := run.unshared n n' c.spy menu menu' present present' spy spy'
        exact (first e made).1 starts
    · cases g with
      | menu => cases same
      | handle name' probe' =>
        cases same
        obtain ⟨e, made, ids', band', setUp'⟩ := handle_of_watchOwners member
        obtain ⟨number, -⟩ := Move.setsUp_iff.1 setUp
        obtain ⟨number', -, label, script, limit, job⟩ := Move.setsUp_iff.1 setUp'
        have earlier := run.length_probes e made _ _ _ _ job
        have number : m.probes.length = probe := number
        omega

theorem Turn.ownersInOrder_watch {name label : String} {ids : List String} {band : Band}
    {script : List Step} {limit : Nat} {all : List Receiver}
    (turn : Turn may m [] (.act (.listen (.watch name ids band) label script limit)) m' jobs')
    (currentExists : m.stage.CurrentExists) (h : OwnersInOrder k all m.stage []) :
    OwnersInOrder k
      (all ++
        ((Move.admits ⟨m, [], .act (.listen (.watch name ids band) label script limit)⟩ k
          past).toList).map
      WatchOwner.receiver) m'.stage (errandsOf jobs') := by
  obtain ⟨stage, errands⟩ := turn.effect_act
  obtain ⟨d, found⟩ : ∃ d, m.stage.documents[m.stage.current]? = some d :=
    ⟨_, List.getElem?_eq_getElem currentExists⟩
  obtain ⟨stage', errands'⟩ := Stage.performListen_watch m.probes.length name ids band found
  have order : (m.stage.owners k).Sublist all := by simpa [spiesToObserve] using h.order
  have none : spiesToObserve (errandsOf jobs') = [] := by
    rw [errands, Stage.perform, errands', errandsOf_nil, List.append_nil, spiesToObserve_append,
      spiesToObserve_handFirst]
    rfl
  refine ⟨?_, fun i member ↦ by simp [none] at member⟩
  rw [none, stage, Stage.perform, stage', Stage.owners_observe found, List.filter_nil, List.map_nil,
    List.append_nil]
  split
  · rename_i here
    have admits :
        Move.admits ⟨m, [], .act (.listen (.watch name ids band) label script limit)⟩ k past =
        some (.handle name m.probes.length) := if_pos here.symm
    rw [admits]
    exact order.append (List.Sublist.refl _)
  · exact order.trans (List.sublist_append_left _ _)

/-- While no listener takes a step, watches are set up in the order in which the guests come. -/
theorem History.ownersInOrder (run : History may past m jobs) (quiet : ∀ e ∈ past, e.atRest)
    (plain : ∀ s step, may s step → (Job.act step).observes = false) (k : Nat) :
    OwnersInOrder k ((watchOwners k past).map WatchOwner.receiver) m.stage (errandsOf jobs) := by
  induction run with
  | opened page =>
    have none : (Machine.opened page).stage.owners k = [] :=
      Stage.owners_openPage (s := { documents := [] }) page k
    refine ⟨?_, fun i member ↦ by cases member⟩
    rw [none]
    exact List.Sublist.refl _
  | @turn past m m' jobs jobs' j run turn ih =>
    obtain ⟨first, calm⟩ := List.forall_mem_cons.1 quiet
    have before := ih calm
    rw [watchOwners, List.map_append]
    by_cases started : ∃ name, j = .act (.menu name .start)
    · obtain ⟨name, rfl⟩ := started
      obtain rfl : jobs = [] := Move.atRest_iff.1 first _ rfl
      obtain ⟨stage, errands⟩ := turn.effect_act
      rw [errands, stage, errandsOf_nil, List.append_nil]
      refine before.start run.owned name fun n i named own isIdleOn ↦ ?_
      obtain ⟨spy, found, document, idle⟩ := Stage.isIdleOn_iff.1 isIdleOn
      have seat := Stage.documentAndSpy?_eq_some.2 ⟨own, spy, found, document⟩
      have admits : Move.admits ⟨m, [], .act (.menu name .start)⟩ k past = some (.menu n i) :=
        (Move.admits_start rfl).2 ⟨n, i, named, seat, run.unvisited own found idle, rfl⟩
      rw [admits]
      rfl
    · by_cases watches : ∃ name ids band label script limit,
          j = .act (.listen (.watch name ids band) label script limit)
      · obtain ⟨name, ids, band, label, script, limit, rfl⟩ := watches
        obtain rfl : jobs = [] := Move.atRest_iff.1 first _ rfl
        exact turn.ownersInOrder_watch run.currentExists before
      · refine OwnersInOrder.mono ?_ (List.sublist_append_left _ _)
        have unwatched : j.watches = false := by
          unfold Job.watches
          split
          · exact absurd ⟨_, _, _, _, _, _, rfl⟩ watches
          · rfl
        have idle : j.starts = false := by
          unfold Job.starts
          split
          · exact absurd ⟨_, rfl⟩ started
          · rfl
        by_cases observes : j.observes
        · obtain ⟨step, rfl, allowed, -⟩ | ⟨t, rest, rfl, pending, stage, errands⟩ | ⟨⟨_, _, rfl⟩,
              -⟩ := turn.effect
          · cases observes.symm.trans (plain _ step allowed)
          · cases t with
            | observe i =>
              rw [stage, errands]
              exact OwnersInOrder.observe (pending ▸ before)
            | _ => cases observes
          · cases observes
        · exact turn.edits_only.keep
            (I := fun s ts ↦ OwnersInOrder k ((watchOwners k past).map WatchOwner.receiver) s ts)
            (fun e h ↦ h.edit e (Bool.not_eq_true _ ▸ observes) unwatched idle) before

theorem History.mem_owners_menu (run : History may past m []) (quiet : ∀ e ∈ past, e.atRest)
    (plain : ∀ s step, may s step → (Job.act step).observes = false)
    (reliable : ∀ s step, may s step → step.isReliable) (member : .menu n i ∈ watchOwners k past) :
    .spy i ∈ m.stage.owners k ↔ lasts past m.stage n := by
  obtain ⟨seat, e, made, starts⟩ := run.menu_of_watchOwners member
  obtain ⟨own, ⟨document, spy⟩, found, rfl⟩ := Stage.documentAndSpy?_eq_some.1 seat
  obtain ⟨menu, c, present, contents, rfl⟩ := Stage.spyOf?_eq_some.1 own
  have tokenMatchesSpy :=
    run.tokenMatchesSpy n menu c _ present contents (Stage.post?_of_found found)
  rw [run.lasts_iff present]
  constructor
  · intro owner
    obtain ⟨token, stands⟩ := Stage.mem_owners.1 owner
    obtain ⟨-, watch | pending⟩ := (Stage.holds_of_found found).1 (run.kept.exact.1 stands)
    · refine Option.isSome_iff_ne_none.2 fun lapsed ↦ ?_
      have unwatched :=
        (run.disposedUnwatched_watches quiet plain c.spy _ (Stage.post?_of_found found)
          (tokenMatchesSpy.2 lapsed)).1
      cases watch.symm.trans unwatched
    · cases pending
  · intro subscribed
    have observing : spy.phase = .observing := by
      cases phase : spy.phase with
      | observing => rfl
      | idle => cases run.observe_of_starts made starts own found phase
      | disposed => simp [tokenMatchesSpy.1 phase] at subscribed
    exact Stage.mem_owners.2
      (Stage.stands_iff.2 (run.watched reliable found (decide_eq_true observing)))

theorem History.mem_later {e' : Move} {later earlier : List Move} {spot : Spot} {label : String}
    {script : List Step} {limit : Nat} (run : History may past m jobs)
    (split : past = later ++ e :: earlier) (job : e.job = .act (.listen spot label script limit))
    (made : e' ∈ past) :
    e' ∈ later ↔ e.machine.probes.length < e'.machine.probes.length := by
  constructor
  · intro after
    obtain ⟨first, between, rfl⟩ := List.append_of_mem after
    rw [List.append_assoc] at split
    exact (run.before split).length_probes e (List.mem_append_right _ (.head _)) spot label
      script limit job
  · intro more
    rw [split] at made
    obtain after | before := List.mem_append.1 made
    · exact after
    · obtain rfl | before := List.mem_cons.1 before
      · omega
      · have fewer := (run.before split).probes_le before
        omega

theorem History.mem_owners_handle {name : String} {probe : Nat} (run : History may past m [])
    (quiet : ∀ e ∈ past, e.atRest) (genuine : ∀ s step, may s step → step.isGenuine)
    (member : .handle name probe ∈ watchOwners k past) :
    .probe probe ∈ m.stage.owners k ↔ (WatchOwner.handle name probe).stays past m.stage := by
  obtain ⟨e, made, ids, band, setUp⟩ := handle_of_watchOwners member
  obtain ⟨later, earlier, split⟩ := List.append_of_mem made
  obtain ⟨rfl, -, label, script, limit, job⟩ := Move.setsUp_iff.1 setUp
  obtain ⟨token, soleWatch⟩ := run.soleWatch genuine quiet split setUp
  rw [Stage.mem_owners, Stage.stands_iff, soleWatch.watched_iff, WatchOwner.stays,
    Bool.not_eq_true', List.any_eq_false]
  simp only [Bool.and_eq_true, decide_eq_true_eq, not_and, not_exists]
  constructor
  · intro kept e' made' after
    exact kept e' ((run.mem_later split job made').2 after)
  · intro kept e' after
    have made' : e' ∈ past := split ▸ List.mem_append_left _ after
    exact kept e' made' ((run.mem_later split job made').1 after)

/-- At rest, the watches on a document are those of the owners that stay, in the order in which they
came. -/
theorem History.owners_eq (run : History may past m []) (quiet : ∀ e ∈ past, e.atRest)
    (plain : ∀ s step, may s step → (Job.act step).observes = false)
    (reliable : ∀ s step, may s step → step.isReliable) (k : Nat) :
    m.stage.owners k =
      ((watchOwners k past).filter (·.stays past m.stage)).map WatchOwner.receiver := by
  have order : (m.stage.owners k).Sublist ((watchOwners k past).map WatchOwner.receiver) := by
    simpa [spiesToObserve] using (run.ownersInOrder quiet plain k).order
  have genuine (s : Stage) (step : Step) (allowed : may s step) : step.isGenuine :=
    Step.isGenuine_of_isReliable (reliable s step allowed)
  refine eq_filter_of_sublist order (run.nodup_watchOwners k) fun g member ↦ ?_
  cases g with
  | menu n i => exact run.mem_owners_menu quiet plain reliable member
  | handle name probe => exact run.mem_owners_handle quiet genuine member

end Runs

/-- A step that has no spy observe without a menu, makes up no batch, lets no observation fail and
takes no menu's subscription away. -/
def Step.isOrdinary (s : Stage) : Step → Bool
  | .page (.emit _) | .page (.failObserve _) | .spy _ .observe => false
  | step => step.sparesMenus s

theorem Step.isReliable_of_isOrdinary {step : Step} (h : step.isOrdinary s) : step.isReliable := by
  unfold isReliable
  split
  · cases h
  · cases h
  · rfl

theorem Step.observes_of_isOrdinary {step : Step} (h : step.isOrdinary s) :
    (Job.act step).observes = false := by
  unfold Job.observes
  split
  · rename_i same
    cases same
    cases h
  · rename_i same
    cases same
  · rfl

theorem Step.sparesMenus_of_isOrdinary {step : Step} (h : step.isOrdinary s) :
    step.sparesMenus s := by
  unfold isOrdinary at h
  split at h
  · cases h
  · cases h
  · cases h
  · exact h

/-- However menus, handles and subscriptions come and go while no listener takes a step, nothing
stays behind, and nobody loses what is theirs: whether a watch or a subscription is there depends on
what became of its own owner alone. -/
theorem no_residue {past : List Move} {m : Machine}
    (run : History (fun s step ↦ step.isOrdinary s) past m [])
    (quiet : ∀ e ∈ past, e.atRest) (k : Nat) :
    (∀ d, m.stage.documents[k]? = some d →
      d.watches.map Watch.owner =
        ((watchOwners k past).filter (·.stays past m.stage)).map WatchOwner.receiver ∧
      (d.watches.map Watch.owner).Nodup) ∧
    ∀ store, m.stage.stores[k]? = some store →
      store.part.listeners.entries = (subscriptions k past).filter (remains k past m.stage) ∧
      store.part.listeners.toList.Nodup := by
  have owners :=
    run.owners_eq quiet (fun _ _ ↦ Step.observes_of_isOrdinary)
      (fun _ _ ↦ Step.isReliable_of_isOrdinary) k
  have roll := (run.mono fun _ _ ↦ Step.sparesMenus_of_isOrdinary).roll_eq k
  refine ⟨fun d found ↦ ?_, fun store found ↦ ?_⟩
  · have watches : m.stage.owners k = d.watches.map Watch.owner := by
      rw [Stage.owners_of_found found]
      simp [Document.registered, Subscribers.toList]
    rw [← watches, owners]
    exact ⟨rfl, (run.nodup_watchOwners k).sublist (List.filter_sublist.map _)⟩
  · rw [Stage.roll_of_found found] at roll
    rw [Subscribers.toList, roll]
    exact ⟨rfl, (run.nodup_subscriptions k).sublist (List.filter_sublist.map _)⟩

def comingAndGoing : List Step :=
  [.store "theme" (.create "theme"),
    .menu "contents" (.create "theme" [⟨"a", "A"⟩, ⟨"b", "B"⟩] 0 ⟨20, 80⟩),
    .menu "bar" (.createBare "theme"),
    .listen (.watch "early" ["a"] ⟨20, 80⟩) "early" [] 3,
    .menu "contents" .start,
    .listen (.store "theme") "first" [] 3,
    .menu "copy" (.share "contents"),
    .menu "contents" .drop,
    .menu "aside" (.create "theme" [⟨"b", "B"⟩] 0 ⟨20, 80⟩),
    .menu "aside" .start,
    .listen (.watch "late" ["b"] ⟨20, 80⟩) "late" [] 3,
    .listen (.store "theme") "second" [] 3,
    .menu "bar" .dispose,
    .handle "early" .disconnect,
    .handle "early" .drop,
    .store "theme" (.unsubscribe 2),
    .menu "aside" .start,
    .menu "copy" .drop]

theorem no_residue_comingAndGoing :
    ∃ m past d store, Machine.journal? 50 comingAndGoing (.opened twoSections) [] = some (m, past) ∧
      (∀ e ∈ past, e.atRest) ∧ m.stage.documents[0]? = some d ∧ m.stage.stores[0]? = some store ∧
      d.watches.map Watch.owner = [.spy 1, .probe 2] ∧
      store.part.listeners.entries = [(3, .menu 2), (4, .probe 3)] := by
  have checked : ∃ r ∈ Machine.journal? 50 comingAndGoing (.opened twoSections) [],
      (∀ e ∈ r.2, Allows (fun s step ↦ step.isOrdinary s) e.machine.stage e.job ∧ e.atRest) ∧
      r.1.stage.documents[0]?.isSome ∧ r.1.stage.stores[0]?.isSome ∧
      ((watchOwners 0 r.2).filter (·.stays r.2 r.1.stage)).map WatchOwner.receiver =
        [.spy 1, .probe 2] ∧
      (subscriptions 0 r.2).filter (remains 0 r.2 r.1.stage) = [(3, .menu 2), (4, .probe 3)] := by
    decide +kernel
  obtain ⟨⟨m, past⟩, kept, moves, document, preference, watching, listening⟩ := checked
  obtain ⟨d, found⟩ := Option.isSome_iff_exists.1 document
  obtain ⟨store, present⟩ := Option.isSome_iff_exists.1 preference
  have run := (History.opened twoSections).journal kept fun e h ↦ (moves e h).1
  obtain ⟨watches, subscribers⟩ := no_residue run (fun e h ↦ (moves e h).2) 0
  exact ⟨m, past, d, store, kept, fun e h ↦ (moves e h).2, found, present,
    (watches d found).1.trans watching, (subscribers store present).1.trans listening⟩

end Wayfinder.Session
