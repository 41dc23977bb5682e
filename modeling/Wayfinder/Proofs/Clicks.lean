import Wayfinder.Proofs.Commands
import Wayfinder.Proofs.Handover
import Wayfinder.Proofs.LengthArithmetic
import Wayfinder.Proofs.Preferences

namespace Wayfinder.Session

def MenuOp.isClick : MenuOp → Bool
  | .select _ | .toggle | .close | .toggleTheme | .dispose => true
  | _ => false

/-- What a reader does to a menu, and the end of an observation. -/
def Step.isClick : Step → Bool
  | .menu _ op => op.isClick
  | .spy _ .dispose => true
  | _ => false

namespace Stage

variable (s : Stage) (k : Nat) (d : Document Receiver)

def asks? : Step → Option Length
  | .menu name (.select id) => ((s.menu? name).bind s.scroller?).bind fun r ↦
      if r.document = k then (d.page.anchorTop? id).map (Scroller.offset · r.part.headerOffset)
      else none
  | _ => none

def toggles? : Step → Option (Preference Hearer)
  | .menu name .toggleTheme => ((s.menu? name).bind fun m ↦ s.stores[m.store]?).bind fun p ↦
      if p.document = k then some p.part else none
  | _ => none

def disposes? : Step → Option Nat
  | .menu name .dispose => ((s.menu? name).bind Menu.contents).map Contents.spy
  | .spy name .dispose => s.names.spies.get? name
  | _ => none

/-- What a click makes of document `k`, which is `d`. -/
def clicked (step : Step) : Document Receiver :=
  { d with
    requests := d.requests ++ ((s.asks? k d step).map (·, true)).toList
    target := ((s.asks? k d step).map d.page.clampScroll).or d.target
    storage := (s.toggles? k step).elim d.storage fun p ↦
      if d.canWrite s.faults then d.storage.put p.key p.theme.toggled.name else d.storage
    applied := ((s.toggles? k step).map fun p ↦ p.theme.toggled).or d.applied
    watches := d.watches.filter fun w ↦ (s.disposes? step).all (w.owner ≠ .spy ·) }

end Stage

/-- At some point of the step a batch is to be handed over. -/
def Machine.Delivers (m : Machine) (step : Step) : Prop :=
  ∃ n receiver batch,
    .errand (.hand receiver batch) ∈
      (Machine.after n (m.take step) ((m.reply step).errands.map .errand)).2

variable {s s' : Stage} {ts : List Errand} {k n : Nat} {d : Document Receiver} {step : Step}

theorem upon_of_spares {t : Errand} (spares : t.sparesSpies) (n : Nat) (spy : Spy Hearer) :
    t.upon n spy = spy := by
  cases t with
  | hand | keepWatch => cases spares
  | _ => rfl

theorem Carries.outline? (carries : Carries ts s s') (spares : ∀ t ∈ ts, t.sparesSpies) (n : Nat) :
    s'.outline? n = s.outline? n := by
  have idle (spy : Spy Hearer) : ts.foldl (Errand.upon n) spy = spy :=
    foldl_upon (fun t member ↦ upon_of_spares (spares t member)) n spy
  rw [Stage.outline?, carries.spies, Option.map_map, Stage.outline?]
  congr 1
  funext m
  simp only [Function.comp_apply, Mounted.carried, idle]

/-- Listeners that take no steps leave only errands that move no spy, as long as there are no others
to begin with. -/
theorem Machine.Inert.spares_after {m : Machine} (inert : m.Inert)
    (spares : ∀ t ∈ ts, t.sparesSpies) (n : Nat) :
    ∃ ts' : List Errand, (Machine.after n m (ts.map .errand)).2 = ts'.map .errand ∧
      ∀ t ∈ ts', t.sparesSpies := by
  induction n generalizing m ts with
  | zero => exact ⟨ts, rfl, spares⟩
  | succ n ih =>
    cases ts with
    | nil => exact ⟨[], rfl, spares⟩
    | cons t ts =>
      obtain ⟨-, follow, inert⟩ := inert.advance t
      rw [List.map_cons, Machine.after, follow, ← List.map_append]
      apply ih inert
      intro t' member
      obtain member | member := List.mem_append.1 member
      · exact Stage.spares_carry m.stage (spares t (.head _)) t' member
      · exact spares t' (.tail _ member)

namespace Kept

/-- A page holds the watch of a spy just if the spy knows of it. -/
theorem owner_iff {w : Watch Receiver} (kept : Kept s ts) (found : s.documents[k]? = some d)
    (member : w ∈ d.watches) :
    w.owner = .spy n ↔ s.Holds ts k w.token n := by
  have entry : (w.token, w.owner) ∈ d.registered.entries := List.mem_map_of_mem member
  have register := Stage.register?_of_found found
  rw [← kept.exact]
  constructor
  · intro owner
    rw [owner] at entry
    exact ⟨d.registered, register, entry⟩
  · rintro ⟨r, register', entry'⟩
    obtain rfl := Option.some.inj (register.symm.trans register')
    exact (kept.sound register).eq_of_token entry entry'

theorem filter_of_not_holds (kept : Kept s ts) (none : ∀ t, ¬ s.Holds ts k t n) : s.documents[k]? =
    s.documents[k]?.map fun d ↦ { d with watches := d.watches.filter (·.owner ≠ .spy n) } := by
  cases found : s.documents[k]? with
  | none => rfl
  | some d =>
    have all : d.watches.filter (·.owner ≠ .spy n) = d.watches := by
      rw [List.filter_eq_self]
      intro w member
      exact decide_eq_true fun owner ↦ none w.token ((kept.owner_iff found member).1 owner)
    rw [Option.map_some, all]

/-- Releasing the watch that a spy knows of takes all its watches from the page. -/
theorem release_eq {m : Mounted (Spy Hearer)} {t : Nat} (kept : Kept s [])
    (spy : s.spies[n]? = some m) (watch : m.part.watch = some t)
    (found : s.documents[m.document]? = some d) :
    d.release t = { d with watches := d.watches.filter (·.owner ≠ .spy n) } := by
  have own : d.watches.filter (·.token ≠ t) = d.watches.filter (·.owner ≠ .spy n) := by
    refine List.filter_congr fun w member ↦ ?_
    have known := kept.owner_iff (n := n) found member
    rw [Stage.holds_of_found spy, watch] at known
    simp [known, eq_comm]
  rw [Document.release, own]

end Kept

namespace Stage

/-- A spy that is disposed takes its own watch from its page, and nothing else from any page. -/
theorem getElem?_disposeSpy (kept : Kept s []) (n k : Nat) : (s.disposeSpy n).documents[k]? =
    s.documents[k]?.map fun d ↦ { d with watches := d.watches.filter (·.owner ≠ .spy n) } := by
  cases found : s.spies[n]? with
  | none =>
    rw [disposeSpy, found]
    apply kept.filter_of_not_holds
    rintro t ⟨p, post, -⟩
    simp [post?, found] at post
  | some m =>
    rw [disposeSpy_eq found]
    cases watch : m.part.watch with
    | none =>
      apply kept.filter_of_not_holds
      simp [holds_of_found found, watch]
    | some t =>
      have released :
          ((s.setSpy n m.part.dispose).disconnect (some ⟨m.document, t⟩)).documents[k]? =
          (s.documents.modify m.document (·.release t))[k]? := rfl
      rw [Option.map_some, released]
      by_cases here : m.document = k
      · subst k
        rw [List.getElem?_modify_eq]
        cases document : s.documents[m.document]? with
        | none => rfl
        | some d => exact congrArg some (kept.release_eq found watch document)
      · rw [List.getElem?_modify_ne _ _ here]
        apply kept.filter_of_not_holds
        simp [holds_of_found found, here]

theorem documents_unsubscribeStore {token : Nat} :
    (s.unsubscribeStore n token).documents = s.documents := by
  unfold unsubscribeStore
  split <;> rfl

theorem documents_releaseMenu {menu : Menu} (found : s.menus[n]? = some menu) :
    (s.releaseMenu n).documents = (s.unobserve menu).documents := by
  rw [releaseMenu_eq found]
  cases menu.themeToken with
  | none => rfl
  | some token => exact documents_unsubscribeStore

theorem clicked_eq_self (unasked : s.asks? k d step = none) (untoggled : s.toggles? k step = none)
    (undisposed : s.disposes? step = none) : s.clicked k d step = d := by
  simp [clicked, unasked, untoggled, undisposed]

/-- Documents that nothing is asked of stay as they are. -/
theorem getElem?_of_idle (documents : s'.documents = s.documents)
    (unasked : ∀ d, s.asks? k d step = none) (untoggled : s.toggles? k step = none)
    (undisposed : s.disposes? step = none) :
    s'.documents[k]? = s.documents[k]?.map (s.clicked k · step) := by
  have same (d : Document Receiver) : s.clicked k d step = d :=
    clicked_eq_self (unasked d) untoggled undisposed
  simp only [documents, same, Option.map_id']

theorem getElem?_of_disposes (kept : Kept s []) (unasked : ∀ d, s.asks? k d step = none)
    (untoggled : s.toggles? k step = none) (disposes : s.disposes? step = some n) :
    (s.disposeSpy n).documents[k]? = s.documents[k]?.map (s.clicked k · step) := by
  rw [getElem?_disposeSpy kept]
  congr 1
  funext d
  simp [clicked, unasked, untoggled, disposes]

end Stage

structure Unmoved (s : Stage) (p : Progress) : Prop where
  names : p.stage.names = s.names
  outlines : ∀ n, p.stage.outline? n = s.outline? n
  menus : ∀ i : Nat,
    p.stage.menus[i]?.map (fun m ↦ (m.contents, m.alive)) = s.menus[i]?.map fun m ↦
      (m.contents, m.alive)
  spares : ∀ t ∈ p.errands, t.sparesSpies
  light : ∀ t ∈ p.errands, s.isLight t

namespace Unmoved

theorem nothing : Unmoved s { stage := s } := ⟨rfl, fun _ ↦ rfl, fun _ ↦ rfl, by simp, by simp⟩

theorem setOpen (i : Nat) (isOpen : Bool) : Unmoved s (s.setOpen i isOpen) where
  names := Stage.names_setOpen
  outlines _ := by
    unfold Stage.setOpen
    split <;> rfl
  menus j := by
    unfold Stage.setOpen
    split
    · rfl
    · rename_i m found
      rw [Stage.getElem?_setMenu found]
      split
      · subst j
        rw [found]
        rfl
      · rfl
  spares := s.spares_setOpen i isOpen
  light := by
    unfold Stage.setOpen
    split
    · simp
    · dsimp only
      split <;> simp [Stage.isLight]

theorem selectSection (i : Nat) (m : Menu) (id : String) : Unmoved s (s.selectSection i m id) := by
  obtain ⟨documents, stage, errands⟩ := s.selectSection_cases i m id
  have closed : Unmoved { s with documents } (Stage.setOpen { s with documents } i false) :=
    setOpen i false
  obtain ⟨names, outlines, menus, spares, light⟩ := closed
  rw [← stage] at names outlines menus
  rw [← errands] at spares light
  exact ⟨names, outlines, menus, spares, light⟩

theorem toggleStore (i : Nat) : Unmoved s (s.toggleStore i) where
  names := Stage.names_changeStore
  outlines _ := by
    unfold Stage.toggleStore Stage.changeStore
    split
    · rfl
    · split <;> rfl
  menus _ := by
    unfold Stage.toggleStore Stage.changeStore
    split
    · rfl
    · split <;> rfl
  spares := s.spares_toggleStore i
  light := by
    unfold Stage.toggleStore Stage.changeStore
    split
    · simp
    · split
      · simp
      · exact Stage.isLight_tellAll

theorem disposeSpy (i : Nat) : Unmoved s { stage := s.disposeSpy i } where
  names := Stage.names_disposeSpy
  outlines := Stage.outline?_disposeSpy i
  menus _ := by rw [Stage.menus_disposeSpy]
  spares := by simp
  light := by simp

theorem releaseMenu (i : Nat) : Unmoved s { stage := s.releaseMenu i } where
  names := Stage.names_releaseMenu
  outlines := Stage.outline?_releaseMenu i
  menus j := by
    rw [Stage.getElem?_releaseMenu, Option.map_map]
    congr 1
    funext m
    simp only [Function.comp_apply]
    split <;> rfl
  spares := by simp
  light := by simp

/-- The menu that is held goes by a name, so letting go of it changes nothing. -/
theorem holding {i : Nat} {op : Stage → Progress} {outcome : Outcome} (named : s.isNamed (.menu i))
    (h : ∀ s', Unmoved s' (op s')) :
    Unmoved s ((s.holding (.menu i) op).reply outcome).toProgress where
  names := (h (s.hold (.menu i))).names
  outlines := (h (s.hold (.menu i))).outlines
  menus := (h (s.hold (.menu i))).menus
  spares := List.forall_mem_append.2 ⟨(h (s.hold (.menu i))).spares, by simp [Errand.sparesSpies]⟩
  light :=
    List.forall_mem_append.2 ⟨(h (s.hold (.menu i))).light, by simpa [Stage.isLight] using named⟩

theorem onMenu {name : String} {f : Nat → Menu → Reply}
    (each : ∀ i m, s.isNamed (.menu i) → Unmoved s (f i m).toProgress) :
    Unmoved s (s.onMenu name f).toProgress := by
  unfold Stage.onMenu
  split
  · exact nothing
  · rename_i i named
    split
    · exact each i _ (Stage.isNamed_of_get? named)
    · exact nothing

theorem performMenu {name : String} {op : MenuOp} (click : op.isClick) :
    Unmoved s (s.performMenu name op).toProgress := by
  cases op with
  | select id => exact onMenu fun i m named ↦ holding named fun _ ↦ selectSection i m id
  | toggle => exact onMenu fun i m named ↦ holding named fun _ ↦ setOpen i _
  | close => exact onMenu fun i m named ↦ holding named fun _ ↦ setOpen i false
  | toggleTheme => exact onMenu fun i m named ↦ holding named fun _ ↦ toggleStore m.store
  | dispose => exact onMenu fun i m named ↦ releaseMenu i
  | _ => cases click

theorem perform (click : step.isClick) (probe : Nat) :
    Unmoved s (s.perform probe step).toProgress := by
  cases step with
  | menu name op => exact performMenu click
  | spy name op =>
    cases op with
    | dispose =>
      simp only [Stage.perform, Stage.performSpy, Stage.onSpy]
      split
      · exact nothing
      · split
        · exact disposeSpy _
        · exact nothing
    | _ => cases click
  | _ => cases click

end Unmoved

namespace Stage

theorem steered_select {name id : String} :
    s.steered k (.act (.menu name (.select id))) d = s.clicked k d (.menu name (.select id)) := by
  have still : s.frames k (.act (.menu name (.select id))) = false := rfl
  simp only [steered, still, tells?, reveals?, clicked, asks?, toggles?, disposes?]
  cases (s.menu? name).bind s.scroller? with
  | none => simp
  | some r =>
    by_cases here : r.document = k
    · cases anchor : d.page.anchorTop? id with
      | none => simp [here, anchor]
      | some top => simp [here, anchor, Document.obey, Document.scrollTo]
    · simp [here]

section Called

variable {name : String} {menu : Menu} (called : s.menu? name = some menu)
include called

theorem getElem?_toggleTheme (probe k : Nat) :
    (s.perform probe (.menu name .toggleTheme)).stage.documents[k]? =
    s.documents[k]?.map (s.clicked k · (.menu name .toggleTheme)) := by
  have used : s.use? (.act (.menu name .toggleTheme)) = some (menu.store, .toggle) := by
    rw [use?, called]
    rfl
  rw [(perform_use probe used).2.1]
  cases stored : s.stores[menu.store]? with
  | none =>
    rw [changeStore_of_absent stored]
    exact getElem?_of_idle rfl (fun _ ↦ rfl) (by simp [toggles?, called, stored]) rfl
  | some p =>
    have step (d : Document Receiver) : s.clicked k d (.menu name .toggleTheme) =
        if p.document = k then (p.part.toggle d s.faults).document else d := by
      by_cases here : p.document = k
      · rw [if_pos here, Preference.document_toggle]
        cases works : d.canWrite s.faults <;>
          simp [clicked, asks?, toggles?, disposes?, called, stored, here, works,
            Document.applyTheme]
      · rw [if_neg here]
        exact clicked_eq_self rfl (by simp [toggles?, called, stored, here]) rfl
    simp only [step]
    apply getElem?_changed (f := fun d ↦ (p.part.toggle d s.faults).document)
    · intro d document
      rw [changeStore_of_found stored document]
      rfl
    · intro absent
      simp only [changeStore, stored, absent]

theorem getElem?_dispose (kept : Kept s []) (k : Nat) :
    (s.performMenu name .dispose).stage.documents[k]? =
    s.documents[k]?.map (s.clicked k · (.menu name .dispose)) := by
  obtain ⟨i, named, found⟩ := Option.bind_eq_some_iff.1 called
  have released : (s.performMenu name .dispose).stage = s.releaseMenu i := by
    simp only [performMenu, onMenu, named, found]
  rw [released, documents_releaseMenu found, unobserve]
  cases contents : menu.contents with
  | none =>
    exact getElem?_of_idle rfl (fun _ ↦ rfl) rfl (by simp [disposes?, called, contents])
  | some c =>
    exact getElem?_of_disposes kept (fun _ ↦ rfl) rfl (by simp [disposes?, called, contents])

end Called

/-- A name that no menu goes by does nothing. -/
theorem getElem?_uncalled {name : String} {op : MenuOp} {f : Nat → Menu → Reply}
    (uncalled : s.menu? name = none) (k : Nat) :
    (s.onMenu name f).stage.documents[k]? =
      s.documents[k]?.map (s.clicked k · (.menu name op)) := by
  have refused : s.onMenu name f = s.badRequest := by
    unfold onMenu
    split
    · rfl
    · rename_i i named
      rw [menu?, named, Option.bind_some] at uncalled
      rw [uncalled]
  rw [refused]
  refine getElem?_of_idle rfl (fun d ↦ ?_) ?_ ?_
  all_goals cases op <;> simp [asks?, toggles?, disposes?, uncalled]

/-- A menu that is opened or closed leaves its page as it is. -/
theorem documents_panel {name : String} {isOpen : Menu → Bool} {outcome : Outcome} :
    (s.onMenu name fun i m ↦
      (s.holding (.menu i) (·.setOpen i (isOpen m))).reply outcome).stage.documents =
      s.documents := by
  unfold onMenu
  split
  · rfl
  · split
    · exact documents_setOpen _ _ _
    · rfl

theorem getElem?_performSpy (kept : Kept s []) {name : String} (k : Nat) :
    (s.performSpy name .dispose).stage.documents[k]? =
      s.documents[k]?.map (s.clicked k · (.spy name .dispose)) := by
  cases named : s.names.spies.get? name with
  | none =>
    simp only [performSpy, onSpy, named]
    exact getElem?_of_idle rfl (fun _ ↦ rfl) rfl named
  | some n =>
    have disposed : (s.performSpy name .dispose).stage = s.disposeSpy n := by
      simp only [performSpy, onSpy, named]
      cases found : s.spies[n]? <;> simp [disposeSpy, found, badRequest]
    rw [disposed]
    exact getElem?_of_disposes kept (fun _ ↦ rfl) rfl named

/-- Up to the errands that it leaves, a click makes of each document what it should. -/
theorem getElem?_perform (kept : Kept s []) (click : step.isClick) (probe k : Nat) :
    (s.perform probe step).stage.documents[k]? = s.documents[k]?.map (s.clicked k · step) := by
  cases step with
  | menu name op =>
    cases op with
    | select id =>
      rw [perform, documents_select]
      simp only [← steered_select]
      exact steered_of_reveals rfl rfl fun d ↦ rfl
    | toggle | close => exact getElem?_of_idle documents_panel (fun _ ↦ rfl) rfl rfl
    | toggleTheme =>
      cases called : s.menu? name with
      | none => exact getElem?_uncalled called k
      | some menu => exact getElem?_toggleTheme called probe k
    | dispose =>
      cases called : s.menu? name with
      | none => exact getElem?_uncalled called k
      | some menu => exact getElem?_dispose called kept k
    | _ => cases click
  | spy name op =>
    cases op with
    | dispose => exact getElem?_performSpy kept k
    | _ => cases click
  | _ => cases click

end Stage

/-- What menus highlight depends on what they go over and on where its spies are. -/
theorem Stage.map_snapshot_active {i : Nat}
    (contents : s'.menus[i]?.map Menu.contents = s.menus[i]?.map Menu.contents)
    (outlines : ∀ n, s'.outline? n = s.outline? n) :
    s'.menus[i]?.map (fun menu ↦ (s'.snapshot menu).active) =
      s.menus[i]?.map fun menu ↦ (s.snapshot menu).active := by
  have active (s : Stage) (c : Contents) : s.active? c = (s.outline? c.spy).map Prod.snd := by
    simp [active?, outline?, Function.comp_def]
  have same : s'.active? = s.active? := by
    funext c
    rw [active, active, outlines]
  have shown :=
    congrArg (Option.map fun contents : Option Contents ↦ contents.bind s.active?) contents
  rw [Option.map_map, Option.map_map] at shown
  simp only [Stage.snapshot, same]
  exact shown

theorem Unmoved.menusNamed {p : Progress} (h : Unmoved s p) (menusNamed : s.MenusNamed) :
    p.stage.MenusNamed := by
  intro i m found alive
  have same := h.menus i
  rw [found, Option.map_some] at same
  obtain ⟨old, found', same⟩ := Option.map_eq_some_iff.1 same.symm
  rw [Stage.isNamed_congr h.names]
  apply menusNamed i old found'
  rw [(Prod.mk.inj same).2, alive]

theorem Kept.countP_le_one (kept : Kept s ts) (found : s.documents[k]? = some d) (n : Nat) :
    d.watches.countP (fun w ↦ w.owner = .spy n) ≤ 1 := by
  have single := kept.count_owners_le found n
  rw [List.count, List.countP_map] at single
  exact single

theorem Stage.asks?_bounds {y : Length} (asked : s.asks? k d step = some y) :
    0 ≤ y ∧ y.isNaN = false := by
  have offset : ∃ top header, Scroller.offset top header = y := by
    unfold asks? at asked
    split at asked
    · obtain ⟨r, -, asked⟩ := Option.bind_eq_some_iff.1 asked
      split at asked
      · obtain ⟨top, -, same⟩ := Option.map_eq_some_iff.1 asked
        exact ⟨top, _, same⟩
      · cases asked
    · cases asked
  obtain ⟨top, header, rfl⟩ := offset
  have bound : 0 ≤ Scroller.offset top header := Length.zero_le_nonneg (top - header)
  exact ⟨bound, (Length.number_of_le bound).2⟩

theorem Stage.saved_clicked {key : String} (other : ∀ p, s.toggles? k step = some p → p.key ≠ key) :
    (s.clicked k d step).storage.get? key = d.storage.get? key := by
  simp only [clicked]
  cases toggles : s.toggles? k step with
  | none => rfl
  | some p =>
    rw [Option.elim_some]
    split
    · exact (Table.get?_insert ..).trans (if_neg (other p toggles).symm)
    · rfl

/-- At rest, with listeners that take no steps, a click leaves every highlight and every offset as
it is and hands over no batch. It asks a page for one smooth scroll at most, to a place that there
is; it stores a theme under the key of the preference that is toggled and nowhere else; and it ends
at most one watch, that of the spy that is disposed. -/
theorem frame_of_click {may : Stage → Step → Prop} {past : List Move} {m : Machine}
    (run : History may past m []) (inert : m.Inert) (click : step.isClick) :
    (∀ n : Nat, (m.step step).stage.spies[n]?.map (fun spy ↦ spy.part.active) =
      m.stage.spies[n]?.map fun spy ↦ spy.part.active) ∧
    (∀ i : Nat, (m.step step).stage.menus[i]?.map
      (fun menu ↦ ((m.step step).stage.snapshot menu).active) =
      m.stage.menus[i]?.map fun menu ↦ (m.stage.snapshot menu).active) ∧
    ¬ m.Delivers step ∧
    (m.step step).stage.documents.map Document.scrollY = m.stage.documents.map Document.scrollY ∧
    (m.step step).stage.documents = m.stage.documents.mapIdx (fun k d ↦ m.stage.clicked k d step) ∧
    (∀ k d y, m.stage.asks? k d step = some y → 0 ≤ y ∧ y.isNaN = false) ∧
    (∀ k d key, (∀ p, m.stage.toggles? k step = some p → p.key ≠ key) →
      (m.stage.clicked k d step).storage.get? key = d.storage.get? key) ∧
    ∀ (k : Nat) (d : Document Receiver) (n : Nat), m.stage.documents[k]? = some d →
      m.stage.disposes? step = some n →
      d.watches.countP (fun w ↦ w.owner = .spy n) ≤ 1 := by
  have kept : Kept m.stage [] := run.kept
  have unmoved : Unmoved m.stage (m.reply step).toProgress := .perform click m.probes.length
  have quiet : (m.take step).Inert := by
    apply inert.take
    cases step with
    | listen => cases click
    | _ => rfl
  have light : ∀ t ∈ (m.reply step).errands, (m.take step).stage.isLight t := by
    intro t member
    exact (Stage.isLight_congr unmoved.names t).trans (unmoved.light t member)
  obtain ⟨carries, -, -⟩ := quiet.carries (unmoved.menusNamed run.menusNamed) light
  have outlines (n : Nat) : (m.step step).stage.outline? n = m.stage.outline? n :=
    (carries.outline? unmoved.spares n).trans (unmoved.outlines n)
  have contents (i : Nat) :
      (m.step step).stage.menus[i]?.map Menu.contents = m.stage.menus[i]?.map Menu.contents := by
    have same := congrArg (Option.map Prod.fst) (unmoved.menus i)
    rw [Option.map_map, Option.map_map] at same
    exact (carries.contents i).trans same
  have documents :
      (m.step step).stage.documents =
        m.stage.documents.mapIdx (fun k d ↦ m.stage.clicked k d step) := by
    refine carries.documents.trans (List.ext_getElem? fun k ↦ ?_)
    rw [List.getElem?_mapIdx]
    exact Stage.getElem?_perform kept click m.probes.length k
  refine ⟨fun n ↦ ?_, fun i ↦ Stage.map_snapshot_active (contents i) outlines, ?_, ?_, documents,
    fun _ _ _ ↦ Stage.asks?_bounds, fun _ _ _ ↦ Stage.saved_clicked,
      fun _ _ n found _ ↦ kept.countP_le_one found n⟩
  · have same := congrArg (Option.map Prod.snd) (outlines n)
    rwa [Stage.outline?, Stage.outline?, Option.map_map, Option.map_map] at same
  · rintro ⟨n, receiver, batch, member⟩
    obtain ⟨ts, agenda, spares⟩ := quiet.spares_after unmoved.spares n
    rw [agenda] at member
    obtain ⟨t, member, same⟩ := List.mem_map.1 member
    cases same
    cases spares _ member
  · apply List.ext_getElem?
    intro k
    rw [documents, List.getElem?_map, List.getElem?_mapIdx, Option.map_map, List.getElem?_map]
    rfl

def twoReaders : List Step :=
  [.store "theme" (.create "theme"),
    .menu "contents" (.create "theme" [⟨"a", "A"⟩, ⟨"b", "B"⟩] 300 ⟨20, 80⟩),
    .menu "index" (.create "theme" [⟨"b", "B"⟩, ⟨"a", "A"⟩] 0 ⟨20, 80⟩),
    .listen (.menu "index") "reader" [] 9,
    .menu "contents" .start,
    .menu "index" .start,
    .page (.userScroll 100)]

theorem frame_of_click_twoReaders :
    ∃ m past, Machine.journal? 50 twoReaders (.opened twoSections) [] = some (m, past) ∧ m.Inert ∧
      Step.isClick (.menu "contents" (.select "a")) ∧
      (∀ i ∈ [0, 1], (m.step (.menu "contents" (.select "a"))).stage.menus[i]?.map (fun menu ↦
        ((m.step (.menu "contents" (.select "a"))).stage.snapshot menu).active) = some (some "b")) ∧
      (m.step (.menu "contents" (.select "a"))).stage.documents.map
        (fun d ↦ (d.scrollY, d.requests, d.target)) =
        [(100, [(0, true)], some 0)] := by
  have checked : ∃ r ∈ Machine.journal? 50 twoReaders (.opened twoSections) [],
      (∀ p ∈ r.1.probes, p.left = 0 ∨ p.script = []) ∧
      (∀ i ∈ [0, 1], r.1.stage.menus[i]?.map (fun menu ↦ (r.1.stage.snapshot menu).active) =
        some (some "b")) ∧
      (r.1.stage.documents.mapIdx fun k d ↦
        r.1.stage.clicked k d (.menu "contents" (.select "a"))).map
        (fun d ↦ (d.scrollY, d.requests, d.target)) = [(100, [(0, true)], some 0)] := by
    decide +kernel
  obtain ⟨⟨m, past⟩, kept, inert, highlights, asked⟩ := checked
  have run : History (fun _ _ ↦ True) past m [] :=
    (History.opened twoSections).journal kept fun e _ ↦ by cases e.job <;> trivial
  have click : Step.isClick (.menu "contents" (.select "a")) := rfl
  obtain ⟨-, menus, -, -, documents, -⟩ := frame_of_click run inert click
  refine ⟨m, past, kept, inert, click, fun i member ↦ (menus i).trans (highlights i member), ?_⟩
  rw [documents]
  exact asked

end Wayfinder.Session
