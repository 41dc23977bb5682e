import Wayfinder.Proofs.Course

namespace Wayfinder

namespace Document

variable {ω : Type} {d : Document ω} {faults : Faults}

def canRead (d : Document ω) (faults : Faults) : Bool := faults.read.isNone && !d.storage.disabled

def canWrite (d : Document ω) (faults : Faults) : Bool := faults.write.isNone && !d.storage.disabled

theorem readSaved_of_canRead (works : d.canRead faults) (key : String) :
    d.readSaved faults key = .ok (d.storage.get? key) := by
  obtain ⟨unfailing, enabled⟩ : faults.read = none ∧ d.storage.disabled = false := by
    simpa [canRead] using works
  rw [readSaved, unfailing]
  simp only [Storage.read, enabled, Bool.false_eq_true, if_false]

theorem writeSaved_of_canWrite (works : d.canWrite faults) (key value : String) :
    d.writeSaved faults key value = .ok { d with storage := d.storage.put key value } := by
  obtain ⟨unfailing, enabled⟩ : faults.write = none ∧ d.storage.disabled = false := by
    simpa [canWrite] using works
  rw [writeSaved, unfailing]
  simp only [Storage.write, enabled, Bool.false_eq_true, if_false]
  rfl

theorem writeSaved_of_not_canWrite (fails : d.canWrite faults = false) (key value : String) :
    ∃ e, d.writeSaved faults key value = .error e := by
  unfold writeSaved
  cases h : faults.write with
  | some reason => exact ⟨_, rfl⟩
  | none =>
    have disabled : d.storage.disabled = true := by simpa [canWrite, h] using fails
    simp only [Storage.write, disabled, if_true]
    exact ⟨_, rfl⟩

end Document

namespace Preference

variable {σ ω : Type} (p : Preference σ) (d : Document ω) (faults : Faults)

/-- The theme to start with: what is stored, else what the system prefers, else light. -/
def resolve : Theme := (choice? (d.readSaved faults p.key)).getD (d.scheme.getD .light)

variable {p}

theorem load_of_loaded (loaded : p.loaded) : p.load d faults =
    { preference := p, document := d } := by
  rw [load, if_pos loaded]

theorem load_of_not_loaded (first : p.loaded = false) :
    (p.load d faults).preference = { p with theme := p.resolve d faults, loaded := true } ∧
      (p.load d faults).document = d.applyTheme (p.resolve d faults) := by
  simp only [load, resolve, first, Bool.false_eq_true, if_false]
  cases choice? (d.readSaved faults p.key) <;> exact ⟨rfl, rfl⟩

theorem told_load (first : p.loaded = false) :
    (p.load d faults).told = if p.theme = p.resolve d faults then [] else p.listeners.toList := by
  simp only [load, first, Bool.false_eq_true, if_false]
  cases chosen : choice? (d.readSaved faults p.key) <;>
    simp only [adopt, resolve, chosen, Option.getD]

variable (p)

theorem preference_toggle : (p.toggle d faults).preference =
    { p with theme := p.theme.toggled } := by
  unfold toggle
  dsimp only
  split <;> rfl

theorem told_toggle : (p.toggle d faults).told = p.listeners.toList := by
  have changes : p.theme ≠ p.theme.toggled := p.theme.toggled_ne.symm
  unfold toggle
  dsimp only
  split <;> exact if_neg changes

theorem document_toggle : (p.toggle d faults).document =
    (if d.canWrite faults then { d with storage := d.storage.put p.key p.theme.toggled.name }
      else d).applyTheme
      p.theme.toggled := by
  unfold toggle
  dsimp only
  cases works : d.canWrite faults with
  | true =>
    rw [Document.writeSaved_of_canWrite works]
    rfl
  | false =>
    obtain ⟨e, failed⟩ := Document.writeSaved_of_not_canWrite works p.key p.theme.toggled.name
    rw [failed]
    rfl

theorem resolve_of_saved {t : Theme} (works : d.canRead faults)
    (saved : d.storage.get? p.key = some t.name) :
    p.resolve d faults = t := by
  have named : t.name ≠ "" := by cases t <;> decide
  rw [resolve, Document.readSaved_of_canRead works, saved, choice?, if_neg named,
    Theme.ofStored_name, Option.getD_some]

end Preference

theorem Blueprint.applied_build {ω : Type} (page : Blueprint) :
    (page.build : Document ω).applied = none := by
  have furnished (d : Document ω) (plain : d.applied = none) :
      (page.furnishings.foldl furnish d).applied = none := by
    induction page.furnishings generalizing d with
    | nil => exact plain
    | cons f fs ih => exact ih _ (by cases f <;> exact plain)
  exact furnished _ rfl

namespace Session

def Use.change {σ ω : Type} : Use → Preference σ → Document ω → Faults → Preference.Change σ ω
  | .load => Preference.load
  | .toggle => Preference.toggle

def Use.op : Use → StoreOp
  | .load => .load
  | .toggle => .toggle

structure SameExceptSubscribers (m m' : Mounted (Preference Hearer)) : Prop where
  document : m'.document = m.document
  key : m'.part.key = m.part.key
  theme : m'.part.theme = m.part.theme
  loaded : m'.part.loaded = m.part.loaded

theorem SameExceptSubscribers.refl (m : Mounted (Preference Hearer)) : SameExceptSubscribers m m :=
  ⟨rfl, rfl, rfl, rfl⟩

theorem SameExceptSubscribers.trans {m m' m'' : Mounted (Preference Hearer)}
    (h : SameExceptSubscribers m m') (h' : SameExceptSubscribers m' m'') :
    SameExceptSubscribers m m'' :=
  ⟨h'.document.trans h.document, h'.key.trans h.key, h'.theme.trans h.theme,
    h'.loaded.trans h.loaded⟩

def Untouched (m : Mounted (Preference Hearer)) : Prop :=
  m.part.theme = .light ∧ m.part.loaded = false

theorem Untouched.sameExceptSubscribers {m m' : Mounted (Preference Hearer)} (h : Untouched m)
    (same : SameExceptSubscribers m m') :
    Untouched m' := ⟨same.theme.trans h.1, same.loaded.trans h.2⟩

theorem dressed_refl (d : Document Receiver) : d.DressedAlike d := ⟨rfl, rfl⟩

variable {may : Stage → Job → Prop} {s s' : Stage} {ts ts' : List Errand} {n k : Nat}

namespace Stage

theorem sameExceptSubscribers_setStore {N : Mounted (Preference Hearer) → Prop}
    {m : Mounted (Preference Hearer)} {p : Preference Hearer} (found : s.stores[n]? = some m)
    (same : SameExceptSubscribers m { m with part := p }) :
    Grows SameExceptSubscribers N s.stores (s.setStore n p).stores :=
  .modify SameExceptSubscribers.refl fun m' found' ↦ by
    rwa [Option.some.inj (found'.symm.trans found)]

theorem stores_disconnect (link : Option Link) : (s.disconnect link).stores = s.stores := by
  cases link <;> rfl

theorem stores_disposeSpy : (s.disposeSpy n).stores = s.stores := by
  unfold disposeSpy
  split
  · rfl
  · rw [stores_disconnect]
    rfl

theorem sameExceptSubscribers_unsubscribeStore {N : Mounted (Preference Hearer) → Prop}
    {token : Nat} (stores : s'.stores = s.stores) :
    Grows SameExceptSubscribers N s.stores (s'.unsubscribeStore n token).stores := by
  rw [← stores, unsubscribeStore]
  split
  · exact .refl SameExceptSubscribers.refl
  · exact sameExceptSubscribers_setStore ‹_› ⟨rfl, rfl, rfl, rfl⟩

theorem sameExceptSubscribers_releaseMenu {N : Mounted (Preference Hearer) → Prop} :
    Grows SameExceptSubscribers N s.stores (s.releaseMenu n).stores := by
  cases found : s.menus[n]? with
  | none =>
    have nothing : s.releaseMenu n = s := by rw [releaseMenu, found]
    rw [nothing]
    exact .refl SameExceptSubscribers.refl
  | some m =>
    rw [releaseMenu_eq found]
    have stores : (s.unobserve m).stores = s.stores := by
      unfold unobserve
      cases m.contents with
      | none => rfl
      | some c => exact stores_disposeSpy
    cases m.themeToken with
    | none =>
      rw [Option.elim_none, stores]
      exact .refl SameExceptSubscribers.refl
    | some token => exact sameExceptSubscribers_unsubscribeStore stores

theorem sameExceptSubscribers_reclaimOld {N : Mounted (Preference Hearer) → Prop}
    {o : Option Object} (stores : s'.stores = s.stores) :
    Grows SameExceptSubscribers N s.stores (s'.reclaimOld o).stores := by
  rw [← stores]
  cases o with
  | none => exact .refl SameExceptSubscribers.refl
  | some o =>
    rw [reclaimOld, reclaim]
    split
    · exact .refl SameExceptSubscribers.refl
    · cases o with
      | spy k =>
        rw [destroy, stores_disposeSpy]
        exact .refl SameExceptSubscribers.refl
      | menu k => exact sameExceptSubscribers_releaseMenu

end Stage

/-- Preferences change only where they are used. New ones are on the current page. -/
theorem Edit.stores (e : Edit may s ts s' ts') :
    Grows SameExceptSubscribers (fun m ↦ Untouched m ∧ m.document = s.current) s.stores s'.stores ∨
      ∃ (s₀ : Stage) (j : Job) (k : Nat) (use : Use)
      (p : Preference Hearer), s₀.use? j = some (k, use) ∧
        may s₀ j ∧ s'.stores = (s.setStore k p).stores := by
  have same {s' : Stage} (stores : s'.stores = s.stores) :
      Grows SameExceptSubscribers (fun m ↦ Untouched m ∧ m.document = s.current) s.stores
        s'.stores :=
    stores ▸ .refl SameExceptSubscribers.refl
  have added {k : Nat} {m : Mounted (Preference Hearer)} {hearer : Hearer}
      (found : s.stores[k]? = some m)
      {s₁ : Stage} {o : Option Object}
        (stores : s₁.stores = (s.setStore k (m.part.subscribe hearer)).stores) :
      Grows SameExceptSubscribers (fun m ↦ Untouched m ∧ m.document = s.current) s.stores
        (s₁.reclaimOld o).stores := by
    refine Grows.trans (Stage.sameExceptSubscribers_setStore found ?_)
      (Stage.sameExceptSubscribers_reclaimOld stores) .trans ?_
    · exact ⟨rfl, rfl, rfl, rfl⟩
    · exact fun new same ↦ ⟨new.1.sameExceptSubscribers same, same.document.trans new.2⟩
  cases e with
  | @adopt _ _ _ p found _ used =>
    obtain ⟨s₀, j, use, used, allowed⟩ := used
    exact .inr ⟨s₀, j, _, use, p, used, allowed, rfl⟩
  | skip | push | animate | handOn | passOn | amend | inform | emit | openPage | faults | watch
  | dropStore | observe | observeNothing | subscribeSpy | unsubscribeSpy | receive | createScroller
  | setOpen | listenMenu | tellMenu | deaf | redraw | unseen | hold => exact .inl (same rfl)
  | keepHandle | freeHandle | dropHandle => exact .inl (same (Stage.stores_disconnect _))
  | keepWatch =>
    unfold Stage.keepWatch
    split <;> exact .inl (same rfl)
  | createStore => exact .inl (.concat SameExceptSubscribers.refl ⟨⟨rfl, rfl⟩, rfl⟩)
  | subscribeStore found =>
    exact .inl (Stage.sameExceptSubscribers_setStore found ⟨rfl, rfl, rfl, rfl⟩)
  | unsubscribeStore => exact .inl (Stage.sameExceptSubscribers_unsubscribeStore rfl)
  | disposeSpy => exact .inl (same Stage.stores_disposeSpy)
  | disposeMenu => exact .inl Stage.sameExceptSubscribers_releaseMenu
  | createSpy | shareMenu => exact .inl (Stage.sameExceptSubscribers_reclaimOld rfl)
  | createMenu found | createBare found => exact .inl (added found rfl)
  | dropSpy | dropMenu | letGo =>
    exact .inl (Stage.sameExceptSubscribers_reclaimOld (o := some _) rfl)

/-- What is stored and how documents look changes only where a job may do so. -/
theorem Edit.dressed (e : Edit may s ts s' ts') :
    Grows Document.DressedAlike (·.applied = none) s.documents s'.documents ∨
      ∃ s₀ j k, s₀.Restyles j k ∧ may s₀ j := by
  by_cases restyled : ∃ s₀ j k, s₀.Restyles j k ∧ may s₀ j
  · exact .inr restyled
  · refine .inl (e.grows dressed_refl Blueprint.applied_build ?_ ?_ (fun _ _ _ _ ↦ ⟨rfl, rfl⟩)
      fun _ _ ↦ ⟨rfl, rfl⟩)
    · intro k d d' _ _ dressed _
      obtain dressed | ⟨s₀, j, restyles, allowed⟩ := dressed
      · exact dressed
      · exact absurd ⟨s₀, j, k, restyles, allowed⟩ restyled
    · intro d d' _ dressed _
      exact ⟨dressed.saved, dressed.applied⟩

/-- Names and menus lead to preferences that there are, and these are on pages that there are. -/
structure PreferencesExist (s : Stage) : Prop where
  named : ∀ {name : String} {n : Nat}, s.names.stores.get? name = some n → n < s.stores.length
  menus : ∀ {i : Nat} {m : Menu}, s.menus[i]? = some m → m.store < s.stores.length
  mounted : ∀ {n : Nat} {m : Mounted (Preference Hearer)}, s.stores[n]? = some m →
    m.document < s.documents.length

theorem Edit.length_stores (e : Edit may s ts s' ts') : s.stores.length ≤ s'.stores.length := by
  obtain grows | ⟨_, _, k, _, p, -, -, stores⟩ := e.stores
  · exact grows.length_le
  · exact Nat.le_of_eq (by rw [stores, Stage.setStore, List.length_modify])

theorem Edit.storeNames (e : Edit may s ts s' ts') {name : String}
    (named : s'.names.stores.get? name = some n) :
    s.names.stores.get? name = some n ∨ n < s'.stores.length := by
  cases e with
  | createStore other key =>
    have given : (s.names.stores.insert other s.stores.length).get? name = some n := named
    rw [Table.get?_insert] at given
    split at given
    · cases given
      exact .inr (by simp [Stage.createStore, Stage.nameStore])
    · exact .inl given
  | dropStore other =>
    have given : (s.names.stores.erase other).get? name = some n := named
    rw [Table.get?_erase] at given
    split at given
    · cases given
    · exact .inl given
  | skip | push | animate | handOn | passOn | amend | inform | emit | openPage | faults | watch
  | adopt | subscribeStore | observe | observeNothing | subscribeSpy | unsubscribeSpy | receive
  | createScroller | setOpen | listenMenu | tellMenu | deaf | redraw | unseen | hold =>
    exact .inl named
  | keepHandle | freeHandle =>
    rw [Stage.nameHandle, Stage.names_disconnect] at named
    exact .inl named
  | dropHandle =>
    rw [Stage.dropHandle, Stage.names_disconnect] at named
    exact .inl named
  | unsubscribeStore =>
    unfold Stage.unsubscribeStore at named
    split at named <;> exact .inl named
  | keepWatch =>
    unfold Stage.keepWatch at named
    split at named <;> exact .inl named
  | disposeSpy =>
    rw [Stage.names_disposeSpy] at named
    exact .inl named
  | disposeMenu =>
    rw [Stage.names_releaseMenu] at named
    exact .inl named
  | createSpy =>
    rw [Stage.createSpy, Stage.nameSpy, Stage.names_reclaimOld] at named
    exact .inl named
  | createMenu =>
    rw [Stage.createMenu, Stage.nameMenu, Stage.names_reclaimOld] at named
    exact .inl named
  | createBare | shareMenu =>
    rw [Stage.nameMenu, Stage.names_reclaimOld] at named
    exact .inl named
  | dropSpy | dropMenu =>
    rw [Stage.names_reclaim] at named
    exact .inl named
  | letGo =>
    rw [Stage.letGo, Stage.names_reclaim] at named
    exact .inl named

theorem PreferencesExist.edit (h : PreferencesExist s) (currentExists : s.CurrentExists)
    (e : Edit may s ts s' ts') : PreferencesExist s' where
  named given := by
    obtain old | new := e.storeNames given
    · exact Nat.lt_of_lt_of_le (h.named old) e.length_stores
    · exact new
  menus {i m'} found := by
    refine Nat.lt_of_lt_of_le ?_ e.length_stores
    have change := e.menu found
    cases before : s.menus[i]? with
    | none =>
      rw [before] at change
      cases change with
      | made _ _ _ store =>
        obtain ⟨p, present⟩ := store
        exact (List.getElem?_eq_some_iff.1 present).1
    | some m =>
      rw [before] at change
      rw [change.store]
      exact h.menus before
  mounted {n m'} found := by
    refine Nat.lt_of_lt_of_le ?_ e.pages.length_le
    obtain grows | ⟨_, _, k, _, p, -, -, stores⟩ := e.stores
    · cases before : s.stores[n]? with
      | none =>
        rw [(grows.new before found).2]
        exact currentExists
      | some m =>
        obtain ⟨m₁, found₁, same⟩ := grows.old before
        obtain rfl := Option.some.inj (found₁.symm.trans found)
        rw [same.document]
        exact h.mounted before
    · rw [stores, Stage.setStore, List.getElem?_modify] at found
      obtain ⟨m, before, rfl⟩ := Option.map_eq_some_iff.1 found
      have bound := h.mounted before
      split <;> exact bound

namespace Stage

def store? (s : Stage) (name : String) : Option (Mounted (Preference Hearer)) :=
  (s.names.stores.get? name).bind fun n ↦ s.stores[n]?

theorem changeStore_hold (s : Stage) (n : Nat) (o : Object)
    (op : Preference Hearer → Document Receiver → Faults → Preference.Change Hearer Receiver) :
    ((s.hold o).changeStore n op).stage.stores = (s.changeStore n op).stage.stores ∧
      ((s.hold o).changeStore n op).stage.documents = (s.changeStore n op).stage.documents ∧
      ((s.hold o).changeStore n op).errands = (s.changeStore n op).errands := by
  have stores : (s.hold o).stores = s.stores := rfl
  have documents : (s.hold o).documents = s.documents := rfl
  have faults : (s.hold o).faults = s.faults := rfl
  simp only [changeStore, stores, documents, faults]
  split
  · exact ⟨rfl, rfl, rfl⟩
  · split <;> exact ⟨rfl, rfl, rfl⟩

theorem changeStore_of_found {m : Mounted (Preference Hearer)} {d : Document Receiver}
    {op : Preference Hearer → Document Receiver → Faults → Preference.Change Hearer Receiver}
    (found : s.stores[n]? = some m) (document : s.documents[m.document]? = some d) :
    (s.changeStore n op).stage =
      (s.setStore n (op m.part d s.faults).preference).setDocument m.document
        (op m.part d s.faults).document := by
  simp only [changeStore, found, document]

theorem changeStore_of_absent
    {op : Preference Hearer → Document Receiver → Faults → Preference.Change Hearer Receiver}
    (absent : s.stores[n]? = none) : (s.changeStore n op).stage = s := by
  simp only [changeStore, absent]

theorem use?_cases {j : Job} {use : Use} (used : s.use? j = some (n, use)) :
    (∃ name, s.names.stores.get? name = some n ∧
      (j = .act (.store name .load) ∧ use = .load ∨ j = .act (.store name .toggle) ∧
        use = .toggle)) ∨
    ∃ name i m, s.names.menus.get? name = some i ∧ s.menus[i]? = some m ∧ m.store = n ∧
      (j = .act (.menu name .start) ∧ use = .load ∨ j = .act (.menu name .toggleTheme) ∧
        use = .toggle) := by
  have owned {name : String} {op : Use}
      (given : (s.menu? name).map (fun m ↦ (m.store, op)) = some (n, use)) :
      ∃ i m, s.names.menus.get? name = some i ∧ s.menus[i]? = some m ∧ m.store = n ∧ op = use := by
    obtain ⟨m, looked, same⟩ := Option.map_eq_some_iff.1 given
    obtain ⟨i, named, found⟩ := Option.bind_eq_some_iff.1 looked
    cases same
    exact ⟨i, m, named, found, rfl, rfl⟩
  unfold use? at used
  split at used
  · obtain ⟨i, named, same⟩ := Option.map_eq_some_iff.1 used
    cases same
    exact .inl ⟨_, named, .inl ⟨rfl, rfl⟩⟩
  · obtain ⟨i, named, same⟩ := Option.map_eq_some_iff.1 used
    cases same
    exact .inl ⟨_, named, .inr ⟨rfl, rfl⟩⟩
  · obtain ⟨i, m, named, found, store, rfl⟩ := owned used
    exact .inr ⟨_, i, m, named, found, store, .inl ⟨rfl, rfl⟩⟩
  · obtain ⟨i, m, named, found, store, rfl⟩ := owned used
    exact .inr ⟨_, i, m, named, found, store, .inr ⟨rfl, rfl⟩⟩
  · cases used

/-- A step that loads or toggles a preference of its own name leaves the errand to tell all who are
to hear of it. -/
theorem perform_op (probe : Nat) {name : String} {m : Mounted (Preference Hearer)}
    {d : Document Receiver} (use : Use) (named : s.names.stores.get? name = some n)
    (found : s.stores[n]? = some m) (document : s.documents[m.document]? = some d) :
    let change := use.change m.part d s.faults
    s.perform probe (.store name use.op) =
      { stage := (s.setStore n change.preference).setDocument m.document change.document
        notes := change.notes
        errands := tellAll change.told (.theme change.preference.theme)
        outcome := .theme (some change.preference.theme) } := by
  have theme {p : Preference Hearer} {d' : Document Receiver} :
      ((s.setStore n p).setDocument m.document d').theme n = p.theme :=
    theme_of_found ((getElem?_setStore found n).trans (if_pos rfl))
  cases use <;>
    simp only [perform, Use.op, performStore, onStore, named, found, loadStore, toggleStore,
      changeStore, document, theme, Progress.reply, Use.change]

/-- A step that loads or toggles a preference does that and no more; all who are to hear of it are
told first. -/
theorem perform_use (probe : Nat) {step : Step} {use : Use}
    (used : s.use? (.act step) = some (n, use)) :
    (s.perform probe step).stage.stores = (s.changeStore n use.change).stage.stores ∧
      (s.perform probe step).stage.documents = (s.changeStore n use.change).stage.documents ∧
      ∃ others, (s.perform probe step).errands = (s.changeStore n use.change).errands ++ others ∧
        ∀ t ∈ others, t.isFree ∨ ∃ o, t = .letGo o := by
  have stored {name : String} {f : Nat → Mounted (Preference Hearer) → Reply}
      (named : s.names.stores.get? name = some n)
        (stage : ∀ m, (f n m).stage = (s.changeStore n use.change).stage)
      (errands : ∀ m, (f n m).errands = (s.changeStore n use.change).errands) :
      (s.onStore name f).stage = (s.changeStore n use.change).stage ∧
        (s.onStore name f).errands = (s.changeStore n use.change).errands := by
    simp only [onStore, named]
    cases found : s.stores[n]? with
    | none => simp [changeStore, found, badRequest]
    | some m => exact ⟨stage m, errands m⟩
  obtain ⟨name, named, ⟨⟨rfl⟩, rfl⟩ | ⟨⟨rfl⟩, rfl⟩⟩ | ⟨name, i, m, named, found, rfl,
      ⟨⟨rfl⟩, rfl⟩ | ⟨⟨rfl⟩, rfl⟩⟩ :=
    use?_cases used
  · have same :=
      stored (f := fun k _ ↦ (s.loadStore k).reply (.theme (some ((s.loadStore k).stage.theme k))))
        named
      (fun _ ↦ rfl) fun _ ↦ rfl
    rw [perform, performStore, same.1, same.2]
    exact ⟨rfl, rfl, [], by simp⟩
  · have same :=
      stored (f := fun k _ ↦
        (s.toggleStore k).reply (.theme (some ((s.toggleStore k).stage.theme k)))) named
      (fun _ ↦ rfl) fun _ ↦ rfl
    rw [perform, performStore, same.1, same.2]
    exact ⟨rfl, rfl, [], by simp⟩
  · obtain ⟨stores, documents, errands⟩ := s.changeStore_hold m.store (.menu i) Preference.load
    simp only [perform, performMenu, onMenu, named, found]
    refine ⟨stores, documents,
      (m.contents.toList.map fun c ↦ Errand.observe c.spy) ++ [.redraw i] ++ [.letGo (.menu i)], ?_,
        ?_⟩
    · simp only [holding, startMenu, loadStore, Progress.reply, errands, Use.change,
        List.append_assoc]
    · intro t member
      simp only [List.mem_append, List.mem_map, List.mem_singleton] at member
      obtain (⟨c, -, rfl⟩ | rfl) | rfl := member
      · exact .inl rfl
      · exact .inl rfl
      · exact .inr ⟨_, rfl⟩
  · obtain ⟨stores, documents, errands⟩ := s.changeStore_hold m.store (.menu i) Preference.toggle
    simp only [perform, performMenu, onMenu, named, found]
    refine ⟨stores, documents, [.letGo (.menu i)], ?_, by simp⟩
    simp only [holding, toggleStore, Progress.reply, errands, Use.change]

end Stage

def Step.restyles : Step → Bool
  | .page (.write _ _) | .page (.applyTheme _) => true
  | _ => false

section Runs

variable {may : Stage → Step → Prop} {past : List Move} {m m' : Machine}
  {jobs jobs' : List Job} {j : Job}

theorem History.preferencesExist (run : History may past m jobs) : PreferencesExist m.stage := by
  have kept := run.keeps (I := fun s _ ↦ s.CurrentExists ∧ PreferencesExist s)
    (fun page ↦ ⟨Nat.zero_lt_one, by constructor <;> intros <;> contradiction⟩)
    fun e h ↦ ⟨e.currentExists h.1, h.2.edit h.1 e⟩
  exact kept.2

theorem PreferencesExist.use (preferencesExist : PreferencesExist s) {use : Use}
    (used : s.use? j = some (n, use)) :
    ∃ (store : Mounted (Preference Hearer)) (d : Document Receiver), s.stores[n]? = some store ∧
      s.documents[store.document]? = some d := by
  have bound : n < s.stores.length := by
    obtain ⟨name, named, -⟩ | ⟨name, i, m, -, found, rfl, -⟩ := Stage.use?_cases used
    · exact preferencesExist.named named
    · exact preferencesExist.menus found
  have found := List.getElem?_eq_getElem bound
  exact ⟨_, _, found, List.getElem?_eq_getElem (preferencesExist.mounted found)⟩

/-- What a turn does to the preferences: it uses one of them, or none. -/
theorem Turn.stores (turn : Turn may m jobs j m' jobs')
    (preferencesExist : PreferencesExist m.stage) :
    m.stage.use? j = none ∧ Grows SameExceptSubscribers Untouched m.stage.stores m'.stage.stores ∨
    ∃ (n : Nat) (use : Use) (store : Mounted (Preference Hearer)) (d : Document Receiver),
      m.stage.use? j = some (n, use) ∧ m.stage.stores[n]? = some store ∧
      m.stage.documents[store.document]? = some d ∧
      m'.stage.stores =
        (m.stage.setStore n (use.change store.part d m.stage.faults).preference).stores ∧
      m'.stage.documents =
        (m.stage.setDocument store.document
          (use.change store.part d m.stage.faults).document).documents := by
  cases used : m.stage.use? j with
  | none =>
    refine .inl ⟨rfl, turn.edits_only.keep
      (I := fun s _ ↦ Grows SameExceptSubscribers Untouched m.stage.stores s.stores) (fun e h ↦ ?_)
        (.refl SameExceptSubscribers.refl)⟩
    obtain grows | ⟨_, _, _, _, _, used', ⟨rfl, rfl⟩, -⟩ := e.stores
    · exact h.trans (grows.mono id And.left) .trans .sameExceptSubscribers
    · cases used.symm.trans used'
  | some u =>
    obtain ⟨n, use⟩ := u
    obtain ⟨store, d, found, document⟩ := preferencesExist.use used
    refine .inr ⟨n, use, store, d, rfl, found, document, ?_⟩
    obtain ⟨step, rfl, -, stage, -⟩ | ⟨t, rest, rfl, -⟩ | ⟨⟨_, _, rfl⟩, -⟩ := turn.effect
    · obtain ⟨stores, documents, -⟩ := Stage.perform_use m.probes.length used
      rw [stage, stores, documents, Stage.changeStore_of_found found document]
      exact ⟨rfl, rfl⟩
    · cases used
    · cases used

/-- A turn that uses no preference changes nothing that is stored, and no document's look. -/
theorem Turn.dressed (turn : Turn may m jobs j m' jobs') (unused : m.stage.use? j = none)
    (plain : ∀ step, j = .act step → step.restyles = false) :
    Grows Document.DressedAlike (·.applied = none) m.stage.documents m'.stage.documents := by
  refine turn.edits_only.keep
    (I := fun s _ ↦ Grows Document.DressedAlike (·.applied = none) m.stage.documents s.documents)
      (fun e h ↦ ?_)
    (.refl dressed_refl)
  obtain grows | ⟨_, _, k, restyles, rfl, rfl⟩ := e.dressed
  · refine h.trans grows ?_ ?_
    · exact fun first next ↦ ⟨next.saved.trans first.saved, next.applied.trans first.applied⟩
    · exact fun plain dressed ↦ dressed.applied.trans plain
  · obtain ⟨-, ⟨key, value, rfl⟩ | ⟨t, rfl⟩⟩ | ⟨n, use, store, used, -⟩ := restyles
    · cases plain _ rfl
    · cases plain _ rfl
    · cases unused.symm.trans used

end Runs

end Session

end Wayfinder
