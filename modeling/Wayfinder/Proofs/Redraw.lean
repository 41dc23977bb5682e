import Wayfinder.Proofs.History
import Wayfinder.Proofs.Ownership

namespace Wayfinder.Session

def Errand.redraws : Errand → Option Nat
  | .redraw n => some n
  | .tell (.menu n) _ => some n
  | _ => none

def Awaited (ts : List Errand) (n : Nat) : Prop := ∃ t ∈ ts, t.redraws = some n

theorem awaited_cons {t : Errand} {ts : List Errand} {n : Nat} :
    Awaited (t :: ts) n ↔ t.redraws = some n ∨ Awaited ts n := by simp [Awaited]

theorem awaited_append {ts ts' : List Errand} {n : Nat} :
    Awaited (ts ++ ts') n ↔ Awaited ts n ∨ Awaited ts' n := by
  simp [Awaited, or_and_right, exists_or]

theorem awaited_tellAll {hearers : List Hearer} {news : Notice} {n : Nat} (h : .menu n ∈ hearers) :
    Awaited (tellAll hearers news) n :=
  ⟨_, List.mem_map_of_mem h, rfl⟩

theorem Errand.redraws_of_isIdle {t : Errand} (idle : t.isIdle) : t.redraws = none := by
  cases t <;> simp_all [isIdle, redraws]

variable {s s' : Stage} {owed owed' : Nat → Prop} {n k : Nat}

/-- Every menu that has not been disposed hears of its preference and of its spy, and its viewer saw
what it shows unless a redraw is owed to it. -/
structure Mirrored (s : Stage) (owed : Nat → Prop) : Prop where
  hears : ∀ {n : Nat} {m : Menu} {token : Nat}, s.menus[n]? = some m → m.themeToken = some token →
    ∃ store, s.stores[m.store]? = some store ∧ (token, .menu n) ∈ store.part.listeners.entries
  follows : ∀ {n : Nat} {m : Menu} {c : Contents}, s.menus[n]? = some m → m.contents = some c →
    ∃ spy, s.spies[c.spy]? = some spy ∧ .menu n ∈ spy.part.listeners.toList
  tokens : ∀ {k : Nat} {store : Mounted (Preference Hearer)},
    s.stores[k]? = some store → store.part.listeners.Sound
  shown : ∀ {n : Nat} {m : Menu} {v : Viewer}, s.menus[n]? = some m → m.alive →
    m.themeToken.isSome →
    m.viewer = some v → v.seen = s.snapshot m ∨ owed n

namespace Mirrored

theorem mono (h : Mirrored s owed) (more : ∀ n, owed n → owed' n) : Mirrored s owed' :=
  { h with shown :=
    fun found alive token viewer ↦ (h.shown found alive token viewer).imp_right (more _) }

theorem frame (h : Mirrored s owed) (stores : s'.stores = s.stores) (spies : s'.spies = s.spies)
    (menus : s'.menus = s.menus) : Mirrored s' owed := by
  have shown : ∀ m, s'.snapshot m = s.snapshot m := fun m ↦
    Stage.snapshot_congr (by rw [Stage.theme, Stage.theme, stores]) fun c _ ↦ by
      rw [Stage.active?, Stage.active?, spies]
  obtain ⟨hears, follows, tokens, seen⟩ := h
  constructor
  all_goals simpa only [stores, spies, menus, shown]

/-- A preference keeps all its menus; if it changes its theme, all its menus are owed a redraw. -/
theorem setStore {m : Mounted (Preference Hearer)} {p : Preference Hearer} (h : Mirrored s owed)
    (found : s.stores[k]? = some m)
    (kept : ∀ {i menu token}, s.menus[i]? = some menu → menu.themeToken = some token →
      menu.store = k →
      (token, .menu i) ∈ p.listeners.entries)
    (sound : p.listeners.Sound)
    (told : p.theme = m.part.theme ∨ ∀ n, .menu n ∈ m.part.listeners.toList → owed n) :
    Mirrored (s.setStore k p) owed where
  hears {n menu token} found' subscribed := by
    rw [Stage.getElem?_setStore found]
    split
    · exact ⟨_, rfl, kept found' subscribed ‹_›⟩
    · exact h.hears found' subscribed
  follows := h.follows
  tokens {i store} present := by
    rw [Stage.getElem?_setStore found] at present
    split at present
    · cases present
      exact sound
    · exact h.tokens present
  shown {n menu v} found' alive token viewer := by
    obtain ⟨number, subscribed⟩ := Option.isSome_iff_exists.1 token
    obtain ⟨store, present, entry⟩ := h.hears found' subscribed
    by_cases same : menu.store = k
    · obtain rfl : m = store := by simpa [same, found] using present
      obtain told | told := told
      · have theme : (s.setStore k p).theme menu.store = s.theme menu.store := by
          have after : (s.setStore k p).stores[k]? = some { m with part := p } := by
            rw [Stage.getElem?_setStore found, if_pos rfl]
          rw [same, Stage.theme_of_found found, Stage.theme_of_found after, told]
        rw [Stage.snapshot_congr theme fun _ _ ↦ rfl]
        exact h.shown found' alive token viewer
      · exact .inr (told n (Subscribers.mem_toList.2 ⟨number, entry⟩))
    · have theme : (s.setStore k p).theme menu.store = s.theme menu.store := by
        rw [Stage.theme, Stage.getElem?_setStore found, if_neg same, Stage.theme]
      rw [Stage.snapshot_congr theme fun _ _ ↦ rfl]
      exact h.shown found' alive token viewer

theorem entry (h : Mirrored s owed) {i token : Nat} {m : Mounted (Preference Hearer)} {menu : Menu}
    (found : s.stores[k]? = some m) (found' : s.menus[i]? = some menu)
    (subscribed : menu.themeToken = some token)
    (same : menu.store = k) : (token, .menu i) ∈ m.part.listeners.entries := by
  obtain ⟨store, present, entry⟩ := h.hears found' subscribed
  obtain rfl : m = store := by simpa [same, found] using present
  exact entry

/-- A spy keeps its menus; if it changes the active section, they are owed a redraw. -/
theorem setSpy {m : Mounted (Spy Hearer)} {spy : Spy Hearer} (h : Mirrored s owed)
    (found : s.spies[n]? = some m)
    (kept : ∀ {i menu c}, s.menus[i]? = some menu → menu.contents = some c → c.spy = n →
      .menu i ∈ spy.listeners.toList)
    (told : spy.active = m.part.active ∨ ∀ i, .menu i ∈ m.part.listeners.toList → owed i) :
    Mirrored (s.setSpy n spy) owed where
  hears := h.hears
  follows {i menu c} found' contents := by
    rw [Stage.getElem?_setSpy found]
    split
    · exact ⟨_, rfl, kept found' contents ‹_›⟩
    · exact h.follows found' contents
  tokens := h.tokens
  shown {i menu v} found' alive token viewer := by
    by_cases same : ∃ c, menu.contents = some c ∧ c.spy = n
    · obtain ⟨c, contents, same⟩ := same
      obtain ⟨spy', present, member⟩ := h.follows found' contents
      obtain rfl : m = spy' := by simpa [same, found] using present
      obtain told | told := told
      · have active : ∀ c', menu.contents = some c' →
            (s.setSpy n spy).active? c' = s.active? c' := by
          intro c' contents'
          obtain rfl : c = c' := Option.some.inj (contents.symm.trans contents')
          rw [Stage.active?, Stage.active?, Stage.getElem?_setSpy found, if_pos same, same, found]
          simp [told]
        have unchanged : (s.setSpy n spy).snapshot menu = s.snapshot menu :=
          Stage.snapshot_congr rfl active
        rw [unchanged]
        exact h.shown found' alive token viewer
      · exact .inr (told i member)
    · have active : ∀ c, menu.contents = some c → (s.setSpy n spy).active? c = s.active? c := by
        intro c contents
        have other : c.spy ≠ n := fun same' ↦ same ⟨c, contents, same'⟩
        rw [Stage.active?, Stage.active?, Stage.getElem?_setSpy found, if_neg other]
      have unchanged : (s.setSpy n spy).snapshot menu = s.snapshot menu :=
        Stage.snapshot_congr rfl active
      rw [unchanged]
      exact h.shown found' alive token viewer

theorem setSpy_unseen {m : Mounted (Spy Hearer)} {spy : Spy Hearer} (h : Mirrored s owed)
    (found : s.spies[n]? = some m)
    (listeners : ∀ a ∈ m.part.listeners.toList, a ∈ spy.listeners.toList)
    (active : spy.active = m.part.active) : Mirrored (s.setSpy n spy) owed := by
  refine h.setSpy found ?_ (.inl active)
  rintro i menu c found' contents rfl
  obtain ⟨spy', present, member⟩ := h.follows found' contents
  obtain rfl : m = spy' := by simpa [found] using present
  exact listeners _ member

/-- Menus keep what they are about; they may give up their subscription, and they are shown or owed
a redraw. -/
theorem remenu {menus : List Menu} (h : Mirrored s owed)
    (back : ∀ {i : Nat} {m' : Menu}, menus[i]? = some m' → ∃ m, s.menus[i]? = some m ∧
      m'.store = m.store ∧
      m'.contents = m.contents ∧ (m'.themeToken = m.themeToken ∨ m'.themeToken = none))
    (shown : ∀ {i : Nat} {m' : Menu} {v : Viewer}, menus[i]? = some m' → m'.alive →
      m'.themeToken.isSome →
      m'.viewer = some v → v.seen = s.snapshot m' ∨ owed' i) :
    Mirrored { s with menus } owed' where
  hears {i m' t} found subscribed := by
    obtain ⟨m, found', store, -, token⟩ := back found
    rw [store]
    refine h.hears found' ?_
    obtain token | token := token
    · rw [← token, subscribed]
    · simp [token] at subscribed
  follows {i m' c} found contents := by
    obtain ⟨m, found', -, same, -⟩ := back found
    exact h.follows found' (same ▸ contents)
  tokens := h.tokens
  shown := shown

theorem setMenu {m m' : Menu} (h : Mirrored s owed) (found : s.menus[n]? = some m)
    (store : m'.store = m.store) (contents : m'.contents = m.contents)
    (token : m'.themeToken = m.themeToken ∨ m'.themeToken = none)
    (others : ∀ i, owed i → i ≠ n → owed' i)
    (shown : m'.alive → m'.themeToken.isSome → ∀ v, m'.viewer = some v →
      v.seen = s.snapshot m' ∨ owed' n) :
    Mirrored (s.setMenu n m') owed' := by
  have looked (i : Nat) : (s.menus.set n m')[i]? = if i = n then some m' else s.menus[i]? :=
    Stage.getElem?_setMenu found i
  refine h.remenu ?_ ?_
  · intro i menu found'
    rw [looked] at found'
    split at found'
    · cases found'
      subst i
      exact ⟨m, found, store, contents, token⟩
    · exact ⟨menu, found', rfl, rfl, .inl rfl⟩
  · intro i menu v found' alive subscribed viewer
    rw [looked] at found'
    split at found'
    · cases found'
      subst i
      exact shown alive subscribed v viewer
    · exact (h.shown found' alive subscribed viewer).imp_right fun owes ↦ others i owes ‹_›

theorem addStore (h : Mirrored s owed) (store : Mounted (Preference Hearer))
    (sound : store.part.listeners.Sound) : Mirrored { s with stores :=
      s.stores ++ [store] } owed where
  hears found' subscribed := by
    obtain ⟨store', present, entry⟩ := h.hears found' subscribed
    exact ⟨store', getElem?_append_of_some present _, entry⟩
  follows := h.follows
  tokens {i store'} present := by
    rw [List.getElem?_append] at present
    split at present
    · exact h.tokens present
    · obtain rfl := List.mem_singleton.1 (List.mem_of_getElem? present)
      exact sound
  shown {i menu v} found' alive token viewer := by
    obtain ⟨number, subscribed⟩ := Option.isSome_iff_exists.1 token
    obtain ⟨store', present, -⟩ := h.hears found' subscribed
    have theme : Stage.theme { s with stores := s.stores ++ [store] } menu.store =
      s.theme menu.store := by
      rw [Stage.theme_of_found present, Stage.theme_of_found (getElem?_append_of_some present _)]
    rw [Stage.snapshot_congr theme fun _ _ ↦ rfl]
    exact h.shown found' alive token viewer

theorem addSpy (h : Mirrored s owed) (spy : Mounted (Spy Hearer)) :
    Mirrored { s with spies := s.spies ++ [spy] } owed where
  hears := h.hears
  follows found' contents := by
    obtain ⟨spy', present, member⟩ := h.follows found' contents
    exact ⟨spy', getElem?_append_of_some present _, member⟩
  tokens := h.tokens
  shown {i menu v} found' alive token viewer := by
    have active : ∀ c, menu.contents = some c →
        Stage.active? { s with spies := s.spies ++ [spy] } c = s.active? c := by
      intro c contents
      obtain ⟨spy', present, -⟩ := h.follows found' contents
      rw [Stage.active?, Stage.active?, present, getElem?_append_of_some present _]
    have unchanged : Stage.snapshot { s with spies := s.spies ++ [spy] } menu = s.snapshot menu :=
      Stage.snapshot_congr rfl active
    rw [unchanged]
    exact h.shown found' alive token viewer

theorem disconnect (h : Mirrored s owed) (link : Option Link) :
    Mirrored (s.disconnect link) owed := by
  cases link with
  | none => exact h
  | some link => exact h.frame rfl rfl rfl

theorem disposeSpy (h : Mirrored s owed) (n : Nat) : Mirrored (s.disposeSpy n) owed := by
  unfold Stage.disposeSpy
  split
  · exact h
  · rename_i m found
    have disposed : Mirrored (s.setSpy n m.part.dispose) owed :=
      h.setSpy_unseen found (fun _ member ↦ member) rfl
    exact disposed.disconnect _

theorem keepWatch (h : Mirrored s owed) (n : Nat) (watch : Option Nat) :
    Mirrored (s.keepWatch n watch) owed := by
  unfold Stage.keepWatch
  split
  · exact h
  · exact h.setSpy_unseen ‹_› (fun _ member ↦ member) rfl

theorem beginObserving {m : Mounted (Spy Hearer)} (h : Mirrored s owed)
    (found : s.spies[n]? = some m) (d : Document Receiver) :
    Mirrored (s.setSpy n (Session.beginObserving m.part d)) owed :=
  h.setSpy_unseen found (fun _ member ↦ member) rfl

theorem unsubscribe (h : Mirrored s owed) {token : Nat}
    (free : ∀ {i : Nat} {menu : Menu}, s.menus[i]? = some menu → menu.store = k →
      menu.themeToken ≠ some token) : Mirrored (s.unsubscribeStore k token) owed := by
  unfold Stage.unsubscribeStore
  split
  · exact h
  · rename_i m found
    refine h.setStore found ?_ ((h.tokens found).remove token) (.inl rfl)
    intro i menu token' found' subscribed same
    refine (Subscribers.mem_entries_remove _).2 ⟨h.entry found found' subscribed same, ?_⟩
    rintro rfl
    exact free found' same subscribed

theorem unobserve (h : Mirrored s owed) (m : Menu) : Mirrored (s.unobserve m) owed := by
  unfold Stage.unobserve
  cases m.contents with
  | none => exact h
  | some c => exact h.disposeSpy c.spy

theorem releaseMenu (h : Mirrored s owed) (n : Nat) : Mirrored (s.releaseMenu n) owed := by
  cases found : s.menus[n]? with
  | none =>
    have nothing : s.releaseMenu n = s := by rw [Stage.releaseMenu, found]
    rwa [nothing]
  | some m =>
    rw [Stage.releaseMenu_eq found]
    have observed := h.unobserve m
    have found' : (s.unobserve m).menus[n]? = some m := by rw [Stage.menus_unobserve, found]
    cases subscribed : m.themeToken with
    | none => exact observed
    | some token =>
      have given : Mirrored ((s.unobserve m).setMenu n { m with themeToken := none }) owed := by
        refine observed.setMenu found' rfl rfl (.inr rfl) (fun _ owes _ ↦ owes) ?_
        intro token given
        cases given
      refine given.unsubscribe ?_
      intro i menu found'' same subscribed'
      rw [Stage.getElem?_setMenu found'] at found''
      split at found''
      · cases found''
        cases subscribed'
      · obtain ⟨store, present, entry⟩ := observed.hears found' subscribed
        have entry' := observed.entry present found'' subscribed' same
        cases (observed.tokens present).eq_of_token entry entry'
        contradiction

theorem retire (h : Mirrored s owed) (n : Nat) :
    Mirrored { s with menus := s.menus.modify n fun m ↦ { m with alive := false } } owed := by
  have looked {i : Nat} {m' : Menu}
      (found : (s.menus.modify n fun m ↦ { m with alive := false })[i]? = some m') :
      ∃ m, s.menus[i]? = some m ∧ (m' = m ∨ m' = { m with alive := false }) := by
    rw [List.getElem?_modify] at found
    obtain ⟨m, found', rfl⟩ := Option.map_eq_some_iff.1 found
    refine ⟨m, found', ?_⟩
    by_cases h : n = i <;> simp [h]
  refine h.remenu ?_ ?_
  · intro i m' found
    obtain ⟨m, found', rfl | rfl⟩ := looked found <;> exact ⟨_, found', rfl, rfl, .inl rfl⟩
  · intro i m' v found alive subscribed viewer
    obtain ⟨m, found', rfl | rfl⟩ := looked found
    · exact h.shown found' alive subscribed viewer
    · cases alive

theorem destroy (h : Mirrored s owed) (o : Object) : Mirrored (s.destroy o) owed := by
  cases o with
  | spy n => exact h.disposeSpy n
  | menu n => exact (h.releaseMenu n).retire n

theorem reclaim (h : Mirrored s owed) (o : Object) : Mirrored (s.reclaim o) owed := by
  unfold Stage.reclaim
  split
  · exact h
  · exact h.destroy o

theorem reclaimOld (h : Mirrored s owed) (o : Option Object) : Mirrored (s.reclaimOld o) owed := by
  cases o with
  | none => exact h
  | some o => exact h.reclaim o

theorem createSpy (h : Mirrored s owed) (name : String) (registry : Registry) (band : Band) :
    Mirrored (s.createSpy name registry band) owed := by
  refine Mirrored.reclaimOld ?_ _
  exact (h.addSpy ⟨s.current, { registry, band }⟩).frame rfl rfl rfl

theorem nameMenu (h : Mirrored s owed) (name : String) (n : Nat) :
    Mirrored (s.nameMenu name n) owed := by
  have named : Mirrored { s with names :=
    { s.names with menus := s.names.menus.insert name n } } owed :=
    h.frame rfl rfl rfl
  exact named.reclaimOld _

theorem nameHandle (h : Mirrored s owed) (name : String) (link : Option Link) :
    Mirrored (s.nameHandle name link) owed := by
  have named :
      Mirrored { s with names :=
        { s.names with handles := s.names.handles.insert name link } } owed :=
    h.frame rfl rfl rfl
  exact named.disconnect _

theorem subscribe {m : Mounted (Preference Hearer)} (h : Mirrored s owed)
    (found : s.stores[k]? = some m) (hearer : Hearer) :
    Mirrored (s.setStore k (m.part.subscribe hearer)) owed := by
  refine h.setStore found ?_ ((h.tokens found).add hearer) (.inl rfl)
  intro i menu token found' subscribed same
  exact List.mem_append_left _ (h.entry found found' subscribed same)

/-- A new menu hears of its preference; its spy, if it has one, has no name and tells it. -/
theorem addMenu {m : Mounted (Preference Hearer)} {contents : Option Contents} (h : Mirrored s owed)
    (found : s.stores[k]? = some m)
    (follows : ∀ c, contents = some c → ∃ spy, s.spies[c.spy]? = some spy ∧
      .menu s.menus.length ∈ spy.part.listeners.toList) :
    Mirrored (s.addMenu k m.part contents) owed := by
  have subscribed := h.subscribe found (.menu s.menus.length)
  constructor
  case hears =>
    intro i menu token found' token'
    obtain found' | ⟨rfl, rfl⟩ := getElem?_concat found'
    · exact subscribed.hears found' token'
    · cases token'
      refine ⟨{ m with part := m.part.subscribe (.menu s.menus.length) }, ?_,
        List.mem_append_right _ (.head _)⟩
      exact (Stage.getElem?_setStore found k).trans (if_pos rfl)
  case follows =>
    intro i menu c found' contents'
    obtain found' | ⟨rfl, rfl⟩ := getElem?_concat found'
    · exact h.follows found' contents'
    · exact follows c contents'
  case tokens => exact subscribed.tokens
  case shown =>
    intro i menu v found' alive token viewer
    obtain found' | ⟨rfl, rfl⟩ := getElem?_concat found'
    · exact subscribed.shown found' alive token viewer
    · cases viewer

theorem createMenu {m : Mounted (Preference Hearer)} (h : Mirrored s owed)
    (found : s.stores[k]? = some m) (name : String) (registry : Registry) (headerOffset : Length)
    (band : Band) :
    Mirrored (s.createMenu name k m.part registry headerOffset band) owed := by
  refine Mirrored.nameMenu ?_ _ _
  refine Mirrored.addMenu (h.addSpy _) found ?_
  rintro c ⟨rfl⟩
  exact ⟨_, List.getElem?_concat_length, by simp [Spy.subscribe, Stage.addContents]⟩

end Mirrored

/-- A step that takes no subscription away by its token. Menus know the tokens of their own
subscriptions only. -/
def Step.keepsTokens : Step → Bool
  | .store _ (.unsubscribe _) => false
  | _ => true

def Step.sparesMenus (s : Stage) : Step → Bool
  | .store name (.unsubscribe token) =>
    s.menus.all fun m ↦ ¬ (s.names.stores.get? name = some m.store ∧ m.themeToken = some token)
  | _ => true

theorem Step.sparesMenus_of_keepsTokens {step : Step} (keeps : step.keepsTokens) :
    step.sparesMenus s := by
  unfold sparesMenus
  split
  · cases keeps
  · rfl

variable {may : Stage → Job → Prop} {ts ts' : List Errand}

/-- No edit leaves a viewer behind without a redraw to come. -/
theorem Mirrored.edit_of_spares (h : Mirrored s (Awaited ts)) (owned : Private s)
    (spares : ∀ s step, may s (.act step) → step.sparesMenus s) (e : Edit may s ts s' ts') :
    Mirrored s' (Awaited ts') := by
  have sooner {t : Errand} {ts : List Errand} (other : t.redraws = none) (n : Nat)
    (owes : Awaited (t :: ts) n) :
      Awaited ts n := (awaited_cons.1 owes).resolve_left (by simp [other])
  have later {ts : List Errand} (t : Errand) (n : Nat) (owes : Awaited ts n) :
      Awaited (t :: ts) n :=
    awaited_cons.2 (.inr owes)
  have later' (ts' : List Errand) (n : Nat) (owes : Awaited ts n) : Awaited (ts' ++ ts) n :=
    awaited_append.2 (.inr owes)
  cases e with
  | skip idle => exact h.mono (sooner (Errand.redraws_of_isIdle idle))
  | push | animate => exact h.mono (later _)
  | handOn | passOn => exact h.mono fun n owes ↦ later _ n (sooner rfl n owes)
  | amend | openPage | faults | dropStore | createScroller => exact h.frame rfl rfl rfl
  | inform => exact (h.mono (later' _)).frame rfl rfl rfl
  | emit => exact h.mono (later' _)
  | watch => exact (h.mono fun n owes ↦ awaited_append.2 (.inr (later _ n owes))).frame rfl rfl rfl
  | keepHandle => exact (h.mono (sooner rfl)).nameHandle _ _
  | freeHandle name => exact h.nameHandle name none
  | dropHandle =>
    refine Mirrored.disconnect ?_ _
    exact h.frame rfl rfl rfl
  | createStore name key => exact (h.addStore _ Subscribers.sound_empty).frame rfl rfl rfl
  | adopt found listeners =>
    refine (h.mono (later' _)).setStore found ?_ ?_ ?_
    · intro i menu token found' subscribed same
      rw [listeners]
      exact h.entry found found' subscribed same
    · rw [listeners]
      exact h.tokens found
    · split
      · exact .inl (Eq.symm ‹_›)
      · exact .inr fun n member ↦ awaited_append.2 (.inl (awaited_tellAll member))
  | subscribeStore found probe => exact h.subscribe found _
  | unsubscribeStore allowed named =>
    refine h.unsubscribe fun {i menu} found same subscribed ↦ ?_
    have spared := List.all_eq_true.1 (spares _ _ allowed) menu (List.mem_of_getElem? found)
    simp [named, same, subscribed] at spared
  | createSpy registry => exact h.createSpy _ registry _
  | observe found =>
    refine ((h.beginObserving found _).mono fun n owes ↦ ?_).frame rfl rfl rfl
    exact awaited_append.2 (.inr (later _ n owes))
  | observeNothing found => exact ((h.beginObserving found _).mono (later _)).frame rfl rfl rfl
  | keepWatch => exact (h.mono (sooner rfl)).keepWatch _ _
  | disposeSpy => exact h.disposeSpy _
  | subscribeSpy found probe =>
    refine h.setSpy_unseen found (fun a member ↦ ?_) rfl
    simp [Spy.subscribe, member]
  | unsubscribeSpy found named =>
    exact h.setSpy found
      (fun found' contents same ↦ absurd same (owned.apart named found' contents)) (.inl rfl)
  | receive found moved =>
    obtain ⟨-, id, -, -, rfl⟩ := Spy.receive?_eq_some moved
    refine (h.mono (later' _)).setSpy found ?_
      (.inr fun n member ↦ awaited_append.2 (.inl (awaited_tellAll member)))
    intro i menu c found' contents same
    obtain ⟨spy, present, member⟩ := h.follows found' contents
    obtain rfl := Option.some.inj (found.symm.trans (same ▸ present))
    exact member
  | dropSpy allowed named =>
    refine Mirrored.reclaim ?_ _
    exact h.frame rfl rfl rfl
  | createMenu found name registry headerOffset band =>
    exact h.createMenu found name registry headerOffset band
  | createBare found name => exact (h.addMenu found (by simp)).nameMenu _ _
  | shareMenu _ _ name => exact h.nameMenu name _
  | disposeMenu => exact h.releaseMenu _
  | dropMenu =>
    refine Mirrored.reclaim ?_ _
    exact h.frame rfl rfl rfl
  | setOpen found isOpen =>
    refine h.setMenu found rfl rfl (.inl rfl) (fun i owes _ ↦ later' _ i owes) ?_
    intro alive token v viewer
    split
    · rename_i same
      rw [← same]
      exact h.shown found alive token viewer
    · exact .inr (awaited_cons.2 (.inl rfl))
  | listenMenu _ found probe =>
    refine h.setMenu found rfl rfl (.inl rfl) (fun i owes _ ↦ owes) ?_
    rintro - - v ⟨rfl⟩
    exact .inl rfl
  | tellMenu =>
    refine (h.mono fun n owes ↦ ?_).frame rfl rfl rfl
    exact awaited_cons.2 ((awaited_cons.1 owes).imp id (later _ n))
  | deaf gone =>
    refine h.remenu (fun found ↦ ⟨_, found, rfl, rfl, .inl rfl⟩) fun found alive token viewer ↦ ?_
    refine (h.shown found alive token viewer).imp_right fun owes ↦
      (awaited_cons.1 owes).resolve_left ?_
    rintro ⟨rfl⟩
    simp [gone _ found] at alive
  | redraw _ found viewer =>
    refine h.setMenu found rfl rfl (.inl rfl)
      (fun i owes other ↦ later _ i ((awaited_cons.1 owes).resolve_left ?_)) ?_
    · rintro ⟨rfl⟩
      exact other rfl
    · rintro - - v ⟨rfl⟩
      exact .inl rfl
  | unseen alone =>
    refine h.remenu (fun found ↦ ⟨_, found, rfl, rfl, .inl rfl⟩) fun found alive token viewer ↦ ?_
    refine (h.shown found alive token viewer).imp_right fun owes ↦
      (awaited_cons.1 owes).resolve_left ?_
    rintro ⟨rfl⟩
    simp [alone _ found] at viewer
  | hold o => exact (h.mono (later _)).frame rfl rfl rfl
  | letGo =>
    refine Mirrored.reclaim ?_ _
    exact (h.mono (sooner rfl)).frame rfl rfl rfl

theorem Mirrored.edit (h : Mirrored s (Awaited ts)) (owned : Private s)
    (keeps : ∀ s step, may s (.act step) → step.keepsTokens) (e : Edit may s ts s' ts') :
    Mirrored s' (Awaited ts') :=
  h.edit_of_spares owned
    (fun s step allowed ↦ Step.sparesMenus_of_keepsTokens (keeps s step allowed)) e

theorem mirrored_opened (d : Document Receiver) : Mirrored { documents := [d] } owed := by
  constructor <;> intros <;> contradiction

end Wayfinder.Session
