import Wayfinder.Proofs.Mirror

namespace Wayfinder

theorem Subscribers.count_remove_le {α : Type} [DecidableEq α] (s : Subscribers α)
    (token : Nat) (a : α) :
    (s.remove token).toList.count a ≤ s.toList.count a :=
  (List.filter_sublist.map Prod.snd).count_le a

namespace Session

/-- What one can subscribe to. -/
inductive Source where
  | preference (number : Nat)
  | spy (number : Nat)
deriving DecidableEq

namespace Menu

def spy? (m : Menu) : Option Nat := m.contents.map Contents.spy

def follows (m : Menu) : Source → Bool
  | .preference n => m.store = n
  | .spy n => m.spy? = some n

theorem follows_congr {m m' : Menu} (store : m'.store = m.store)
    (contents : m'.contents = m.contents) (source : Source) :
    m'.follows source = m.follows source := by
  cases source with
  | preference n => rw [follows, store, follows]
  | spy n => rw [follows, spy?, contents, follows, spy?]

end Menu

def Stage.hearers (s : Stage) : Source → List Hearer
  | .preference n => (s.stores[n]?.map fun m ↦ m.part.listeners.toList).getD []
  | .spy n => (s.spies[n]?.map fun m ↦ m.part.listeners.toList).getD []

variable {may : Stage → Job → Prop} {s s' s'' : Stage} {ts ts' : List Errand} {n k : Nat}

theorem Stage.hearers_preference {m : Mounted (Preference Hearer)} (found : s.stores[k]? = some m) :
    s.hearers (.preference k) = m.part.listeners.toList := by
  rw [hearers, found, Option.map_some, Option.getD_some]

theorem Stage.hearers_spy {m : Mounted (Spy Hearer)} (found : s.spies[k]? = some m) :
    s.hearers (.spy k) = m.part.listeners.toList := by
  rw [hearers, found, Option.map_some, Option.getD_some]

theorem Stage.le_count_preference {m : Mounted (Preference Hearer)} (found : s.stores[k]? = some m)
    (a : Hearer) :
    m.part.listeners.toList.count a ≤ (s.hearers (.preference k)).count a :=
  Nat.le_of_eq (by rw [hearers_preference found])

theorem Stage.le_count_spy {m : Mounted (Spy Hearer)} (found : s.spies[k]? = some m) (a : Hearer) :
    m.part.listeners.toList.count a ≤ (s.hearers (.spy k)).count a :=
  Nat.le_of_eq (by rw [hearers_spy found])

theorem Stage.count_hearers_le {a : Hearer} {bound : Source → Nat}
    (stores : ∀ {k : Nat} {m : Mounted (Preference Hearer)}, s.stores[k]? = some m →
      m.part.listeners.toList.count a ≤ bound (.preference k))
    (spies : ∀ {k : Nat} {m : Mounted (Spy Hearer)}, s.spies[k]? = some m →
      m.part.listeners.toList.count a ≤ bound (.spy k)) (source : Source) :
    (s.hearers source).count a ≤ bound source := by
  cases source with
  | preference k =>
    cases found : s.stores[k]? with
    | none => simp [hearers, found]
    | some m =>
      rw [hearers_preference found]
      exact stores found
  | spy k =>
    cases found : s.spies[k]? with
    | none => simp [hearers, found]
    | some m =>
      rw [hearers_spy found]
      exact spies found

def NoNewMenuHearer (s s' : Stage) : Prop :=
  ∀ (i : Nat) (source : Source), (s'.hearers source).count (.menu i) ≤
    (s.hearers source).count (.menu i)

namespace NoNewMenuHearer

theorem of_same (stores : s'.stores = s.stores) (spies : s'.spies = s.spies) :
    NoNewMenuHearer s s' := by
  intro i
  refine Stage.count_hearers_le (fun found ↦ ?_) fun found ↦ ?_
  · rw [stores] at found
    exact Stage.le_count_preference found _
  · rw [spies] at found
    exact Stage.le_count_spy found _

theorem trans (first : NoNewMenuHearer s s') (next : NoNewMenuHearer s' s'') :
    NoNewMenuHearer s s'' := by
  intro i source
  exact Nat.le_trans (next i source) (first i source)

theorem setStore {m : Mounted (Preference Hearer)} {p : Preference Hearer}
    (found : s.stores[k]? = some m)
    (fewer : ∀ i, p.listeners.toList.count (.menu i) ≤ m.part.listeners.toList.count (.menu i)) :
    NoNewMenuHearer s (s.setStore k p) := by
  intro i
  refine Stage.count_hearers_le (fun {k' m'} found' ↦ ?_) fun found' ↦ ?_
  · rw [Stage.getElem?_setStore found] at found'
    split at found'
    · subst k'
      cases found'
      exact Nat.le_trans (fewer i) (Stage.le_count_preference found _)
    · exact Stage.le_count_preference found' _
  · exact Stage.le_count_spy (s := s) found' _

theorem setSpy {m : Mounted (Spy Hearer)} {spy : Spy Hearer} (found : s.spies[k]? = some m)
    (fewer : ∀ i, spy.listeners.toList.count (.menu i) ≤ m.part.listeners.toList.count (.menu i)) :
    NoNewMenuHearer s (s.setSpy k spy) := by
  intro i
  refine Stage.count_hearers_le (fun found' ↦ ?_) fun {k' m'} found' ↦ ?_
  · exact Stage.le_count_preference (s := s) found' _
  · rw [Stage.getElem?_setSpy found] at found'
    split at found'
    · subst k'
      cases found'
      exact Nat.le_trans (fewer i) (Stage.le_count_spy found _)
    · exact Stage.le_count_spy found' _

theorem setSpy_same {m : Mounted (Spy Hearer)} {spy : Spy Hearer} (found : s.spies[k]? = some m)
    (same : spy.listeners = m.part.listeners) : NoNewMenuHearer s (s.setSpy k spy) :=
  setSpy found fun i ↦ Nat.le_of_eq (by rw [same])

theorem addStore (store : Mounted (Preference Hearer)) (none : store.part.listeners.toList = [])
    (stores : s'.stores = s.stores ++ [store]) (spies : s'.spies = s.spies) :
    NoNewMenuHearer s s' := by
  intro i
  refine Stage.count_hearers_le (fun found ↦ ?_) fun found ↦ ?_
  · rw [stores] at found
    obtain old | ⟨-, rfl⟩ := getElem?_concat found
    · exact Stage.le_count_preference old _
    · simp [none]
  · rw [spies] at found
    exact Stage.le_count_spy found _

theorem addSpy (spy : Mounted (Spy Hearer)) (none : spy.part.listeners.toList = [])
    (stores : s'.stores = s.stores) (spies : s'.spies = s.spies ++ [spy]) :
    NoNewMenuHearer s s' := by
  intro i
  refine Stage.count_hearers_le (fun found ↦ ?_) fun found ↦ ?_
  · rw [stores] at found
    exact Stage.le_count_preference found _
  · rw [spies] at found
    obtain old | ⟨-, rfl⟩ := getElem?_concat found
    · exact Stage.le_count_spy old _
    · simp [none]

theorem disconnect (link : Option Link) : NoNewMenuHearer s (s.disconnect link) :=
  .of_same (by cases link <;> rfl) (Stage.spies_disconnect link)

theorem disposeSpy (n : Nat) : NoNewMenuHearer s (s.disposeSpy n) := by
  cases found : s.spies[n]? with
  | none =>
    rw [Stage.disposeSpy, found]
    exact .of_same rfl rfl
  | some m =>
    rw [Stage.disposeSpy_eq found]
    have disposed : NoNewMenuHearer s (s.setSpy n m.part.dispose) := setSpy_same found rfl
    exact disposed.trans (.disconnect _)

theorem unsubscribeStore (token : Nat) : NoNewMenuHearer s (s.unsubscribeStore k token) := by
  unfold Stage.unsubscribeStore
  split
  · exact .of_same rfl rfl
  · exact .setStore ‹_› fun i ↦ Subscribers.count_remove_le _ token _

theorem releaseMenu (n : Nat) : NoNewMenuHearer s (s.releaseMenu n) := by
  cases found : s.menus[n]? with
  | none =>
    rw [Stage.releaseMenu, found]
    exact .of_same rfl rfl
  | some m =>
    rw [Stage.releaseMenu_eq found]
    have observed : NoNewMenuHearer s (s.unobserve m) := by
      unfold Stage.unobserve
      cases m.contents with
      | none => exact .of_same rfl rfl
      | some c => exact .disposeSpy c.spy
    cases m.themeToken with
    | none => exact observed
    | some token =>
      have given : NoNewMenuHearer s ((s.unobserve m).setMenu n { m with themeToken := none }) :=
        observed.trans (.of_same rfl rfl)
      exact given.trans (.unsubscribeStore token)

theorem reclaimOld (o : Option Object) : NoNewMenuHearer s (s.reclaimOld o) := by
  cases o with
  | none => exact .of_same rfl rfl
  | some o =>
    rw [Stage.reclaimOld, Stage.reclaim]
    split
    · exact .of_same rfl rfl
    · cases o with
      | spy k => exact .disposeSpy k
      | menu k =>
        have released : NoNewMenuHearer s (s.releaseMenu k) := .releaseMenu k
        exact released.trans (.of_same rfl rfl)

end NoNewMenuHearer

/-- One menu is added, and is subscribed to what it shows. -/
structure Joins (s s' : Stage) (menu : Menu) : Prop where
  menus : s'.menus = s.menus ++ [menu]
  hearers : ∀ (i : Nat) (source : Source), (s'.hearers source).count (.menu i) ≤
    (s.hearers source).count (.menu i) + if i = s.menus.length ∧ menu.follows source then 1 else 0

theorem Joins.frame {s₁ : Stage} {menu : Menu} (h : Joins s s' menu) (menus : s₁.menus = s'.menus)
    (stores : s₁.stores = s'.stores) (spies : s₁.spies = s'.spies) : Joins s s₁ menu where
  menus := menus.trans h.menus
  hearers i source :=
    Nat.le_trans (NoNewMenuHearer.of_same stores spies i source) (h.hearers i source)

theorem Joins.addMenu {s₁ : Stage} {m : Mounted (Preference Hearer)} {contents : Option Contents}
    (spies : ∀ (j : Nat) (spy : Mounted (Spy Hearer)), s₁.spies[j]? = some spy → ∀ i,
      spy.part.listeners.toList.count (.menu i) ≤ (s.hearers (.spy j)).count (.menu i) +
        if i = s.menus.length ∧ contents.map Contents.spy = some j then 1 else 0)
    (found : s.stores[k]? = some m) (stores : s₁.stores = s.stores) (menus : s₁.menus = s.menus) :
    Joins s (s₁.addMenu k m.part contents)
    { store := k, contents, themeToken := some m.part.listeners.next } where
  menus := by rw [Stage.addMenu, menus]
  hearers i := by
    refine Stage.count_hearers_le (fun {k' m'} found' ↦ ?_) fun found' ↦ ?_
    · have found₁ : s₁.stores[k]? = some m := stores ▸ found
      have after : (s₁.setStore k (m.part.subscribe (.menu s₁.menus.length))).stores[k']? =
          some m' := found'
      rw [Stage.getElem?_setStore found₁] at after
      split at after
      · rename_i same
        subst same
        cases after
        rw [Preference.subscribe, Subscribers.toList_add, List.count_append, menus,
          Stage.hearers_preference found]
        refine Nat.add_le_add_left ?_ _
        by_cases last : i = s.menus.length
        · simp [last, Menu.follows]
        · simp [last, Ne.symm last]
      · rw [stores] at after
        exact Nat.le_trans (Stage.le_count_preference after _) (Nat.le_add_right _ _)
    · simpa [Menu.follows, Menu.spy?] using spies _ _ found' i

/-- Only new menus subscribe, each to what it shows. -/
theorem Edit.hearers (e : Edit may s ts s' ts') :
    NoNewMenuHearer s s' ∨ ∃ (s₁ : Stage) (menu : Menu) (o : Option Object), Joins s s₁ menu ∧
      s' = s₁.reclaimOld o := by
  have probe {l : Subscribers Hearer} (p i : Nat) :
      (l.add (.probe p)).toList.count (.menu i) ≤ l.toList.count (.menu i) := by simp
  have watched {k : Nat} {m : Mounted (Spy Hearer)} {spy : Spy Hearer} {s' : Stage}
      (found : s.spies[k]? = some m)
      (spies : s'.spies = (s.setSpy k spy).spies) (stores : s'.stores = s.stores)
      (same : spy.listeners = m.part.listeners) : NoNewMenuHearer s s' := by
    have set : NoNewMenuHearer s (s.setSpy k spy) := .setSpy_same found same
    exact set.trans (.of_same stores spies)
  cases e with
  | skip | push | animate | handOn | passOn | amend | inform | emit | openPage | faults | watch
  | dropStore | createScroller | setOpen | listenMenu | tellMenu | deaf | redraw | unseen | hold =>
    exact .inl (.of_same rfl rfl)
  | keepHandle | freeHandle | dropHandle =>
    refine .inl (NoNewMenuHearer.trans ?_ (.disconnect _))
    exact .of_same rfl rfl
  | createStore name key => exact .inl (.addStore ⟨s.current, { key }⟩ rfl rfl rfl)
  | adopt found listeners => exact .inl (.setStore found fun i ↦ Nat.le_of_eq (by rw [listeners]))
  | subscribeStore found p => exact .inl (.setStore found (probe p))
  | unsubscribeStore => exact .inl (.unsubscribeStore _)
  | observe found | observeNothing found => exact .inl (watched found rfl rfl rfl)
  | keepWatch =>
    unfold Stage.keepWatch
    split
    · exact .inl (.of_same rfl rfl)
    · exact .inl (watched ‹_› rfl rfl rfl)
  | disposeSpy => exact .inl (.disposeSpy _)
  | subscribeSpy found p => exact .inl (.setSpy found (probe p))
  | unsubscribeSpy found => exact .inl (.setSpy found fun i ↦ Subscribers.count_remove_le _ _ _)
  | receive found moved =>
    obtain ⟨-, id, -, -, rfl⟩ := Spy.receive?_eq_some moved
    exact .inl (watched found rfl rfl rfl)
  | disposeMenu => exact .inl (.releaseMenu _)
  | @createSpy _ _ _ band registry =>
    refine .inl (NoNewMenuHearer.trans ?_ (.reclaimOld _))
    exact .addSpy ⟨s.current, { registry, band }⟩ rfl rfl rfl
  | shareMenu =>
    refine .inl (NoNewMenuHearer.trans ?_ (.reclaimOld _))
    exact .of_same rfl rfl
  | dropSpy | dropMenu | letGo =>
    refine .inl (NoNewMenuHearer.trans ?_ (.reclaimOld (some _)))
    exact .of_same rfl rfl
  | createMenu found name registry headerOffset band =>
    have spies (j : Nat) (spy : Mounted (Spy Hearer))
        (present : (s.addContents registry band).spies[j]? = some spy)
        (i : Nat) : spy.part.listeners.toList.count (.menu i) ≤
          (s.hearers (.spy j)).count (.menu i) +
          if i = s.menus.length ∧
          (some (Contents.mk s.spies.length ⟨headerOffset⟩)).map Contents.spy = some j
          then 1 else 0 := by
      obtain old | ⟨rfl, rfl⟩ := getElem?_concat present
      · exact Nat.le_trans (Stage.le_count_spy old _) (Nat.le_add_right _ _)
      · have only : [Hearer.menu s.menus.length].count (.menu i) ≤ if i = s.menus.length then 1
            else 0 := by
          by_cases last : i = s.menus.length
          · simp [last]
          · simp [last, Ne.symm last]
        simp only [Option.map_some, and_true]
        exact Nat.le_trans only (Nat.le_add_left _ _)
    refine .inr ⟨_, _, _, (Joins.addMenu spies found rfl rfl).frame ?_ ?_ ?_, rfl⟩ <;> rfl
  | createBare found name =>
    have spies (j : Nat) (spy : Mounted (Spy Hearer)) (present : s.spies[j]? = some spy) (i : Nat) :
        spy.part.listeners.toList.count (.menu i) ≤ (s.hearers (.spy j)).count (.menu i) +
          if i = s.menus.length ∧ (none : Option Contents).map Contents.spy = some j then 1
          else 0 :=
      Nat.le_trans (Stage.le_count_spy present _) (Nat.le_add_right _ _)
    refine .inr ⟨_, _, _, (Joins.addMenu spies found rfl rfl).frame ?_ ?_ ?_, rfl⟩ <;> rfl

namespace Stage

variable {i : Nat} {m : Menu}

theorem keepsMenu_releaseMenu (found : s.menus[i]? = some m) :
    ∃ m', (s.releaseMenu n).menus[i]? = some m' ∧ m'.store = m.store ∧
      m'.contents = m.contents := by
  rw [getElem?_releaseMenu, found, Option.map_some]
  refine ⟨_, rfl, ?_⟩
  split <;> exact ⟨rfl, rfl⟩

theorem keepsMenu_reclaimOld {o : Option Object} (found : s.menus[i]? = some m) :
    ∃ m', (s.reclaimOld o).menus[i]? = some m' ∧ m'.store = m.store ∧ m'.contents = m.contents := by
  cases o with
  | none => exact ⟨m, found, rfl, rfl⟩
  | some o =>
    rw [reclaimOld, reclaim]
    split
    · exact ⟨m, found, rfl, rfl⟩
    · rw [getElem?_destroy, found, Option.map_some]
      refine ⟨_, rfl, ?_⟩
      split <;> exact ⟨rfl, rfl⟩

theorem keepsMenu_setMenu {menu menu' : Menu} (found : s.menus[i]? = some m)
    (present : s.menus[n]? = some menu) (store : menu'.store = menu.store)
    (contents : menu'.contents = menu.contents) :
    ∃ m', (s.setMenu n menu').menus[i]? = some m' ∧ m'.store = m.store ∧
      m'.contents = m.contents := by
  rw [getElem?_setMenu present]
  split
  · subst i
    cases found.symm.trans present
    exact ⟨menu', rfl, store, contents⟩
  · exact ⟨m, found, rfl, rfl⟩

end Stage

/-- A menu goes on to show the same preference and the same spy. -/
theorem Edit.keepsMenu {i : Nat} {m : Menu} (e : Edit may s ts s' ts')
    (found : s.menus[i]? = some m) :
    ∃ m', s'.menus[i]? = some m' ∧ m'.store = m.store ∧ m'.contents = m.contents := by
  cases e with
  | skip | push | animate | handOn | passOn | amend | inform | emit | openPage | faults | watch
  | createStore | adopt | subscribeStore | dropStore | observe | observeNothing | subscribeSpy
  | unsubscribeSpy | receive | createScroller | tellMenu | deaf | unseen | hold =>
    exact ⟨m, found, rfl, rfl⟩
  | keepHandle | freeHandle => exact ⟨m, by rwa [Stage.menus_nameHandle], rfl, rfl⟩
  | dropHandle => exact ⟨m, by rwa [Stage.menus_dropHandle], rfl, rfl⟩
  | unsubscribeStore => exact ⟨m, by rwa [Stage.menus_unsubscribeStore], rfl, rfl⟩
  | keepWatch => exact ⟨m, by rwa [Stage.menus_keepWatch], rfl, rfl⟩
  | disposeSpy => exact ⟨m, by rwa [Stage.menus_disposeSpy], rfl, rfl⟩
  | disposeMenu => exact Stage.keepsMenu_releaseMenu found
  | setOpen present => exact Stage.keepsMenu_setMenu found present rfl rfl
  | listenMenu _ present => exact Stage.keepsMenu_setMenu found present rfl rfl
  | redraw _ present => exact Stage.keepsMenu_setMenu found present rfl rfl
  | createSpy | shareMenu =>
    refine Stage.keepsMenu_reclaimOld ?_
    exact found
  | dropSpy | dropMenu | letGo =>
    refine Stage.keepsMenu_reclaimOld (o := some _) ?_
    exact found
  | createMenu | createBare =>
    refine Stage.keepsMenu_reclaimOld ?_
    exact getElem?_append_of_some found _

def MenusHearOnce (s : Stage) : Prop :=
  ∀ (i : Nat) (source : Source), (s.hearers source).count (.menu i) ≤
    if s.menus[i]?.any (·.follows source) then 1 else 0

theorem MenusHearOnce.edit (h : MenusHearOnce s) (e : Edit may s ts s' ts') : MenusHearOnce s' := by
  intro i source
  have bound := h i source
  cases found : s.menus[i]? with
  | some m =>
    obtain ⟨m', found', store, contents⟩ := e.keepsMenu found
    rw [found] at bound
    rw [found', Option.any_some, Menu.follows_congr store contents]
    refine Nat.le_trans ?_ bound
    obtain noNewMenuHearer | ⟨s₁, menu, o, joins, rfl⟩ := e.hearers
    · exact noNewMenuHearer i source
    · have old : i ≠ s.menus.length := Nat.ne_of_lt (List.getElem?_eq_some_iff.1 found).1
      have joined := joins.hearers i source
      rw [if_neg fun new ↦ old new.1] at joined
      exact Nat.le_trans (NoNewMenuHearer.reclaimOld o i source) joined
  | none =>
    have none : (s.hearers source).count (.menu i) = 0 := by simpa [found] using bound
    obtain noNewMenuHearer | ⟨s₁, menu, o, joins, rfl⟩ := e.hearers
    · have fewer := noNewMenuHearer i source
      omega
    · have joined := Nat.le_trans (NoNewMenuHearer.reclaimOld o i source) (joins.hearers i source)
      rw [none, Nat.zero_add] at joined
      refine Nat.le_trans joined ?_
      split
      · rename_i new
        obtain ⟨rfl, follows⟩ := new
        have last : s₁.menus[s.menus.length]? = some menu := by
          rw [joins.menus, List.getElem?_concat_length]
        obtain ⟨m', found', store, contents⟩ := Stage.keepsMenu_reclaimOld (o := o) last
        refine Nat.le_of_eq (Eq.symm ?_)
        rw [found', Option.any_some, Menu.follows_congr store contents, if_pos follows]
      · exact Nat.zero_le _

def Unshared (s : Stage) : Prop :=
  ∀ (i j k : Nat) (m m' : Menu), s.menus[i]? = some m → s.menus[j]? = some m' → m.spy? = some k →
    m'.spy? = some k → i = j

theorem Unshared.edit (h : Unshared s) (owned : Private s) (e : Edit may s ts s' ts') :
    Unshared s' := by
  have origin {i k : Nat} {m : Menu} (found : s'.menus[i]? = some m) (spy : m.spy? = some k) :
      (∃ m₀, s.menus[i]? = some m₀ ∧ m₀.spy? = some k ∧ k < s.spies.length) ∨
        k = s.spies.length ∧ i = s.menus.length := by
    obtain ⟨c, contents, rfl⟩ := Option.map_eq_some_iff.1 spy
    have change := e.menu found
    cases before : s.menus[i]? with
    | none =>
      rw [before] at change
      cases change with
      | made _ _ spy _ last => exact .inr ⟨(spy c contents).1, last⟩
    | some m₀ =>
      rw [before] at change
      have same : m₀.contents = some c := change.contents ▸ contents
      exact .inl ⟨m₀, rfl, by rw [Menu.spy?, same, Option.map_some], owned.bound before same⟩
  intro i j k m m' found found' spy spy'
  obtain ⟨m₀, before, old, bound⟩ | ⟨new, last⟩ := origin found spy
  · obtain ⟨m₁, before', old', -⟩ | ⟨new, -⟩ := origin found' spy'
    · exact h i j k m₀ m₁ before before' old old'
    · omega
  · obtain ⟨-, -, -, bound⟩ | ⟨-, last'⟩ := origin found' spy'
    · omega
    · omega

section Runs

variable {past : List Move} {m : Machine} {jobs : List Job} {menu : Menu}

theorem History.mirrored (run : History (fun s step ↦ step.sparesMenus s) past m jobs) :
    Private m.stage ∧ Mirrored m.stage (Awaited (errandsOf jobs)) :=
  run.keeps (I := fun s ts ↦ Private s ∧ Mirrored s (Awaited ts))
    (fun page ↦ ⟨private_opened page.build, mirrored_opened page.build⟩)
    fun e h ↦ ⟨h.1.edit e, h.2.edit_of_spares h.1 (fun _ _ allowed ↦ allowed) e⟩

theorem History.unshared {may : Stage → Step → Prop} (run : History may past m jobs) :
    Unshared m.stage := by
  have invariant : Private m.stage ∧ Unshared m.stage := by
    refine run.keeps (I := fun s _ ↦ Private s ∧ Unshared s)
      (fun page ↦ ⟨private_opened page.build, ?_⟩)
      fun e h ↦ ⟨h.1.edit e, h.2.edit h.1 e⟩
    intro i j k m m' found
    cases found
  exact invariant.2

/-- A menu with a subscription to its preference hears of each thing it shows once, and of nothing
else. -/
theorem History.count_hearers (run : History (fun s step ↦ step.sparesMenus s) past m jobs)
    (found : m.stage.menus[n]? = some menu) (token : menu.themeToken.isSome) (source : Source) :
    (m.stage.hearers source).count (.menu n) = if menu.follows source then 1 else 0 := by
  have menusHearOnce : MenusHearOnce m.stage := by
    refine run.keeps (I := fun s _ ↦ MenusHearOnce s) (fun page i source ↦ ?_) fun e h ↦ h.edit e
    cases source <;> simp [Stage.hearers]
  have most := menusHearOnce n source
  rw [found, Option.any_some] at most
  refine Nat.le_antisymm most ?_
  split
  · rename_i follows
    refine List.count_pos_iff.2 ?_
    cases source with
    | preference k =>
      obtain ⟨number, subscribed⟩ := Option.isSome_iff_exists.1 token
      obtain ⟨store, present, entry⟩ := run.mirrored.2.hears found subscribed
      obtain rfl : menu.store = k := of_decide_eq_true follows
      rw [Stage.hearers_preference present]
      exact Subscribers.mem_toList.2 ⟨number, entry⟩
    | spy k =>
      obtain ⟨c, contents, rfl⟩ := Option.map_eq_some_iff.1 (of_decide_eq_true follows)
      obtain ⟨spy, present, member⟩ := run.mirrored.2.follows found contents
      rw [Stage.hearers_spy present]
      exact member
  · exact Nat.zero_le _

end Runs

end Session

end Wayfinder
