import Wayfinder.Proofs.Edit

namespace Wayfinder.Session

variable {may : Stage → Job → Prop} {s s' : Stage} {ts ts' : List Errand} {n : Nat}

inductive MenuChange (may : Stage → Job → Prop) (s s' : Stage) (n : Nat) : Option Menu → Menu → Prop
  | made {m : Menu} (viewer : m.viewer = none) (token : m.alive → m.themeToken.isSome)
      (spy : ∀ c, m.contents = some c → c.spy = s.spies.length ∧ s.spies.length < s'.spies.length ∧
        s'.names.spies = s.names.spies) (store : ∃ p, s.stores[m.store]? = some p)
        (last : n = s.menus.length)
      (dead : m.alive = false → m.themeToken = none) : MenuChange may s s' n none m
  | kept {m m' : Menu} (contents : m'.contents = m.contents) (viewer : m'.viewer = m.viewer)
      (alive : m'.alive = m.alive) (token : m'.themeToken = m.themeToken)
      (store : m'.store = m.store) :
      MenuChange may s s' n (some m) m'
  | retired {m m' : Menu} (contents : m'.contents = m.contents) (viewer : m'.viewer = m.viewer)
      (gone : m'.alive = false) (store : m'.store = m.store) (token : m'.themeToken = none) :
      MenuChange may s s' n (some m) m'
  | disposed {m m' : Menu} {name : String} (contents : m'.contents = m.contents)
      (viewer : m'.viewer = m.viewer) (allowed : may s (.act (.menu name .dispose)))
      (named : s.names.menus.get? name = some n) (store : m'.store = m.store)
      (alive : m'.alive = m.alive) (token : m'.themeToken = none) :
      MenuChange may s s' n (some m) m'
  | redrawn {m m' : Menu} (contents : m'.contents = m.contents)
      (allowed : may s (.errand (.redraw n))) (alive : m'.alive = m.alive)
      (token : m'.themeToken = m.themeToken) (store : m'.store = m.store) :
      MenuChange may s s' n (some m) m'
  | heard {m m' : Menu} {name label : String} {script : List Step} {limit : Nat}
      (contents : m'.contents = m.contents)
      (allowed : may s (.act (.listen (.menu name) label script limit)))
      (alive : m'.alive = m.alive) (token : m'.themeToken = m.themeToken)
      (store : m'.store = m.store) : MenuChange may s s' n (some m) m'

namespace MenuChange

theorem of_stays {m' : Menu}
    (stays : ∃ m, s.menus[n]? = some m ∧
      (m' = m ∨ m' = { m with themeToken := none, alive := false })) :
    MenuChange may s s' n s.menus[n]? m' := by
  obtain ⟨m, found, stays⟩ := stays
  rw [found]
  obtain rfl | rfl := stays
  · exact .kept rfl rfl rfl rfl rfl
  · exact .retired rfl rfl rfl rfl rfl

theorem of_made {m' fresh : Menu}
    (stays : ∃ m, (s.menus ++ [fresh])[n]? = some m ∧
      (m' = m ∨ m' = { m with themeToken := none, alive := false }))
    (viewer : fresh.viewer = none) (alive : fresh.alive) (token : fresh.themeToken.isSome)
    (spy : ∀ c, fresh.contents = some c → c.spy = s.spies.length ∧
      s.spies.length < s'.spies.length ∧
      s'.names.spies = s.names.spies) (store : ∃ p, s.stores[fresh.store]? = some p) :
    MenuChange may s s' n s.menus[n]? m' := by
  obtain ⟨m, found, stays⟩ := stays
  obtain found | ⟨last, rfl⟩ := getElem?_concat found
  · exact .of_stays ⟨m, found, stays⟩
  · rw [List.getElem?_eq_none (Nat.le_of_eq last.symm)]
    obtain rfl | rfl := stays
    · exact .made viewer (fun _ ↦ token) spy store last fun dead ↦ by simp [alive] at dead
    · exact .made viewer (by simp) spy store last fun _ ↦ rfl

theorem of_same {m' : Menu} (found : s.menus[n]? = some m') :
    MenuChange may s s' n s.menus[n]? m' := by
  rw [found]
  exact .kept rfl rfl rfl rfl rfl

theorem contents {m m' : Menu} (change : MenuChange may s s' n (some m) m') :
    m'.contents = m.contents := by
  cases change <;> assumption

theorem store {m m' : Menu} (change : MenuChange may s s' n (some m) m') : m'.store = m.store := by
  cases change <;> assumption

end MenuChange

theorem Edit.menu (e : Edit may s ts s' ts') {m' : Menu} (found : s'.menus[n]? = some m') :
    MenuChange may s s' n s.menus[n]? m' := by
  cases e with
  | skip | push | animate | handOn | passOn | amend | inform | emit | openPage | faults | watch
  | createStore | adopt | subscribeStore | dropStore | observe | observeNothing | subscribeSpy
  | unsubscribeSpy | receive | createScroller | tellMenu | deaf | unseen | hold =>
    exact .of_same found
  | keepHandle | freeHandle => exact .of_same (Stage.menus_nameHandle _ _ ▸ found)
  | dropHandle => exact .of_same (Stage.menus_dropHandle _ _ ▸ found)
  | keepWatch => exact .of_same (Stage.menus_keepWatch _ ▸ found)
  | disposeSpy => exact .of_same (Stage.menus_disposeSpy ▸ found)
  | unsubscribeStore => exact .of_same (Stage.menus_unsubscribeStore _ ▸ found)
  | createSpy | shareMenu =>
    have stays := Stage.menu_reclaimOld found
    exact .of_stays stays
  | dropSpy | dropMenu | letGo =>
    have stays := Stage.menu_reclaim found
    exact .of_stays stays
  | createMenu present =>
    refine .of_made (Stage.menu_reclaimOld found) rfl rfl rfl ?_ ⟨_, present⟩
    rintro c ⟨rfl⟩
    refine ⟨rfl, ?_, Stage.names_nameMenu _ _⟩
    rw [Stage.createMenu, Stage.length_spies_nameMenu]
    simp [Stage.addMenu, Stage.setStore, Stage.addContents]
  | createBare present =>
    refine .of_made (Stage.menu_reclaimOld found) rfl rfl rfl ?_ ⟨_, present⟩
    intro c contents
    cases contents
  | disposeMenu allowed named =>
    rw [Stage.getElem?_releaseMenu] at found
    obtain ⟨m, found', rfl⟩ := Option.map_eq_some_iff.1 found
    rw [found']
    split
    · subst n
      exact .disposed rfl rfl allowed named rfl rfl rfl
    · exact .kept rfl rfl rfl rfl rfl
  | setOpen found' isOpen =>
    rw [Stage.getElem?_setMenu found'] at found
    split at found
    · cases found
      subst n
      rw [found']
      exact .kept rfl rfl rfl rfl rfl
    · exact .of_same found
  | listenMenu allowed found' probe =>
    rw [Stage.listenMenu, Stage.getElem?_setMenu found'] at found
    split at found
    · cases found
      subst n
      rw [found']
      exact .heard rfl allowed rfl rfl rfl
    · exact .of_same found
  | redraw allowed found' viewer =>
    rw [Stage.getElem?_setMenu found'] at found
    split at found
    · cases found
      subst n
      rw [found']
      exact .redrawn rfl allowed rfl rfl rfl
    · exact .of_same found

structure Enrolls (s s' : Stage) : Prop where
  length : s.spies.length ≤ s'.spies.length
  named : ∀ {name : String} {n : Nat}, s'.names.spies.get? name = some n →
    s.names.spies.get? name = some n ∨ n = s.spies.length ∧ s.spies.length < s'.spies.length

theorem Enrolls.of_same (names : s'.names.spies = s.names.spies)
    (length : s'.spies.length = s.spies.length) :
    Enrolls s s' :=
  ⟨Nat.le_of_eq length.symm, fun given ↦ .inl (names ▸ given)⟩

theorem Enrolls.disconnect (h : Enrolls s s') (link : Option Link) :
    Enrolls s (s'.disconnect link) := by
  rcases h with ⟨length, named⟩
  exact ⟨by rwa [Stage.spies_disconnect], by rwa [Stage.names_disconnect, Stage.spies_disconnect]⟩

theorem Enrolls.reclaimOld (h : Enrolls s s') (o : Option Object) :
    Enrolls s (s'.reclaimOld o) := by
  rcases h with ⟨length, named⟩
  exact ⟨by rwa [Stage.length_spies_reclaimOld], by
    rwa [Stage.names_reclaimOld, Stage.length_spies_reclaimOld]⟩

theorem Enrolls.reclaim (h : Enrolls s s') (o : Object) : Enrolls s (s'.reclaim o) :=
  h.reclaimOld (some o)

theorem Edit.enrolls (e : Edit may s ts s' ts') : Enrolls s s' := by
  cases e with
  | skip | push | animate | handOn | passOn | amend | inform | emit | openPage | faults | watch
  | createStore | adopt | subscribeStore | dropStore | createScroller | setOpen | listenMenu
  | tellMenu | deaf | redraw | unseen | hold =>
    exact .of_same rfl rfl
  | observe | observeNothing | subscribeSpy | unsubscribeSpy | receive =>
    exact .of_same rfl (by simp [Stage.setSpy, Stage.setDocument])
  | keepHandle | freeHandle | dropHandle =>
    refine Enrolls.disconnect ?_ _
    exact .of_same rfl rfl
  | unsubscribeStore =>
    unfold Stage.unsubscribeStore
    split <;> exact .of_same rfl rfl
  | keepWatch =>
    unfold Stage.keepWatch
    split
    · exact .of_same rfl rfl
    · exact .of_same rfl (by simp [Stage.setSpy])
  | disposeSpy => exact .of_same (by rw [Stage.names_disposeSpy]) Stage.length_spies_disposeSpy
  | disposeMenu => exact .of_same (by rw [Stage.names_releaseMenu]) Stage.length_spies_releaseMenu
  | shareMenu =>
    refine Enrolls.reclaimOld ?_ _
    exact .of_same rfl rfl
  | dropMenu | letGo =>
    refine Enrolls.reclaim ?_ _
    exact .of_same rfl rfl
  | createSpy =>
    refine Enrolls.reclaimOld ?_ _
    refine ⟨by simp, fun given ↦ ?_⟩
    rw [Table.get?_insert] at given
    split at given
    · cases given
      exact .inr ⟨rfl, by simp⟩
    · exact .inl given
  | dropSpy =>
    refine Enrolls.reclaim ?_ _
    refine ⟨Nat.le_refl _, fun given ↦ .inl ?_⟩
    rw [Table.get?_erase] at given
    split at given
    · cases given
    · exact given
  | createMenu =>
    refine Enrolls.reclaimOld ?_ _
    refine ⟨?_, .inl⟩
    simp [Stage.addMenu, Stage.setStore, Stage.addContents]
  | createBare =>
    refine Enrolls.reclaimOld ?_ _
    exact .of_same rfl rfl

/-- Spies that go by a name belong to no menu. -/
structure Private (s : Stage) : Prop where
  named : ∀ {name : String} {k : Nat}, s.names.spies.get? name = some k → k < s.spies.length
  bound : ∀ {n : Nat} {m : Menu} {c : Contents},
    s.menus[n]? = some m → m.contents = some c → c.spy < s.spies.length
  apart : ∀ {name : String} {n k : Nat} {m : Menu} {c : Contents},
    s.names.spies.get? name = some k →
    s.menus[n]? = some m → m.contents = some c → c.spy ≠ k

theorem Edit.contents (e : Edit may s ts s' ts') {m' : Menu} {c : Contents}
    (found : s'.menus[n]? = some m') (contents : m'.contents = some c) :
    (∃ m, s.menus[n]? = some m ∧ m.contents = some c) ∨
      c.spy = s.spies.length ∧ s.spies.length < s'.spies.length ∧
      s'.names.spies = s.names.spies := by
  have change := e.menu found
  cases before : s.menus[n]? with
  | none =>
    rw [before] at change
    cases change with
    | made _ _ spy => exact .inr (spy c contents)
  | some m =>
    rw [before] at change
    exact .inl ⟨m, rfl, change.contents ▸ contents⟩

theorem Private.edit (h : Private s) (e : Edit may s ts s' ts') : Private s' where
  named given := by
    obtain given | ⟨rfl, more⟩ := e.enrolls.named given
    · exact Nat.lt_of_lt_of_le (h.named given) e.enrolls.length
    · exact more
  bound found contents := by
    obtain ⟨m, found, contents⟩ | ⟨last, more, -⟩ := e.contents found contents
    · exact Nat.lt_of_lt_of_le (h.bound found contents) e.enrolls.length
    · exact last ▸ more
  apart {name n k m c} given found contents := by
    obtain ⟨m, found, contents⟩ | ⟨last, -, names⟩ := e.contents found contents
    · obtain given | ⟨rfl, -⟩ := e.enrolls.named given
      · exact h.apart given found contents
      · exact Nat.ne_of_lt (h.bound found contents)
    · rw [names] at given
      exact last ▸ Nat.ne_of_gt (h.named given)

theorem private_opened (d : Document Receiver) : Private { documents := [d] } := by
  constructor <;> intros <;> contradiction

end Wayfinder.Session
