import Wayfinder.Proofs.Course
import Wayfinder.Proofs.Hearers
import Wayfinder.Proofs.Holders

namespace Wayfinder

theorem Table.any_of_erase {α : Type} {t : Table α} {key : String} {p : α → Bool}
    (any : (t.erase key).any p) :
    t.any p := by
  obtain ⟨e, member, holds⟩ := List.any_eq_true.1 any
  exact List.any_eq_true.2 ⟨e, List.mem_of_mem_filter member, holds⟩

namespace Session

variable {may : Stage → Job → Prop} {s s' : Stage} {ts ts' : List Errand} {n : Nat}

section Names

namespace Stage

theorem isNamed_of_calls {o : Object} (called : s.Calls o) : s.isNamed o := by
  cases o with
  | spy n =>
    obtain ⟨name, named⟩ := called
    exact Table.any_of_get? (p := (· = n)) named (by simp)
  | menu n =>
    obtain ⟨name, named⟩ := called
    exact Table.any_of_get? (p := (· = n)) named (by simp)

/-- A menu that goes by a name is not done away with. -/
theorem menu_reclaimOld_of_isNamed {o : Option Object} (named : s.isNamed (.menu n)) :
    (s.reclaimOld o).menus[n]? = s.menus[n]? := by
  cases o with
  | none => rfl
  | some o =>
    rw [reclaimOld, reclaim]
    split
    · rfl
    · rename_i unheld
      have other : o ≠ .menu n := by
        rintro rfl
        simp [isHeld, named] at unheld
      rw [getElem?_destroy]
      simp [other]

def NamedMenusAlive (s : Stage) : Prop :=
  ∀ n, s.isNamed (.menu n) → ∃ m, s.menus[n]? = some m ∧ m.alive

namespace NamedMenusAlive

theorem frame (h : s.NamedMenusAlive) (names : ∀ n, s'.isNamed (.menu n) → s.isNamed (.menu n))
    (menus : ∀ {n : Nat} {m : Menu}, s.menus[n]? = some m → m.alive →
      ∃ m', s'.menus[n]? = some m' ∧ m'.alive) :
    s'.NamedMenusAlive := by
  intro n named
  obtain ⟨m, found, alive⟩ := h n (names n named)
  exact menus found alive

theorem of_same (h : s.NamedMenusAlive) (names : s'.names.menus = s.names.menus)
    (menus : s'.menus = s.menus) :
    s'.NamedMenusAlive := by
  refine h.frame (fun n named ↦ ?_) fun {n m} found alive ↦ ⟨m, by rw [menus, found], alive⟩
  rwa [isNamed, names] at named

theorem reclaimOld (h : s.NamedMenusAlive) (o : Option Object) :
    (s.reclaimOld o).NamedMenusAlive := by
  intro n named
  have named : s.isNamed (.menu n) := by rwa [isNamed, names_reclaimOld] at named
  rw [menu_reclaimOld_of_isNamed named]
  exact h n named

theorem setMenu {m m' : Menu} (h : s.NamedMenusAlive) (found : s.menus[n]? = some m)
    (alive : m'.alive = m.alive) :
    (s.setMenu n m').NamedMenusAlive := by
  refine h.frame (fun _ named ↦ named) fun {i menu} found' alive' ↦ ?_
  rw [getElem?_setMenu found]
  split
  · subst i
    cases found.symm.trans found'
    exact ⟨m', rfl, alive ▸ alive'⟩
  · exact ⟨menu, found', alive'⟩

theorem nameMenu {m : Menu} (h : s.NamedMenusAlive) (found : s.menus[n]? = some m) (alive : m.alive)
    (name : String) :
    (s.nameMenu name n).NamedMenusAlive := by
  refine reclaimOld ?_ _
  intro i named
  have given : (s.names.menus.insert name n).any (· = i) := named
  rw [Table.any_insert, Bool.or_eq_true] at given
  obtain same | kept := given
  · obtain rfl : n = i := of_decide_eq_true same
    exact ⟨m, found, alive⟩
  · exact h i (Table.any_of_erase kept)

theorem addMenu (h : s.NamedMenusAlive) (menu : Menu) (menus : s'.menus = s.menus ++ [menu])
    (names : s'.names.menus = s.names.menus) : s'.NamedMenusAlive := by
  refine h.frame (fun n named ↦ ?_) fun {n m} found alive ↦ ?_
  · rwa [isNamed, names] at named
  · exact ⟨m, by rw [menus, getElem?_append_of_some found], alive⟩

theorem edit (h : s.NamedMenusAlive) (e : Edit may s ts s' ts') : s'.NamedMenusAlive := by
  cases e with
  | skip | push | animate | handOn | passOn | amend | inform | emit | openPage | faults | watch
  | createStore | adopt | subscribeStore | dropStore | observe | observeNothing | subscribeSpy
  | unsubscribeSpy | receive | createScroller | tellMenu | deaf | unseen | hold =>
    exact h.of_same rfl rfl
  | keepHandle | freeHandle =>
    refine h.of_same ?_ (menus_nameHandle _ _)
    rw [nameHandle, names_disconnect]
  | dropHandle =>
    refine h.of_same ?_ (menus_dropHandle _ _)
    rw [dropHandle, names_disconnect]
  | unsubscribeStore =>
    unfold unsubscribeStore
    split <;> exact h.of_same rfl rfl
  | keepWatch =>
    unfold keepWatch
    split <;> exact h.of_same rfl rfl
  | disposeSpy => exact h.of_same (by rw [names_disposeSpy]) menus_disposeSpy
  | disposeMenu =>
    refine h.frame (fun n named ↦ ?_) fun {n m} found alive ↦ ?_
    · rwa [isNamed, names_releaseMenu] at named
    · rw [getElem?_releaseMenu, found, Option.map_some]
      refine ⟨_, rfl, ?_⟩
      split <;> exact alive
  | setOpen found => exact h.setMenu found rfl
  | listenMenu _ found => exact h.setMenu found rfl
  | redraw _ found => exact h.setMenu found rfl
  | createSpy =>
    refine reclaimOld ?_ _
    exact h.of_same rfl rfl
  | dropSpy | letGo =>
    refine reclaimOld (o := some _) ?_
    exact h.of_same rfl rfl
  | @createMenu _ k m found name registry headerOffset band =>
    have added : ((s.addContents registry band).addMenu k m.part
        (some ⟨s.spies.length, ⟨headerOffset⟩⟩)).NamedMenusAlive := h.addMenu _ rfl rfl
    exact added.nameMenu List.getElem?_concat_length rfl name
  | @createBare _ k m found name =>
    have added : (s.addMenu k m.part none).NamedMenusAlive := h.addMenu _ rfl rfl
    exact added.nameMenu List.getElem?_concat_length rfl name
  | shareMenu found named name =>
    obtain ⟨m, found, alive⟩ := h _ (isNamed_of_calls ⟨_, named⟩)
    exact h.nameMenu found alive name
  | @dropMenu _ name =>
    refine reclaimOld (o := some _) ?_
    refine h.frame (fun n named ↦ ?_) fun {n m} found alive ↦ ⟨m, found, alive⟩
    have given : (s.names.menus.erase name).any (· = n) := named
    exact Table.any_of_erase given

end NamedMenusAlive

end Stage

end Names

section Spies

/-- What an edit does to the objects in use: one more may be held, if it goes by a name or is a menu
that is left, or one is let go of. -/
theorem Edit.uses (e : Edit may s ts s' ts') :
    s'.inUse = s.inUse ∨
    (∃ o, s'.inUse = o :: s.inUse ∧
      (s.Calls o ∨ ∃ n m, o = .menu n ∧ s.menus[n]? = some m ∧ m.alive)) ∨
    ∃ o, s'.inUse = s.inUse.erase o := by
  cases e with
  | skip | push | animate | handOn | passOn | amend | inform | emit | openPage | faults | watch
  | createStore | adopt | subscribeStore | dropStore | observe | observeNothing | subscribeSpy
  | unsubscribeSpy | receive | createScroller | setOpen | listenMenu | redraw | deaf | unseen =>
    exact .inl rfl
  | keepHandle | freeHandle | dropHandle => exact .inl (Stage.inUse_disconnect _)
  | unsubscribeStore =>
    unfold Stage.unsubscribeStore
    split <;> exact .inl rfl
  | keepWatch =>
    unfold Stage.keepWatch
    split <;> exact .inl rfl
  | disposeSpy => exact .inl Stage.inUse_disposeSpy
  | disposeMenu => exact .inl Stage.inUse_releaseMenu
  | createSpy | createMenu | createBare | shareMenu => exact .inl Stage.inUse_reclaimOld
  | dropSpy | dropMenu => exact .inl Stage.inUse_reclaim
  | hold o called => exact .inr (.inl ⟨o, rfl, .inl called⟩)
  | tellMenu found alive => exact .inr (.inl ⟨_, rfl, .inr ⟨_, _, rfl, found, alive⟩⟩)
  | @letGo _ o => exact .inr (.inr ⟨o, Stage.inUse_reclaim⟩)

structure UsedSpiesUnowned (s : Stage) : Prop where
  below : ∀ {i : Nat}, .spy i ∈ s.inUse → i < s.spies.length
  apart : ∀ {i n : Nat} {m : Menu} {c : Contents}, .spy i ∈ s.inUse → s.menus[n]? = some m →
    m.contents = some c → c.spy ≠ i

theorem UsedSpiesUnowned.edit (h : UsedSpiesUnowned s) (owned : Private s)
    (e : Edit may s ts s' ts') : UsedSpiesUnowned s' := by
  have source {i : Nat} (used : .spy i ∈ s'.inUse) :
      .spy i ∈ s.inUse ∨ ∃ name, s.names.spies.get? name = some i := by
    obtain same | ⟨o, more, called⟩ | ⟨o, fewer⟩ := e.uses
    · exact .inl (same ▸ used)
    · rw [more] at used
      obtain rfl | used := List.mem_cons.1 used
      · obtain called | ⟨n, m, other, -⟩ := called
        · exact .inr called
        · cases other
      · exact .inl used
    · rw [fewer] at used
      exact .inl (List.mem_of_mem_erase used)
  have known {i : Nat} (used : .spy i ∈ s'.inUse) : i < s.spies.length := by
    obtain used | ⟨name, named⟩ := source used
    · exact h.below used
    · exact owned.named named
  refine ⟨fun used ↦ Nat.lt_of_lt_of_le (known used) e.enrolls.length, ?_⟩
  intro i n m c used found contents
  obtain ⟨m, found, contents⟩ | ⟨last, -⟩ := e.contents found contents
  · obtain used | ⟨name, named⟩ := source used
    · exact h.apart used found contents
    · exact owned.apart named found contents
  · have below := known used
    omega

namespace Stage

theorem post?_disposeSpy_self {p : Post} (post : s.post? n = some p) :
    (s.disposeSpy n).post? n = some ⟨p.document, .disposed, none⟩ := by
  obtain ⟨m, found, rfl⟩ := Option.map_eq_some_iff.1 post
  rw [disposeSpy_eq found, post?_disconnect, post?_setSpy found, if_pos rfl]
  rfl

theorem post?_releaseMenu_self {m : Menu} {c : Contents} {p : Post} (found : s.menus[n]? = some m)
    (contents : m.contents = some c) (post : s.post? c.spy = some p) :
    (s.releaseMenu n).post? c.spy = some ⟨p.document, .disposed, none⟩ := by
  have disposed : (s.unobserve m).post? c.spy = some ⟨p.document, .disposed, none⟩ := by
    rw [unobserve, contents]
    exact post?_disposeSpy_self post
  rw [releaseMenu_eq found]
  cases m.themeToken with
  | none => exact disposed
  | some token =>
    simp only [Option.elim_some, unsubscribeStore]
    split <;> exact disposed

theorem post?_releaseMenu_of_ne {k : Nat} (other : ¬ s.Owns (.menu n) k) :
    (s.releaseMenu n).post? k = s.post? k := by
  refine releaseMenu_ind (P := fun s' ↦ s'.post? k = s.post? k) rfl (fun h ↦ h) (fun h ↦ h)
    fun i owns ↦ ?_
  refine post?_disposeSpy_of_ne ?_
  rintro rfl
  exact other owns

end Stage

def TokenMatchesSpy (s : Stage) : Prop :=
  ∀ (n : Nat) (m : Menu) (c : Contents) (p : Post), s.menus[n]? = some m → m.contents = some c →
    s.post? c.spy = some p → (p.phase = .disposed ↔ m.themeToken = none)

namespace TokenMatchesSpy

theorem frame (h : TokenMatchesSpy s)
    (menus : ∀ {n : Nat} {m' : Menu}, s'.menus[n]? = some m' → ∃ m, s.menus[n]? = some m ∧
      m'.contents = m.contents ∧ m'.themeToken = m.themeToken)
    (posts : ∀ {n : Nat} {m : Menu} {c : Contents} {p' : Post}, s.menus[n]? = some m →
      m.contents = some c →
      s'.post? c.spy = some p' → ∃ p, s.post? c.spy = some p ∧
        (p'.phase = .disposed ↔ p.phase = .disposed)) :
    TokenMatchesSpy s' := by
  intro n m' c p' found contents post
  obtain ⟨m, before, same, token⟩ := menus found
  obtain ⟨p, post, phase⟩ := posts before (same ▸ contents) post
  rw [phase, token]
  exact h n m c p before (same ▸ contents) post

theorem of_posts (h : TokenMatchesSpy s) (menus : s'.menus = s.menus)
    (posts : ∀ {n : Nat} {m : Menu} {c : Contents}, s.menus[n]? = some m → m.contents = some c →
      s'.post? c.spy = s.post? c.spy) : TokenMatchesSpy s' := by
  refine h.frame (fun {n m'} found ↦ ⟨m', menus ▸ found, rfl, rfl⟩) fun found contents post ↦ ?_
  rw [posts found contents] at post
  exact ⟨_, post, Iff.rfl⟩

theorem setSpy {m : Mounted (Spy Hearer)} {spy : Spy Hearer} (h : TokenMatchesSpy s)
    (found : s.spies[n]? = some m) (phase : spy.phase = .disposed ↔ m.part.phase = .disposed) :
    TokenMatchesSpy (s.setSpy n spy) := by
  refine h.frame (fun {i menu} present ↦ ⟨menu, present, rfl, rfl⟩) fun {i menu c p'} _ _ post ↦ ?_
  rw [Stage.post?_setSpy found] at post
  split at post
  · rename_i same
    cases post
    exact ⟨m.post, same ▸ Stage.post?_of_found found, phase⟩
  · exact ⟨p', post, Iff.rfl⟩

theorem setMenu {m m' : Menu} (h : TokenMatchesSpy s) (found : s.menus[n]? = some m)
    (contents : m'.contents = m.contents) (token : m'.themeToken = m.themeToken) :
    TokenMatchesSpy (s.setMenu n m') := by
  refine h.frame (fun {i menu} present ↦ ?_) fun _ _ post ↦ ⟨_, post, Iff.rfl⟩
  rw [Stage.getElem?_setMenu found] at present
  split at present
  · cases present
    subst i
    exact ⟨m, found, contents, token⟩
  · exact ⟨menu, present, rfl, rfl⟩

theorem releaseMenu (h : TokenMatchesSpy s) (unshared : Unshared s) (n : Nat) :
    TokenMatchesSpy (s.releaseMenu n) := by
  intro i m' c p' found contents post
  rw [Stage.getElem?_releaseMenu] at found
  obtain ⟨m, before, rfl⟩ := Option.map_eq_some_iff.1 found
  have own : m.contents = some c := by split at contents <;> exact contents
  have spy : m.spy? = some c.spy := by rw [Menu.spy?, own, Option.map_some]
  by_cases same : i = n
  · subst i
    obtain ⟨p, was⟩ : ∃ p, s.post? c.spy = some p := by
      cases was : s.post? c.spy with
      | some p => exact ⟨p, rfl⟩
      | none =>
        have unborn : (s.releaseMenu n).spies.length ≤ c.spy := by
          rw [Stage.length_spies_releaseMenu]
          simpa [Stage.post?] using was
        rw [Stage.post?, List.getElem?_eq_none unborn] at post
        cases post
    rw [Stage.post?_releaseMenu_self before own was] at post
    cases post
    simp
  · have other : ¬ s.Owns (.menu n) c.spy := by
      rintro ⟨menu, c', present, contents', twin⟩
      have spy' : menu.spy? = some c.spy := by rw [Menu.spy?, contents', Option.map_some, twin]
      exact same (unshared i n c.spy m menu before present spy spy')
    rw [Stage.post?_releaseMenu_of_ne other] at post
    rw [if_neg same]
    exact h i m c p' before own post

theorem reclaimOld {o : Option Object} (h : TokenMatchesSpy s) (unshared : Unshared s)
    (apart : ∀ {i n : Nat} {m : Menu} {c : Contents}, o = some (.spy i) → s.menus[n]? = some m →
      m.contents = some c → c.spy ≠ i) : TokenMatchesSpy (s.reclaimOld o) := by
  cases o with
  | none => exact h
  | some o =>
    rw [Stage.reclaimOld, Stage.reclaim]
    split
    · exact h
    · cases o with
      | spy k =>
        refine h.of_posts Stage.menus_disposeSpy fun found contents ↦ ?_
        exact Stage.post?_disposeSpy_of_ne (apart rfl found contents)
      | menu k =>
        refine (h.releaseMenu unshared k).frame (fun {i m'} found ↦ ?_) fun _ _ post ↦
          ⟨_, post, Iff.rfl⟩
        rw [Stage.destroy, List.getElem?_modify] at found
        obtain ⟨m, before, rfl⟩ := Option.map_eq_some_iff.1 found
        refine ⟨m, before, ?_⟩
        by_cases same : k = i <;> simp [same]

end TokenMatchesSpy

theorem Unshared.addMenu {menu : Menu} (h : Unshared s) (owned : Private s)
    (menus : s'.menus = s.menus ++ [menu]) (new : ∀ k, menu.spy? = some k → s.spies.length ≤ k) :
    Unshared s' := by
  have old {i k : Nat} {m : Menu} (found : s.menus[i]? = some m) (spy : m.spy? = some k) :
      k < s.spies.length := by
    obtain ⟨c, contents, rfl⟩ := Option.map_eq_some_iff.1 spy
    exact owned.bound found contents
  intro i j k m m' found found' spy spy'
  rw [menus] at found found'
  obtain before | ⟨last, rfl⟩ := getElem?_concat found
  · obtain before' | ⟨-, rfl⟩ := getElem?_concat found'
    · exact h i j k m m' before before' spy spy'
    · have below := old before spy
      have above := new k spy'
      omega
  · obtain before' | ⟨last', -⟩ := getElem?_concat found'
    · have below := old before' spy'
      have above := new k spy
      omega
    · rw [last, last']

theorem TokenMatchesSpy.addMenu {menu : Menu} (h : TokenMatchesSpy s) (owned : Private s)
    (menus : s'.menus = s.menus ++ [menu]) (token : menu.themeToken.isSome)
    (posts : ∀ i, i < s.spies.length → s'.post? i = s.post? i)
    (new : ∀ c p, menu.contents = some c → s'.post? c.spy = some p → p.phase = .idle) :
    TokenMatchesSpy s' := by
  intro n m c p found contents post
  rw [menus] at found
  obtain found | ⟨-, rfl⟩ := getElem?_concat found
  · rw [posts _ (owned.bound found contents)] at post
    exact h n m c p found contents post
  · obtain ⟨t, subscribed⟩ := Option.isSome_iff_exists.1 token
    simp [new c p contents post, subscribed]

theorem TokenMatchesSpy.edit (h : TokenMatchesSpy s) (owned : Private s) (unshared : Unshared s)
    (usedSpiesUnowned : UsedSpiesUnowned s) (inUse : s.inUse.Perm (releases ts))
    (e : Edit may s ts s' ts') : TokenMatchesSpy s' := by
  have old {n : Nat} {m : Menu} {c : Contents} (found : s.menus[n]? = some m)
      (contents : m.contents = some c) :
    c.spy ≠ s.spies.length := Nat.ne_of_lt (owned.bound found contents)
  cases e with
  | skip | push | animate | handOn | passOn | amend | inform | emit | openPage | faults | watch
  | createStore | adopt | subscribeStore | dropStore | createScroller | tellMenu | deaf | unseen
  | hold => exact h
  | keepHandle | freeHandle =>
    exact h.of_posts (Stage.menus_nameHandle _ _) fun _ _ ↦ Stage.post?_disconnect _
  | dropHandle => exact h.of_posts (Stage.menus_dropHandle _ _) fun _ _ ↦ Stage.post?_disconnect _
  | unsubscribeStore =>
    unfold Stage.unsubscribeStore
    split <;> exact h
  | keepWatch =>
    unfold Stage.keepWatch
    split
    · exact h
    · exact h.setSpy ‹_› Iff.rfl
  | subscribeSpy found | unsubscribeSpy found => exact h.setSpy found Iff.rfl
  | receive found moved =>
    obtain ⟨-, id, -, -, rfl⟩ := Spy.receive?_eq_some moved
    exact h.setSpy found Iff.rfl
  | observe found document idle | observeNothing found document idle =>
    exact h.setSpy found (by simp [beginObserving, idle])
  | setOpen found => exact h.setMenu found rfl rfl
  | listenMenu _ found => exact h.setMenu found rfl rfl
  | redraw _ found => exact h.setMenu found rfl rfl
  | disposeSpy _ named =>
    refine h.of_posts Stage.menus_disposeSpy fun found contents ↦ ?_
    exact Stage.post?_disposeSpy_of_ne (owned.apart named found contents)
  | disposeMenu => exact h.releaseMenu unshared _
  | @createSpy _ name _ band registry =>
    have added : TokenMatchesSpy { s with
        spies := s.spies ++ [⟨s.current, { registry, band }⟩],
        names := { s.names with spies := s.names.spies.insert name s.spies.length } } := by
      refine h.of_posts rfl fun found contents ↦ ?_
      exact (Stage.post?_addSpy _ _).trans (if_neg (old found contents))
    refine added.reclaimOld unshared fun {i n m c} o found contents ↦ ?_
    obtain ⟨k, named, same⟩ := Option.map_eq_some_iff.1 o
    cases same
    exact owned.apart named found contents
  | dropSpy _ named =>
    refine TokenMatchesSpy.reclaimOld (o := some _) h unshared fun {i n m c} o found contents ↦ ?_
    cases o
    exact owned.apart named found contents
  | shareMenu =>
    refine TokenMatchesSpy.reclaimOld h unshared fun o ↦ ?_
    obtain ⟨k, -, same⟩ := Option.map_eq_some_iff.1 o
    cases same
  | dropMenu => exact TokenMatchesSpy.reclaimOld (o := some _) h unshared fun o ↦ by cases o
  | @letGo _ o =>
    refine TokenMatchesSpy.reclaimOld (o := some o) h unshared fun {i n m c} here found contents ↦
      ?_
    cases here
    exact usedSpiesUnowned.apart (inUse.mem_iff.2 (.head _)) found contents
  | @createMenu _ k m _ name registry headerOffset band =>
    have posts (i : Nat) (other : i ≠ s.spies.length) :
        ((s.addContents registry band).addMenu k m.part
        (some ⟨s.spies.length, ⟨headerOffset⟩⟩)).post? i = s.post? i :=
      (Stage.post?_addSpy _ i).trans (if_neg other)
    have added : TokenMatchesSpy ((s.addContents registry band).addMenu k m.part
        (some ⟨s.spies.length, ⟨headerOffset⟩⟩)) := by
      refine h.addMenu owned rfl rfl (fun i below ↦ posts i (Nat.ne_of_lt below)) ?_
      rintro c p ⟨rfl⟩ post
      obtain rfl := Option.some.inj (((Stage.post?_addSpy _ _).trans (if_pos rfl)).symm.trans post)
      rfl
    refine TokenMatchesSpy.reclaimOld added (unshared.addMenu owned rfl ?_) fun o ↦ ?_
    · rintro i ⟨rfl⟩
      exact Nat.le_refl _
    · obtain ⟨i, -, same⟩ := Option.map_eq_some_iff.1 o
      cases same
  | @createBare _ k m =>
    have added : TokenMatchesSpy (s.addMenu k m.part none) := by
      refine h.addMenu owned rfl rfl (fun _ _ ↦ rfl) ?_
      rintro c p ⟨⟩
    refine TokenMatchesSpy.reclaimOld added (unshared.addMenu owned rfl ?_) fun o ↦ ?_
    · rintro i ⟨⟩
    · obtain ⟨i, -, same⟩ := Option.map_eq_some_iff.1 o
      cases same

end Spies

/-- A menu keeps its preference, and its subscription until it gives it up. -/
theorem Edit.token {m m' : Menu} (e : Edit may s ts s' ts') (found : s.menus[n]? = some m)
    (found' : s'.menus[n]? = some m') :
    m'.store = m.store ∧ (m'.themeToken = m.themeToken ∨ m'.themeToken = none) := by
  have change := e.menu found'
  rw [found] at change
  cases change with
  | kept _ _ _ token store => exact ⟨store, .inl token⟩
  | redrawn _ _ _ token store => exact ⟨store, .inl token⟩
  | heard _ _ _ token store => exact ⟨store, .inl token⟩
  | retired _ _ _ store token => exact ⟨store, .inr token⟩
  | disposed _ _ _ _ store _ token => exact ⟨store, .inr token⟩

def Stage.Freed (s : Stage) : Prop :=
  ∀ (n : Nat) (m : Menu), s.menus[n]? = some m → m.alive = false → m.themeToken = none

theorem Stage.Freed.edit (h : s.Freed) (e : Edit may s ts s' ts') : s'.Freed := by
  intro n m' found dead
  have change := e.menu found
  cases before : s.menus[n]? with
  | none =>
    rw [before] at change
    cases change with
    | made _ _ _ _ _ none => exact none dead
  | some m =>
    have same (alive : m'.alive = m.alive) (token : m'.themeToken = m.themeToken) :
        m'.themeToken = none := by
      rw [token]
      exact h n m before (alive ▸ dead)
    rw [before] at change
    cases change with
    | kept _ _ alive token => exact same alive token
    | redrawn _ _ alive token => exact same alive token
    | heard _ _ alive token => exact same alive token
    | retired _ _ _ _ token => exact token
    | disposed _ _ _ _ _ _ token => exact token

/-- The menu goes by some name and has never been disposed. -/
def lasts (past : List Move) (s : Stage) (n : Nat) : Bool :=
  s.isNamed (.menu n) && !past.any (·.disposesMenu n)

section Runs

variable {may : Stage → Step → Prop} {past : List Move} {m m' : Machine} {jobs jobs' : List Job}
  {j : Job} {menu : Menu}

theorem History.namedMenusAlive (run : History may past m jobs) : m.stage.NamedMenusAlive := by
  refine run.keeps (I := fun s _ ↦ s.NamedMenusAlive) (fun page n named ↦ ?_) fun e h ↦ h.edit e
  cases named

theorem History.held (run : History may past m jobs) :
    m.stage.inUse.Perm (releases (errandsOf jobs)) ∧ Held none m.stage := by
  refine run.keeps (I := fun s ts ↦ s.inUse.Perm (releases ts) ∧ Held none s)
    (fun page ↦ ⟨.nil, ?_⟩)
    fun e h ↦ ⟨e.inUse h.1, h.2.edit e⟩
  exact ⟨List.nodup_nil, fun found ↦ by cases found⟩

theorem History.tokenMatchesSpy (run : History may past m jobs) : TokenMatchesSpy m.stage := by
  have invariant : m.stage.inUse.Perm (releases (errandsOf jobs)) ∧ Private m.stage ∧
      Unshared m.stage ∧
      UsedSpiesUnowned m.stage ∧ TokenMatchesSpy m.stage := by
    refine run.keeps
      (I := fun s ts ↦ s.inUse.Perm (releases ts) ∧ Private s ∧ Unshared s ∧ UsedSpiesUnowned s ∧
        TokenMatchesSpy s) (fun page ↦ ?_) ?_
    · refine ⟨.nil, private_opened page.build, ?_, ⟨by simp, by simp⟩, ?_⟩
      · intro i j k menu menu' found
        cases found
      · intro i menu c p found
        cases found
    · rintro s s' ts ts' e ⟨inUse, owned, unshared, usedSpiesUnowned, tokenMatchesSpy⟩
      exact ⟨e.inUse inUse, owned.edit e, unshared.edit owned e, usedSpiesUnowned.edit owned e,
        tokenMatchesSpy.edit owned unshared usedSpiesUnowned inUse e⟩
  exact invariant.2.2.2.2

theorem Turn.token_of_disposes (turn : Turn may m jobs j m' jobs')
    (namedMenusAlive : m.stage.NamedMenusAlive) (disposes : Move.disposesMenu ⟨m, jobs, j⟩ n) :
    ∃ menu, m'.stage.menus[n]? = some menu ∧ menu.themeToken = none := by
  unfold Move.disposesMenu at disposes
  split at disposes
  · rename_i name job
    have job : j = .act (.menu name .dispose) := job
    have named : m.stage.names.menus.get? name = some n := of_decide_eq_true disposes
    subst job
    obtain ⟨menu, found, -⟩ := namedMenusAlive n (Stage.isNamed_of_calls ⟨name, named⟩)
    obtain ⟨stage, -⟩ := turn.effect_act
    refine ⟨{ menu with themeToken := none }, ?_, rfl⟩
    simp only [stage, Stage.perform, Stage.performMenu, Stage.onMenu, named, found,
      Stage.getElem?_releaseMenu, Option.map_some, if_pos]
  · cases disposes

/-- A menu that was disposed has given up its subscription for good. -/
theorem History.token_of_disposes {e : Move} (run : History may past m jobs) (made : e ∈ past)
    (disposes : e.disposesMenu n) :
    ∃ menu, m.stage.menus[n]? = some menu ∧ menu.themeToken = none := by
  induction run with
  | opened page => cases made
  | turn run turn ih =>
    obtain rfl | earlier := List.mem_cons.1 made
    · exact turn.token_of_disposes run.namedMenusAlive disposes
    · refine turn.edits_only.keep (I := fun s _ ↦ ∃ menu, s.menus[n]? = some menu ∧
        menu.themeToken = none) ?_
        (ih earlier)
      rintro s s' ts ts' e ⟨menu, found, lapsed⟩
      obtain ⟨menu', found', -⟩ := e.keepsMenu found
      obtain same | lost := (e.token found found').2
      · exact ⟨menu', found', same.trans lapsed⟩
      · exact ⟨menu', found', lost⟩

/-- At rest, a menu has its subscription just as long as it lasts. -/
theorem History.lasts_iff (run : History may past m []) (found : m.stage.menus[n]? = some menu) :
    lasts past m.stage n ↔ menu.themeToken.isSome := by
  rw [lasts, Bool.and_eq_true, Bool.not_eq_true', List.any_eq_false]
  constructor
  · rintro ⟨named, spared⟩
    obtain ⟨menu', found', alive⟩ := run.namedMenusAlive n named
    cases found.symm.trans found'
    refine Option.isSome_iff_ne_none.2 fun none ↦ ?_
    obtain ⟨e, made, disposes⟩ := run.exists_disposesMenu found alive none
    exact spared e made disposes
  · intro token
    have freed : m.stage.Freed :=
      run.keeps (I := fun s _ ↦ s.Freed) (fun page n menu found ↦ by cases found) fun e h ↦ h.edit e
    have alive : menu.alive := by
      by_contra dead
      simp [freed n menu found (by simpa using dead)] at token
    refine ⟨run.named_of_alive found alive, fun e made disposes ↦ ?_⟩
    obtain ⟨menu', found', none⟩ := run.token_of_disposes made disposes
    cases found.symm.trans found'
    simp [none] at token

end Runs

section Rest

variable {s₀ : Stage} {j : Job}

def Stage.InUseNamed (s : Stage) : Prop := ∀ o ∈ s.inUse, s.isNamed o

theorem Stage.isNamed_of_names (menus : s'.names.menus = s.names.menus)
    (spies : s'.names.spies = s.names.spies) (o : Object) : s'.isNamed o = s.isNamed o := by
  cases o <;> simp only [isNamed, menus, spies]

theorem Stage.letGo_of_isNamed {o : Object} (named : s.isNamed o) :
    s.letGo o = { s with inUse := s.inUse.erase o } := by
  have named : Stage.isNamed { s with inUse := s.inUse.erase o } o :=
    (isNamed_of_names rfl rfl o).trans named
  rw [letGo, reclaim, isHeld, named, Bool.true_or, if_pos rfl]

/-- Only a step changes what menus and spies are called, and it holds nothing then. -/
theorem Edit.isNamed (e : Edit (Only s₀ j) s ts s' ts')
    (rest : ∀ step, j = .act step → s₀.inUse = []) :
    (∀ o, s'.isNamed o = s.isNamed o) ∨ s'.inUse = [] := by
  have idle {step : Step} (allowed : Only s₀ j s (.act step)) : s.inUse = [] := by
    rw [allowed.1]
    exact rest step allowed.2.symm
  cases e with
  | skip | push | animate | handOn | passOn | amend | inform | emit | openPage | faults | watch
  | createStore | adopt | subscribeStore | dropStore | observe | observeNothing | subscribeSpy
  | unsubscribeSpy | receive | createScroller | setOpen | listenMenu | redraw | tellMenu | deaf
  | unseen | hold =>
    exact .inl (Stage.isNamed_of_names rfl rfl)
  | keepHandle | freeHandle =>
    refine .inl (Stage.isNamed_of_names ?_ ?_) <;> rw [Stage.nameHandle, Stage.names_disconnect]
  | dropHandle =>
    refine .inl (Stage.isNamed_of_names ?_ ?_) <;> rw [Stage.dropHandle, Stage.names_disconnect]
  | unsubscribeStore =>
    unfold Stage.unsubscribeStore
    split <;> exact .inl (Stage.isNamed_of_names rfl rfl)
  | keepWatch =>
    unfold Stage.keepWatch
    split <;> exact .inl (Stage.isNamed_of_names rfl rfl)
  | disposeSpy => refine .inl (Stage.isNamed_of_names ?_ ?_) <;> rw [Stage.names_disposeSpy]
  | disposeMenu => refine .inl (Stage.isNamed_of_names ?_ ?_) <;> rw [Stage.names_releaseMenu]
  | letGo => refine .inl (Stage.isNamed_of_names ?_ ?_) <;> rw [Stage.letGo, Stage.names_reclaim]
  | createSpy _ allowed => exact .inr (Stage.inUse_reclaimOld.trans (idle allowed))
  | createMenu _ _ _ _ _ _ _ allowed => exact .inr (Stage.inUse_reclaimOld.trans (idle allowed))
  | createBare _ _ _ allowed => exact .inr (Stage.inUse_reclaimOld.trans (idle allowed))
  | shareMenu _ _ _ allowed => exact .inr (Stage.inUse_reclaimOld.trans (idle allowed))
  | dropSpy allowed => exact .inr (Stage.inUse_reclaim.trans (idle allowed))
  | dropMenu _ allowed => exact .inr (Stage.inUse_reclaim.trans (idle allowed))

theorem Stage.InUseNamed.edit (h : s.InUseNamed) (held : Held none s)
    (e : Edit (Only s₀ j) s ts s' ts') (rest : ∀ step, j = .act step → s₀.inUse = []) :
    s'.InUseNamed := by
  intro o used
  obtain same | idle := e.isNamed rest
  · rw [same]
    obtain equal | ⟨o', more, kind⟩ | ⟨o', fewer⟩ := e.uses
    · exact h o (equal ▸ used)
    · rw [more] at used
      obtain rfl | used := List.mem_cons.1 used
      · obtain called | ⟨n, menu, rfl, found, alive⟩ := kind
        · exact Stage.isNamed_of_calls called
        · have referred := held.held found alive (by simp)
          rw [Stage.isHeld, Bool.or_eq_true, List.contains_iff_mem] at referred
          exact referred.elim id (h _)
      · exact h o used
    · rw [fewer] at used
      exact h o (List.mem_of_mem_erase used)
  · rw [idle] at used
    cases used

def NoPendingWatch (ts : List Errand) : Prop := ∀ n w, Errand.keepWatch n w ∉ ts

theorem NoPendingWatch.edit (h : NoPendingWatch ts) (e : Edit (Only s₀ j) s ts s' ts')
    (plain : j.observes = false) : NoPendingWatch ts' := by
  have fewer {ts ts' : List Errand} (h : NoPendingWatch ts)
      (less : ∀ n w, .keepWatch n w ∈ ts' → .keepWatch n w ∈ ts) :
    NoPendingWatch ts' := fun n w member ↦ h n w (less n w member)
  cases e with
  | skip | keepHandle | keepWatch | deaf | unseen | letGo =>
    exact fewer h fun _ _ ↦ List.mem_cons_of_mem _
  | @push t _ free =>
    refine fewer h fun _ _ member ↦ ?_
    obtain rfl | later := List.mem_cons.1 member
    · cases free
    · exact later
  | amend | openPage | faults | freeHandle | dropHandle | createStore | subscribeStore
  | unsubscribeStore | dropStore | createSpy | disposeSpy | subscribeSpy | unsubscribeSpy | dropSpy
  | createScroller | createMenu | createBare | shareMenu | disposeMenu | dropMenu | listenMenu =>
    exact h
  | animate | handOn | passOn | hold | tellMenu | redraw => exact fewer h (by simp)
  | inform | emit => exact fewer h (by simp [handAll])
  | adopt | receive => exact fewer h (by simp [tellAll])
  | setOpen => exact fewer h (by intros _ _; split <;> simp)
  | watch => exact fewer h (by intros _ _; unfold handFirst; split <;> simp)
  | observe _ _ _ observes allowed | observeNothing _ _ _ _ observes allowed =>
    rw [allowed.2, plain] at observes
    cases observes

/-- No disposed spy has a watch or is about to be given one. -/
def DisposedUnwatched (s : Stage) (ts : List Errand) : Prop :=
  ∀ (n : Nat) (p : Post), s.post? n = some p → p.phase = .disposed → p.watch = none ∧
    ∀ w, .keepWatch n w ∉ ts

namespace DisposedUnwatched

theorem frame (h : DisposedUnwatched s ts) (posts : ∀ n, s'.post? n = s.post? n)
    (pending : ∀ n w, .keepWatch n w ∈ ts' → .keepWatch n w ∈ ts) : DisposedUnwatched s' ts' := by
  intro n p post disposed
  obtain ⟨free, noPendingWatch⟩ := h n p (posts n ▸ post) disposed
  exact ⟨free, fun w member ↦ noPendingWatch w (pending n w member)⟩

theorem setSpy {m : Mounted (Spy Hearer)} {spy : Spy Hearer} (h : DisposedUnwatched s ts)
    (found : s.spies[n]? = some m)
    (clean : spy.phase = .disposed → spy.watch = none ∧ ∀ w, .keepWatch n w ∉ ts) :
    DisposedUnwatched (s.setSpy n spy) ts := by
  intro i p post disposed
  rw [Stage.post?_setSpy found] at post
  split at post
  · subst i
    cases post
    exact clean disposed
  · exact h i p post disposed

theorem disposeSpy (h : DisposedUnwatched s ts) (noPendingWatch : NoPendingWatch ts) (n : Nat) :
    DisposedUnwatched (s.disposeSpy n) ts := by
  intro i p post disposed
  by_cases same : i = n
  · subst i
    cases was : s.post? n with
    | none =>
      have unborn : (s.disposeSpy n).spies.length ≤ n := by
        rw [Stage.length_spies_disposeSpy]
        simpa [Stage.post?] using was
      rw [Stage.post?, List.getElem?_eq_none unborn] at post
      cases post
    | some p₀ =>
      rw [Stage.post?_disposeSpy_self was] at post
      cases post
      exact ⟨rfl, noPendingWatch n⟩
  · rw [Stage.post?_disposeSpy_of_ne same] at post
    exact h i p post disposed

theorem reclaimOld (h : DisposedUnwatched s ts) (noPendingWatch : NoPendingWatch ts)
    (o : Option Object) : DisposedUnwatched (s.reclaimOld o) ts :=
  Stage.reclaimOld_ind (P := fun s' ↦ DisposedUnwatched s' ts) h (fun h ↦ h) (fun h ↦ h)
    fun _ k _ _ _ ↦ h.disposeSpy noPendingWatch k

theorem addSpy {m : Mounted (Spy Hearer)} (h : DisposedUnwatched s ts) (idle : m.part.phase = .idle)
    (spies : s'.spies = s.spies ++ [m]) : DisposedUnwatched s' ts := by
  intro n p post disposed
  have added : ({ s with spies := s.spies ++ [m] } : Stage).post? n = some p := by
    rwa [Stage.post?, spies] at post
  rw [Stage.post?_addSpy] at added
  split at added
  · cases added
    cases idle.symm.trans disposed
  · exact h n p added disposed

theorem keepWatch {w : Option Nat} (h : DisposedUnwatched s (.keepWatch n w :: ts)) :
    DisposedUnwatched (s.keepWatch n w) ts := by
  have popped : DisposedUnwatched s ts := h.frame (fun _ ↦ rfl) fun _ _ ↦ List.mem_cons_of_mem _
  unfold Stage.keepWatch
  split
  · exact popped
  · rename_i m found
    refine popped.setSpy found fun disposed ↦ ?_
    exact absurd (.head _) ((h n m.post (Stage.post?_of_found found) disposed).2 w)

theorem beginObserving {m : Mounted (Spy Hearer)} {d : Document Receiver}
    (h : DisposedUnwatched s ts) (found : s.spies[n]? = some m)
    (spies : s'.spies = (s.setSpy n (beginObserving m.part d)).spies)
    (pending : ∀ i w, .keepWatch i w ∈ ts' → i = n ∨ .keepWatch i w ∈ ts) :
    DisposedUnwatched s' ts' := by
  intro i p post disposed
  have after : s'.post? i = (s.setSpy n (Session.beginObserving m.part d)).post? i := by
    rw [Stage.post?, spies, Stage.post?]
  rw [after, Stage.post?_setSpy found] at post
  split at post
  · cases post
    cases disposed
  · rename_i other
    obtain ⟨free, noPendingWatch⟩ := h i p post disposed
    exact ⟨free, fun w member ↦ noPendingWatch w ((pending i w member).resolve_left other)⟩

theorem edit (h : DisposedUnwatched s ts) (inUseNamed : s.InUseNamed)
    (inUse : s.inUse.Perm (releases ts)) (e : Edit (Only s₀ j) s ts s' ts')
    (acting : ∀ step, j = .act step → NoPendingWatch ts) : DisposedUnwatched s' ts' := by
  have free {step : Step} (allowed : Only s₀ j s (.act step)) : NoPendingWatch ts :=
    acting step allowed.2.symm
  have still {s' : Stage} {ts' : List Errand} (spies : s'.spies = s.spies)
      (pending : ∀ n w, .keepWatch n w ∈ ts' → .keepWatch n w ∈ ts) : DisposedUnwatched s' ts' :=
    h.frame (fun n ↦ by rw [Stage.post?, spies, Stage.post?]) pending
  cases e with
  | skip | deaf | unseen => exact still rfl fun _ _ ↦ List.mem_cons_of_mem _
  | @push t _ free =>
    refine still rfl fun _ _ member ↦ ?_
    obtain rfl | later := List.mem_cons.1 member
    · cases free
    · exact later
  | amend | openPage | faults | createStore | subscribeStore | dropStore | createScroller
  | listenMenu =>
    exact still rfl fun _ _ member ↦ member
  | animate | handOn | passOn | hold | tellMenu | redraw => exact still rfl (by simp)
  | inform | emit => exact still rfl (by simp [handAll])
  | adopt => exact still rfl (by simp [tellAll])
  | setOpen => exact still rfl (by intros _ _; split <;> simp)
  | watch => exact still rfl (by intros _ _; unfold handFirst; split <;> simp)
  | keepHandle => exact still (Stage.spies_disconnect _) fun _ _ ↦ List.mem_cons_of_mem _
  | freeHandle | dropHandle => exact still (Stage.spies_disconnect _) fun _ _ member ↦ member
  | unsubscribeStore =>
    unfold Stage.unsubscribeStore
    split <;> exact still rfl fun _ _ member ↦ member
  | subscribeSpy found | unsubscribeSpy found =>
    exact h.setSpy found (h _ _ (Stage.post?_of_found found))
  | @receive _ n m _ _ found moved =>
    obtain ⟨-, id, -, -, rfl⟩ := Spy.receive?_eq_some moved
    have told : DisposedUnwatched s (tellAll m.part.listeners.toList (.active id) ++ ts) :=
      still rfl (by simp [tellAll])
    exact told.setSpy found (told _ _ (Stage.post?_of_found found))
  | observe found =>
    refine h.beginObserving found rfl fun i w member ↦ ?_
    unfold handFirst at member
    split at member <;> grind
  | observeNothing found => exact h.beginObserving found rfl (by grind)
  | keepWatch => exact h.keepWatch
  | disposeSpy allowed => exact h.disposeSpy (free allowed) _
  | disposeMenu allowed =>
    exact Stage.releaseMenu_ind (P := fun s' ↦ DisposedUnwatched s' ts) h (fun h ↦ h) (fun h ↦ h)
      fun k _ ↦ h.disposeSpy (free allowed) k
  | createSpy _ allowed =>
    refine DisposedUnwatched.reclaimOld ?_ (free allowed) _
    exact h.addSpy rfl rfl
  | createMenu _ _ _ _ _ _ _ allowed =>
    refine DisposedUnwatched.reclaimOld ?_ (free allowed) _
    exact h.addSpy rfl rfl
  | createBare _ _ _ allowed =>
    refine DisposedUnwatched.reclaimOld ?_ (free allowed) _
    exact h
  | shareMenu _ _ _ allowed =>
    refine DisposedUnwatched.reclaimOld ?_ (free allowed) _
    exact h
  | dropSpy allowed =>
    refine DisposedUnwatched.reclaimOld ?_ (free allowed) (some _)
    exact h
  | dropMenu _ allowed =>
    refine DisposedUnwatched.reclaimOld ?_ (free allowed) (some _)
    exact h
  | @letGo _ o =>
    -- what is let go of goes by a name, so nothing becomes of it
    rw [Stage.letGo_of_isNamed (inUseNamed o (inUse.mem_iff.2 (.head _)))]
    exact still rfl fun _ _ ↦ List.mem_cons_of_mem _

end DisposedUnwatched

section Runs

variable {may : Stage → Step → Prop} {past : List Move} {m m' : Machine} {jobs jobs' : List Job}

theorem History.inUse_of_rest (run : History may past m jobs) (rest : Move.atRest ⟨m, jobs, j⟩)
    (step : Step) (job : j = .act step) : m.stage.inUse = [] := by
  obtain rfl : jobs = [] := Move.atRest_iff.1 rest step job
  exact run.held.1.eq_nil

/-- While no listener takes a step, whatever is in use goes by a name. -/
theorem History.inUseNamed (run : History may past m jobs) (quiet : ∀ e ∈ past, e.atRest) :
    m.stage.InUseNamed := by
  induction run with
  | opened page =>
    intro o used
    cases used
  | turn run turn ih =>
    obtain ⟨first, calm⟩ := List.forall_mem_cons.1 quiet
    have invariant := turn.edits_only.keep (I := fun s _ ↦ Held none s ∧ s.InUseNamed)
      (fun e h ↦ ⟨h.1.edit e, h.2.edit h.1 e (run.inUse_of_rest first)⟩) ⟨run.held.2, ih calm⟩
    exact invariant.2

/-- While no listener takes a step, a spy that is disposed has no watch left. -/
theorem History.disposedUnwatched_watches (run : History may past m jobs)
    (quiet : ∀ e ∈ past, e.atRest)
    (plain : ∀ s step, may s step → (Job.act step).observes = false) :
    DisposedUnwatched m.stage (errandsOf jobs) := by
  induction run with
  | opened page =>
    intro n p post
    cases post
  | @turn past m m' jobs jobs' j run turn ih =>
    obtain ⟨first, calm⟩ := List.forall_mem_cons.1 quiet
    have acting (step : Step) (job : j = .act step) : NoPendingWatch (errandsOf jobs) := by
      obtain rfl : jobs = [] := Move.atRest_iff.1 first step job
      simp [NoPendingWatch]
    have unobserving (step : Step) (job : j = .act step) : j.observes = false := by
      subst job
      exact plain _ _ turn.allows
    have invariant := turn.edits_only.keep
      (I := fun s ts ↦ (s.inUse.Perm (releases ts) ∧ Held none s) ∧ s.InUseNamed ∧
        (∀ step, j = .act step → NoPendingWatch ts) ∧ DisposedUnwatched s ts) ?_
      ⟨run.held, run.inUseNamed calm, acting, ih calm⟩
    · exact invariant.2.2.2
    · rintro s s' ts ts' e ⟨⟨inUse, held⟩, inUseNamed, noPendingWatch, disposedUnwatched⟩
      exact ⟨⟨e.inUse inUse, held.edit e⟩, inUseNamed.edit held e (run.inUse_of_rest first),
        fun step job ↦ (noPendingWatch step job).edit e (unobserving step job),
          disposedUnwatched.edit inUseNamed inUse e noPendingWatch⟩

end Runs

end Rest

end Session

end Wayfinder
