import Wayfinder.Proofs.History

namespace Wayfinder

namespace Table

variable {α : Type} {t : Table α} {key : String} {p : α → Bool}

def Sound (t : Table α) : Prop := (t.entries.map Prod.fst).Nodup

theorem Sound.erase (sound : t.Sound) (key : String) : (t.erase key).Sound :=
  List.Nodup.sublist (List.filter_sublist.map _) sound

theorem Sound.insert (sound : t.Sound) (key : String) (value : α) : (t.insert key value).Sound := by
  refine List.nodup_cons.2 ⟨fun member ↦ ?_, sound.erase key⟩
  obtain ⟨e, kept, same⟩ := List.mem_map.1 member
  simp [Table.erase, same] at kept

theorem Sound.get?_of_mem (sound : t.Sound) {value : α} (member : (key, value) ∈ t.entries) :
    t.get? key = some value := by
  obtain ⟨entries⟩ := t
  simp only [Sound, get?] at sound member ⊢
  induction entries with
  | nil => cases member
  | cons e entries ih =>
    obtain ⟨name, first⟩ := e
    obtain ⟨fresh, distinct⟩ := List.nodup_cons.1 sound
    obtain same | later := List.mem_cons.1 member
    · cases same
      simp
    · have differs : (key == name) = false := by
        refine beq_false_of_ne fun same ↦ fresh ?_
        have listed : key ∈ entries.map Prod.fst := List.mem_map_of_mem later
        rwa [same] at listed
      simp only [List.lookup_cons, differs]
      exact ih distinct later

theorem any_insert (value : α) : (t.insert key value).any p = (p value || (t.erase key).any p) :=
  rfl

/-- A name that is taken away takes only its own value with it. -/
theorem Sound.any_erase (sound : t.Sound) (key : String) (any : t.any p) :
    (t.erase key).any p ∨ ∃ value, t.get? key = some value ∧ p value := by
  obtain ⟨⟨name, value⟩, member, holds⟩ := List.any_eq_true.1 any
  by_cases same : name = key
  · exact .inr ⟨value, sound.get?_of_mem (same ▸ member), holds⟩
  · refine .inl (List.any_eq_true.2 ⟨(name, value), ?_, holds⟩)
    simp [Table.erase, member, same]

end Table

namespace Session

variable {may : Stage → Job → Prop} {s s' : Stage} {ts ts' : List Errand} {n : Nat}

def Errand.letsGo? : Errand → Option Object
  | .letGo o => some o
  | _ => none

def releases (ts : List Errand) : List Object := ts.filterMap Errand.letsGo?

theorem releases_cons_none {t : Errand} (none : t.letsGo? = none) :
    releases (t :: ts) = releases ts := by
  simp [releases, none]

theorem releases_append (others : ∀ t ∈ ts', t.letsGo? = none) :
    releases (ts' ++ ts) = releases ts := by
  rw [releases, List.filterMap_append, List.filterMap_eq_nil_iff.2 others,
    List.nil_append, releases]

theorem letsGo?_handAll {ds : List (Delivery Receiver)} : ∀ t ∈ handAll ds, t.letsGo? = none := by
  simp [handAll, Errand.letsGo?]

theorem letsGo?_tellAll {hearers : List Hearer} {news : Notice} :
    ∀ t ∈ tellAll hearers news, t.letsGo? = none := by
  simp [tellAll, Errand.letsGo?]

theorem letsGo?_handFirst {o : Receiver} {batch : List Entry} :
    ∀ t ∈ handFirst o batch, t.letsGo? = none := by
  unfold handFirst
  split <;> simp [Errand.letsGo?]

namespace Stage

theorem inUse_disconnect (link : Option Link) : (s.disconnect link).inUse = s.inUse := by
  cases link <;> rfl

theorem inUse_disposeSpy : (s.disposeSpy n).inUse = s.inUse := by
  unfold disposeSpy
  split
  · rfl
  · rw [inUse_disconnect]
    rfl

theorem inUse_releaseMenu : (s.releaseMenu n).inUse = s.inUse :=
  releaseMenu_ind (P := fun s' ↦ s'.inUse = s.inUse) rfl (fun h ↦ h) (fun h ↦ h) fun _ _ ↦
    inUse_disposeSpy

theorem inUse_reclaimOld {o : Option Object} : (s.reclaimOld o).inUse = s.inUse :=
  reclaimOld_ind (P := fun s' ↦ s'.inUse = s.inUse) rfl (fun h ↦ h) (fun h ↦ h) fun _ _ _ _ _ ↦
    inUse_disposeSpy

theorem inUse_reclaim {o : Object} : (s.reclaim o).inUse = s.inUse := inUse_reclaimOld (o := some o)

end Stage

/-- What is in use is what errands will let go of. -/
theorem Edit.inUse (e : Edit may s ts s' ts') (h : s.inUse.Perm (releases ts)) :
    s'.inUse.Perm (releases ts') := by
  cases e with
  | @skip t _ idle =>
    have none : t.letsGo? = none := by cases t <;> simp_all [Errand.isIdle, Errand.letsGo?]
    rwa [releases_cons_none none] at h
  | @push t _ free =>
    have none : t.letsGo? = none := by cases t <;> simp_all [Errand.isFree, Errand.letsGo?]
    rwa [releases_cons_none none]
  | animate | handOn | passOn | amend | openPage | faults | createStore | subscribeStore | dropStore
  | subscribeSpy | unsubscribeSpy | createScroller | listenMenu | observeNothing | deaf | redraw
  | unseen =>
    exact h
  | inform | emit => rwa [releases_append letsGo?_handAll]
  | adopt | receive => rwa [releases_append letsGo?_tellAll]
  | watch | observe => rwa [releases_append letsGo?_handFirst]
  | setOpen => rwa [releases_append (by split <;> simp [Errand.letsGo?])]
  | keepHandle | freeHandle | dropHandle => exact (Stage.inUse_disconnect _).symm ▸ h
  | unsubscribeStore =>
    unfold Stage.unsubscribeStore
    split <;> exact h
  | keepWatch =>
    unfold Stage.keepWatch
    split <;> exact h
  | disposeSpy => rwa [Stage.inUse_disposeSpy]
  | disposeMenu => rwa [Stage.inUse_releaseMenu]
  | createSpy | createMenu | createBare | shareMenu => exact Stage.inUse_reclaimOld.symm ▸ h
  | dropSpy | dropMenu => exact Stage.inUse_reclaim.symm ▸ h
  | hold o | tellMenu => exact h.cons _
  | @letGo _ o =>
    rw [Stage.letGo, Stage.inUse_reclaim]
    have erased : (s.inUse.erase o).Perm ((o :: releases ts').erase o) := h.erase o
    rwa [List.erase_cons_head] at erased

/-- Every menu that is left is referred to, except perhaps for the given object. -/
structure Held (o : Option Object) (s : Stage) : Prop where
  names : s.names.menus.Sound
  held : ∀ {i : Nat} {m : Menu}, s.menus[i]? = some m → m.alive → o ≠ some (.menu i) →
    s.isHeld (.menu i)

namespace Held

variable {o : Option Object}

theorem mono (h : Held none s) : Held o s :=
  ⟨h.names, fun found alive _ ↦ h.held found alive (by simp)⟩

theorem frame (h : Held o s) (names : s'.names.menus = s.names.menus)
    (inUse : ∀ o ∈ s.inUse, o ∈ s'.inUse)
    (menus : ∀ {i : Nat} {m' : Menu}, s'.menus[i]? = some m' → m'.alive →
      ∃ m, s.menus[i]? = some m ∧ m.alive) : Held o s' where
  names := names ▸ h.names
  held found alive other := by
    obtain ⟨m, found, alive⟩ := menus found alive
    have held := h.held found alive other
    simp only [Stage.isHeld, Stage.isNamed, names, Bool.or_eq_true, List.contains_iff_mem] at held ⊢
    exact held.imp_right (inUse _)

theorem of_same (h : Held o s) (names : s'.names.menus = s.names.menus) (inUse : s'.inUse = s.inUse)
    (menus : s'.menus = s.menus) : Held o s' :=
  h.frame names (fun _ member ↦ inUse ▸ member) fun found alive ↦ ⟨_, menus ▸ found, alive⟩

/-- An object that nothing refers to is done away with. -/
theorem reclaimOld (h : Held o s) : Held none (s.reclaimOld o) where
  names := by
    rw [Stage.names_reclaimOld]
    exact h.names
  held {i m'} found alive _ := by
    have same : (s.reclaimOld o).isHeld (.menu i) = s.isHeld (.menu i) := by
      simp only [Stage.isHeld, Stage.isNamed, Stage.names_reclaimOld, Stage.inUse_reclaimOld]
    rw [same]
    obtain ⟨m, before, same⟩ := Stage.menu_reclaimOld found
    have alive' : m.alive := by
      obtain rfl | rfl := same
      · exact alive
      · cases alive
    by_cases here : o = some (.menu i)
    · subst here
      rw [← Bool.not_eq_false]
      intro unheld
      rw [Stage.reclaimOld, Stage.reclaim, unheld, if_neg Bool.false_ne_true,
        Stage.getElem?_destroy, before, Option.map_some, if_pos rfl] at found
      cases found
      cases alive
    · exact h.held before alive' here

theorem nameMenu (h : Held (some (.menu n)) s) (name : String) : Held none (s.nameMenu name n) := by
  refine Held.reclaimOld ⟨h.names.insert name n, ?_⟩
  intro i m found alive other
  simp only [Stage.isHeld, Stage.isNamed, Table.any_insert]
  by_cases here : n = i
  · simp [here]
  · have held := h.held found alive (by simpa using here)
    obtain given | busy := (Bool.or_eq_true _ _).mp held
    · have given : s.names.menus.any (· = i) := given
      obtain kept | ⟨value, lost, same⟩ := h.names.any_erase name given
      · rw [kept, Bool.or_true, Bool.true_or]
      · obtain rfl : value = i := of_decide_eq_true same
        exact absurd (by rw [lost, Option.map_some]) other
    · rw [busy, Bool.or_true]

theorem setMenu {m m' : Menu} (h : Held none s) (found : s.menus[n]? = some m)
    (alive : m'.alive = m.alive) :
    Held none (s.setMenu n m') := by
  refine h.frame rfl (fun _ member ↦ member) fun {i menu} found' alive' ↦ ?_
  rw [Stage.getElem?_setMenu found] at found'
  split at found'
  · cases found'
    subst i
    exact ⟨m, found, alive ▸ alive'⟩
  · exact ⟨menu, found', alive'⟩

theorem addMenu {m : Mounted (Preference Hearer)} {k : Nat} {contents : Option Contents}
    (h : Held none s) :
    Held (some (.menu s.menus.length)) (s.addMenu k m.part contents) where
  names := h.names
  held {i menu} found alive other := by
    obtain found | ⟨rfl, -⟩ := getElem?_concat found
    · exact h.held found alive (by simp)
    · exact absurd rfl other

theorem edit (h : Held none s) (e : Edit may s ts s' ts') : Held none s' := by
  cases e with
  | skip | push | animate | handOn | passOn | amend | inform | emit | openPage | faults | watch
  | createStore | adopt | subscribeStore | dropStore | observe | observeNothing | subscribeSpy
  | unsubscribeSpy | receive | createScroller | deaf | unseen => exact h.of_same rfl rfl rfl
  | keepHandle | freeHandle =>
    refine h.of_same ?_ (Stage.inUse_disconnect _) (Stage.menus_nameHandle _ _)
    rw [Stage.nameHandle, Stage.names_disconnect]
  | dropHandle =>
    refine h.of_same ?_ (Stage.inUse_disconnect _) (Stage.menus_dropHandle _ _)
    rw [Stage.dropHandle, Stage.names_disconnect]
  | unsubscribeStore =>
    unfold Stage.unsubscribeStore
    split <;> exact h.of_same rfl rfl rfl
  | keepWatch =>
    unfold Stage.keepWatch
    split <;> exact h.of_same rfl rfl rfl
  | disposeSpy =>
    exact h.of_same (by rw [Stage.names_disposeSpy]) Stage.inUse_disposeSpy Stage.menus_disposeSpy
  | disposeMenu =>
    refine h.frame (by rw [Stage.names_releaseMenu])
      (fun _ member ↦ Stage.inUse_releaseMenu.symm ▸ member) ?_
    intro i m' found alive
    rw [Stage.getElem?_releaseMenu] at found
    obtain ⟨m, before, rfl⟩ := Option.map_eq_some_iff.1 found
    refine ⟨m, before, ?_⟩
    split at alive <;> exact alive
  | setOpen found => exact h.setMenu found rfl
  | listenMenu _ found => exact h.setMenu found rfl
  | redraw _ found => exact h.setMenu found rfl
  | createSpy =>
    refine Held.reclaimOld (Held.mono ?_)
    exact h.of_same rfl rfl rfl
  | dropSpy =>
    refine Held.reclaimOld (o := some _) (Held.mono ?_)
    exact h.of_same rfl rfl rfl
  | createMenu found name registry headerOffset band =>
    have opened : Held none (s.addContents registry band) := h.of_same rfl rfl rfl
    exact opened.addMenu.nameMenu name
  | createBare found name => exact h.addMenu.nameMenu name
  | shareMenu _ _ name => exact h.mono.nameMenu name
  | @dropMenu _ name n named =>
    refine Held.reclaimOld (o := some _) ⟨h.names.erase name, ?_⟩
    intro i m found alive other
    have held := h.held found alive (by simp)
    obtain given | busy := (Bool.or_eq_true _ _).mp held
    · have given : s.names.menus.any (· = i) := given
      obtain kept | ⟨value, lost, same⟩ := h.names.any_erase name given
      · exact (Bool.or_eq_true _ _).mpr (.inl kept)
      · obtain rfl : value = i := of_decide_eq_true same
        cases named.symm.trans lost
        exact absurd rfl other
    · exact (Bool.or_eq_true _ _).mpr (.inr busy)
  | hold | tellMenu =>
    exact h.frame rfl (fun _ member ↦ .tail _ member) fun found alive ↦ ⟨_, found, alive⟩
  | letGo =>
    refine Held.reclaimOld (o := some _) ⟨h.names, ?_⟩
    intro i m found alive other
    have held := h.held found alive (by simp)
    simp only [Stage.isHeld, Bool.or_eq_true, List.contains_iff_mem] at held ⊢
    exact held.imp_right (List.mem_erase_of_ne fun same ↦ other (congrArg some same.symm)).2

end Held

/-- At rest, a menu is left only if it goes by a name. -/
theorem History.named_of_alive {may : Stage → Step → Prop} {past : List Move} {m : Machine}
    {menu : Menu} (run : History may past m []) (found : m.stage.menus[n]? = some menu)
    (alive : menu.alive) :
    m.stage.isNamed (.menu n) := by
  have invariant : m.stage.inUse.Perm (releases []) ∧ Held none m.stage :=
    run.keeps (I := fun s ts ↦ s.inUse.Perm (releases ts) ∧ Held none s)
      (fun page ↦ ⟨.nil, ⟨List.nodup_nil, fun found ↦ by cases found⟩⟩) fun e h ↦
        ⟨e.inUse h.1, h.2.edit e⟩
  have idle : m.stage.inUse = [] := invariant.1.eq_nil
  have held := invariant.2.held found alive (by simp)
  simpa [Stage.isHeld, idle] using held

end Session

end Wayfinder
