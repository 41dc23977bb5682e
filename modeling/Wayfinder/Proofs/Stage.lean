import Mathlib.Data.List.Nodup
import Wayfinder.Session.Perform

namespace Wayfinder

namespace Subscribers

variable {α : Type} {s : Subscribers α}

structure Sound (s : Subscribers α) : Prop where
  distinct : (s.entries.map Prod.fst).Nodup
  below : ∀ e ∈ s.entries, e.1 < s.next

theorem sound_empty : ({} : Subscribers α).Sound := ⟨.nil, fun _ h ↦ nomatch h⟩

theorem Sound.add (sound : s.Sound) (a : α) : (s.add a).Sound := by
  constructor
  · simp only [Subscribers.add, List.map_append, List.map_cons, List.map_nil]
    refine List.nodup_append.2 ⟨sound.distinct, List.nodup_cons.2 ⟨List.not_mem_nil, .nil⟩, ?_⟩
    intro token h token' h'
    obtain ⟨e, he, rfl⟩ := List.mem_map.1 h
    obtain rfl := List.mem_singleton.1 h'
    exact Nat.ne_of_lt (sound.below e he)
  · intro e h
    simp only [Subscribers.add] at h ⊢
    obtain h | h := List.mem_append.1 h
    · exact Nat.lt_succ_of_lt (sound.below e h)
    · obtain rfl := List.mem_singleton.1 h
      exact Nat.lt_succ_self _

theorem Sound.remove (sound : s.Sound) (token : Nat) : (s.remove token).Sound :=
  ⟨sound.distinct.sublist (List.filter_sublist.map _),
    fun e h ↦ sound.below e (s.mem_entries_remove.1 h).1⟩

theorem Sound.eq_of_token (sound : s.Sound) {token : Nat} {a b : α} (ha : (token, a) ∈ s.entries)
    (hb : (token, b) ∈ s.entries) : a = b := by
  have same : (token, a) = (token, b) := List.inj_on_of_nodup_map sound.distinct ha hb rfl
  exact congrArg Prod.snd same

theorem mem_toList {a : α} : a ∈ s.toList ↔ ∃ token, (token, a) ∈ s.entries := by simp [toList]

end Subscribers

theorem Spy.receive?_eq_some {σ : Type} {s s' : Spy σ} {batch : List Entry}
    (h : s.receive? batch = some s') :
    s.phase = .observing ∧ ∃ id, s.winner? batch = some id ∧ id ≠ s.active ∧
      s' = { s with active := id } := by
  unfold receive? at h
  split at h
  · rename_i observing
    obtain ⟨id, winner, moved⟩ := Option.bind_eq_some_iff.1 h
    split at moved
    · cases moved
    · cases moved
      exact ⟨observing, id, winner, ‹_›, rfl⟩
  · cases h

namespace Session

theorem getElem?_append_of_some {α : Type} {l : List α} {i : Nat} {a : α} (found : l[i]? = some a)
    (l' : List α) : (l ++ l')[i]? = some a := by
  rw [List.getElem?_append_left (List.getElem?_eq_some_iff.1 found).1, found]

theorem getElem?_concat {α : Type} {l : List α} {i : Nat} {a b : α}
    (found : (l ++ [b])[i]? = some a) :
    l[i]? = some a ∨ i = l.length ∧ a = b := by
  rw [List.getElem?_append] at found
  split at found
  · exact .inl found
  · have present := (List.getElem?_eq_some_iff.1 found).1
    simp only [List.length_singleton] at present
    have last : i = l.length := by omega
    subst last
    simp at found
    exact .inr ⟨rfl, found.symm⟩

namespace Stage

variable {s : Stage} {k n : Nat}

theorem getElem?_setDocument {d d' : Document Receiver}
    (found : s.documents[k]? = some d) (i : Nat) :
    (s.setDocument k d').documents[i]? = if i = k then some d' else s.documents[i]? := by
  have bound := (List.getElem?_eq_some_iff.1 found).1
  by_cases h : i = k
  · simp [setDocument, h, bound]
  · simp [setDocument, h, List.getElem?_set_ne (Ne.symm h)]

theorem setDocument_self {d : Document Receiver} (found : s.documents[k]? = some d) :
    s.setDocument k d = s := by
  obtain ⟨bound, same⟩ := List.getElem?_eq_some_iff.1 found
  rw [setDocument, ← same, List.set_getElem_self bound]

theorem getElem?_setMenu {m m' : Menu} (found : s.menus[n]? = some m) (i : Nat) :
    (s.setMenu n m').menus[i]? = if i = n then some m' else s.menus[i]? := by
  have bound := (List.getElem?_eq_some_iff.1 found).1
  by_cases h : i = n
  · simp [setMenu, h, bound]
  · simp [setMenu, h, List.getElem?_set_ne (Ne.symm h)]

theorem getElem?_setStore {m : Mounted (Preference Hearer)} {p : Preference Hearer}
    (found : s.stores[k]? = some m)
    (i : Nat) : (s.setStore k p).stores[i]? =
      if i = k then some { m with part := p } else s.stores[i]? := by
  by_cases h : i = k
  · simp [setStore, h, found]
  · simp [setStore, h, Ne.symm h]

theorem getElem?_setSpy {m : Mounted (Spy Hearer)} {spy : Spy Hearer}
    (found : s.spies[n]? = some m) (i : Nat) :
    (s.setSpy n spy).spies[i]? = if i = n then some { m with part := spy } else s.spies[i]? := by
  by_cases h : i = n
  · simp [setSpy, h, found]
  · simp [setSpy, h, Ne.symm h]

theorem setSpy_self {m : Mounted (Spy Hearer)} (found : s.spies[n]? = some m) :
    s.setSpy n m.part = s := by
  have same : s.spies.modify n (fun m' ↦ { m' with part := m.part }) = s.spies := by
    refine List.ext_getElem? fun i ↦ ?_
    by_cases h : n = i
    · simp [← h, found]
    · simp [h]
  rw [setSpy, same]

theorem disposeSpy_eq {m : Mounted (Spy Hearer)} (found : s.spies[n]? = some m) : s.disposeSpy n =
    (s.setSpy n m.part.dispose).disconnect (m.part.watch.map (Link.mk m.document)) := by
  rw [disposeSpy, found]

theorem theme_of_found {m : Mounted (Preference Hearer)} (found : s.stores[k]? = some m) :
    s.theme k = m.part.theme := by
  simp [theme, found]

theorem snapshot_congr {s' : Stage} {m : Menu} (theme : s'.theme m.store = s.theme m.store)
    (active : ∀ c, m.contents = some c → s'.active? c = s.active? c) :
    s'.snapshot m = s.snapshot m := by
  have contents : m.contents.bind s'.active? = m.contents.bind s.active? := by
    cases h : m.contents with
    | none => rfl
    | some c => exact active c h
  rw [snapshot, snapshot, contents, theme]

theorem unsubscribeStore_setMenu (m : Menu) (token : Nat) :
    (s.setMenu n m).unsubscribeStore k token = (s.unsubscribeStore k token).setMenu n m := by
  unfold unsubscribeStore
  have same : (s.setMenu n m).stores = s.stores := rfl
  rw [same]
  split <;> rfl

theorem menus_disconnect (link : Option Link) : (s.disconnect link).menus = s.menus := by
  cases link <;> rfl

theorem menus_nameHandle (name : String) (link : Option Link) :
    (s.nameHandle name link).menus = s.menus :=
  menus_disconnect _

theorem menus_dropHandle (name : String) (link : Option Link) :
    (s.dropHandle name link).menus = s.menus :=
  menus_disconnect _

theorem menus_keepWatch (watch : Option Nat) : (s.keepWatch n watch).menus = s.menus := by
  unfold keepWatch
  split <;> rfl

theorem menus_disposeSpy : (s.disposeSpy n).menus = s.menus := by
  unfold disposeSpy
  split
  · rfl
  · rw [menus_disconnect]
    rfl

def unobserve (s : Stage) (m : Menu) : Stage := m.contents.elim s fun c ↦ s.disposeSpy c.spy

theorem menus_unobserve (m : Menu) : (s.unobserve m).menus = s.menus := by
  unfold unobserve
  cases m.contents with
  | none => rfl
  | some c => exact menus_disposeSpy

theorem releaseMenu_eq {m : Menu} (found : s.menus[n]? = some m) :
    s.releaseMenu n = m.themeToken.elim (s.unobserve m) fun token ↦
      ((s.unobserve m).setMenu n { m with themeToken := none }).unsubscribeStore m.store token := by
  unfold releaseMenu unobserve
  rw [found]
  obtain ⟨store, contents, token, isOpen, viewer, alive⟩ := m
  cases token with
  | none => cases contents <;> rfl
  | some token => cases contents <;> exact (unsubscribeStore_setMenu _ _).symm

theorem menus_unsubscribeStore (token : Nat) : (s.unsubscribeStore k token).menus = s.menus := by
  unfold unsubscribeStore
  split <;> rfl

theorem getElem?_releaseMenu (i : Nat) : (s.releaseMenu n).menus[i]? =
    s.menus[i]?.map fun m ↦ if i = n then { m with themeToken := none } else m := by
  cases found : s.menus[n]? with
  | none =>
    rw [releaseMenu, found]
    by_cases h : i = n
    · simp [h, found]
    · simp [h]
  | some m =>
    rw [releaseMenu_eq found]
    have found' : (s.unobserve m).menus[n]? = some m := by rw [menus_unobserve, found]
    cases subscribed : m.themeToken with
    | none =>
      rw [Option.elim_none, menus_unobserve]
      by_cases h : i = n
      · simp [h, found, ← subscribed]
      · simp [h]
    | some token =>
      rw [Option.elim_some, menus_unsubscribeStore, getElem?_setMenu found', menus_unobserve]
      by_cases h : i = n <;> simp [h, found]

theorem getElem?_destroy (o : Object) (i : Nat) : (s.destroy o).menus[i]? =
    s.menus[i]?.map fun m ↦ if o = .menu i then { m with themeToken := none, alive := false }
      else m := by
  cases o with
  | spy k => simp [destroy, menus_disposeSpy]
  | menu n =>
    simp only [destroy, List.getElem?_modify, getElem?_releaseMenu]
    by_cases h : n = i
    · cases s.menus[i]? <;> simp [h]
    · cases s.menus[i]? <;> simp [h, Ne.symm h]

/-- Nothing becomes of a menu but that it is done away with. -/
theorem menu_reclaim {o : Object} {i : Nat} {m' : Menu}
    (found : (s.reclaim o).menus[i]? = some m') :
    ∃ m, s.menus[i]? = some m ∧ (m' = m ∨ m' = { m with themeToken := none, alive := false }) := by
  unfold reclaim at found
  split at found
  · exact ⟨m', found, .inl rfl⟩
  · rw [getElem?_destroy] at found
    obtain ⟨m, found', rfl⟩ := Option.map_eq_some_iff.1 found
    refine ⟨m, found', ?_⟩
    split
    · exact .inr rfl
    · exact .inl rfl

theorem menu_reclaimOld {o : Option Object} {i : Nat} {m' : Menu}
    (found : (s.reclaimOld o).menus[i]? = some m') :
    ∃ m, s.menus[i]? = some m ∧ (m' = m ∨ m' = { m with themeToken := none, alive := false }) := by
  cases o with
  | none => exact ⟨m', found, .inl rfl⟩
  | some o => exact menu_reclaim found

/-- The spies that an object disposes when it is done away with. -/
def Owns (s : Stage) : Object → Nat → Prop
  | .spy n, k => n = k
  | .menu n, k => ∃ m c, s.menus[n]? = some m ∧ m.contents = some c ∧ c.spy = k

section Tidy

variable {P : Stage → Prop} (start : P s)
    (menus : ∀ {s' : Stage} {menus : List Menu}, P s' → P { s' with menus })
  (stores : ∀ {s' : Stage} {stores : List (Mounted (Preference Hearer))}, P s' →
    P { s' with stores })
include start menus stores

/-- Apart from what becomes of menus and preferences, a menu that is released only disposes its
spy. -/
theorem releaseMenu_ind (dispose : ∀ k, s.Owns (.menu n) k → P (s.disposeSpy k)) :
    P (s.releaseMenu n) := by
  cases found : s.menus[n]? with
  | none =>
    have nothing : s.releaseMenu n = s := by rw [releaseMenu, found]
    rwa [nothing]
  | some m =>
    rw [releaseMenu_eq found]
    have observed : P (s.unobserve m) := by
      unfold unobserve
      cases contents : m.contents with
      | none => exact start
      | some c => exact dispose _ ⟨m, c, found, contents, rfl⟩
    cases m.themeToken with
    | none => exact observed
    | some token =>
      simp only [Option.elim_some, unsubscribeStore]
      split
      · exact menus observed
      · exact stores (menus observed)

theorem reclaim_ind {o : Object}
    (dispose : ∀ k, s.isHeld o = false → s.Owns o k → P (s.disposeSpy k)) :
    P (s.reclaim o) := by
  unfold reclaim
  split
  · exact start
  · rename_i unheld
    have unheld := Bool.eq_false_iff.2 unheld
    cases o with
    | spy n => exact dispose n unheld rfl
    | menu n => exact menus (releaseMenu_ind start menus stores fun k owns ↦ dispose k unheld owns)

theorem reclaimOld_ind {o : Option Object}
    (dispose : ∀ o' k, o = some o' → s.isHeld o' = false → s.Owns o' k → P (s.disposeSpy k)) :
    P (s.reclaimOld o) := by
  cases o with
  | none => exact start
  | some o => exact reclaim_ind start menus stores fun k unheld owns ↦ dispose o k rfl unheld owns

end Tidy

theorem names_disconnect (link : Option Link) : (s.disconnect link).names = s.names := by
  cases link <;> rfl

theorem spies_disconnect (link : Option Link) : (s.disconnect link).spies = s.spies := by
  cases link <;> rfl

theorem names_disposeSpy : (s.disposeSpy n).names = s.names := by
  unfold disposeSpy
  split
  · rfl
  · rw [names_disconnect]
    rfl

theorem names_reclaimOld {o : Option Object} : (s.reclaimOld o).names = s.names :=
  reclaimOld_ind (P := fun s' ↦ s'.names = s.names) rfl (fun h ↦ h) (fun h ↦ h) fun _ _ _ _ _ ↦
    names_disposeSpy

theorem names_reclaim {o : Object} : (s.reclaim o).names = s.names := names_reclaimOld (o := some o)

def outline? (s : Stage) (n : Nat) : Option (Registry × String) :=
  s.spies[n]?.map fun m ↦ (m.part.registry, m.part.active)

theorem outline?_disposeSpy (k n : Nat) : (s.disposeSpy k).outline? n = s.outline? n := by
  cases found : s.spies[k]? with
  | none => rw [disposeSpy, found]
  | some m =>
    rw [outline?, disposeSpy_eq found, spies_disconnect, getElem?_setSpy found]
    split
    · subst n
      rw [outline?, found]
      rfl
    · rfl

theorem outline?_releaseMenu (k n : Nat) : (s.releaseMenu k).outline? n = s.outline? n :=
  releaseMenu_ind (P := fun s' ↦ s'.outline? n = s.outline? n) rfl (fun h ↦ h) (fun h ↦ h)
    fun k _ ↦ outline?_disposeSpy k n

theorem outline?_reclaim (o : Object) (n : Nat) : (s.reclaim o).outline? n = s.outline? n :=
  reclaim_ind (P := fun s' ↦ s'.outline? n = s.outline? n) rfl (fun h ↦ h) (fun h ↦ h)
    fun k _ _ ↦ outline?_disposeSpy k n

theorem length_spies_disposeSpy : (s.disposeSpy n).spies.length = s.spies.length := by
  unfold disposeSpy
  split
  · rfl
  · rw [spies_disconnect]
    simp [setSpy]

theorem length_spies_reclaimOld {o : Option Object} :
    (s.reclaimOld o).spies.length = s.spies.length :=
  reclaimOld_ind (P := fun s' ↦ s'.spies.length = s.spies.length) rfl (fun h ↦ h) (fun h ↦ h)
    fun _ _ _ _ _ ↦ length_spies_disposeSpy

theorem names_releaseMenu : (s.releaseMenu n).names = s.names :=
  releaseMenu_ind (P := fun s' ↦ s'.names = s.names) rfl (fun h ↦ h) (fun h ↦ h) fun _ _ ↦
    names_disposeSpy

theorem length_spies_releaseMenu : (s.releaseMenu n).spies.length = s.spies.length :=
  releaseMenu_ind (P := fun s' ↦ s'.spies.length = s.spies.length) rfl (fun h ↦ h) (fun h ↦ h)
    fun _ _ ↦ length_spies_disposeSpy

theorem names_nameMenu (name : String) (n : Nat) :
    (s.nameMenu name n).names.spies = s.names.spies := by
  rw [nameMenu, names_reclaimOld]

theorem length_spies_nameMenu (name : String) (n : Nat) :
    (s.nameMenu name n).spies.length = s.spies.length :=
  length_spies_reclaimOld

end Stage

end Session

end Wayfinder
