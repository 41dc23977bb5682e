import Wayfinder.Proofs.Course
import Wayfinder.Proofs.Quiet

namespace Wayfinder

namespace Document

variable {ω : Type} (d : Document ω)

/-- Each watch gets at most one batch. -/
theorem owners_inform : (d.inform.2.map Delivery.owner).Sublist (d.watches.map Watch.owner) := by
  have all : (d.watches.map fun w ↦ Delivery.mk w.owner (d.news w).1).map Delivery.owner =
      d.watches.map Watch.owner := by
    rw [List.map_map]
    rfl
  rw [← all]
  exact List.filter_sublist.map _

theorem owners_scrollTo (y : Length) (animated : Bool) :
    ((d.scrollTo y animated).2.map Delivery.owner).Sublist (d.watches.map Watch.owner) := by
  unfold scrollTo
  dsimp only
  split
  · exact List.nil_sublist _
  · exact owners_inform _

theorem owners_advanceFrame :
    (d.advanceFrame.2.map Delivery.owner).Sublist (d.watches.map Watch.owner) := by
  unfold advanceFrame
  split
  · exact List.nil_sublist _
  · rename_i next found
    obtain ⟨target, -, rfl⟩ := Option.map_eq_some_iff.1 found
    refine (owners_inform _).trans ?_
    dsimp only
    split <;> exact .refl _

theorem owners_emit (batch : List Entry) :
    (d.emit batch).map Delivery.owner = d.watches.map Watch.owner := by
  rw [emit, List.map_map]
  rfl

end Document

namespace Session

variable {n probe : Nat} {menu : Menu} {before : Snapshot} {s : Stage} {ts : List Errand}

/-- A spy has at most one watch on a document. -/
theorem Kept.count_owners_le {i : Nat} {d : Document Receiver} (kept : Kept s ts)
    (found : s.documents[i]? = some d) (k : Nat) :
    (d.watches.map Watch.owner).count (.spy k) ≤ 1 := by
  have register : s.register? i = some d.registered := Stage.register?_of_found found
  have distinct : ((d.watches.filter (·.owner = .spy k)).map Watch.token).Nodup :=
    (kept.nodup_tokens found).sublist (List.filter_sublist.map _)
  have stands {w : Watch Receiver} (member : w ∈ d.watches.filter (·.owner = .spy k)) :
      s.Stands (.spy k) ⟨i, w.token⟩ := by
    obtain ⟨watch, owner⟩ := List.mem_filter.1 member
    exact ⟨d.registered, register, of_decide_eq_true owner ▸ List.mem_map_of_mem watch⟩
  have same : (d.watches.map Watch.owner).count (.spy k) =
      (d.watches.filter (·.owner = .spy k)).length := by
    rw [List.count, List.countP_map, List.countP_eq_length_filter]
    rfl
  rw [same]
  generalize d.watches.filter (·.owner = .spy k) = mine at distinct stands ⊢
  obtain _ | ⟨w, _ | ⟨w', mine⟩⟩ := mine
  · exact Nat.zero_le 1
  · exact Nat.le_refl 1
  · have equal := kept.stands_unique (stands (.head _)) (stands (.tail _ (.head _)))
    simp [(Link.mk.inj equal).2] at distinct

theorem countP_handAll_le {watches : List Receiver} {ds : List (Delivery Receiver)}
    (single : ∀ k, watches.count (.spy k) ≤ 1) (owners : (ds.map Delivery.owner).Sublist watches) :
    (handAll ds).countP menu.movedBy ≤ 1 := by
  have moves : (handAll ds).countP menu.movedBy = (ds.map Delivery.owner).countP fun o ↦
      menu.movedBy (.hand o []) := by
    rw [handAll, List.countP_map, List.countP_map]
    refine List.countP_congr fun d _ ↦ ?_
    obtain ⟨owner, batch⟩ := d
    cases owner <;> exact .rfl
  rw [moves]
  refine Nat.le_trans (owners.countP_le (p := fun o ↦ menu.movedBy (.hand o []))) ?_
  cases own : menu.spy? with
  | none =>
    have never : watches.countP (fun o ↦ menu.movedBy (.hand o [])) = 0 := by
      refine List.countP_eq_zero.2 fun o _ ↦ ?_
      cases o <;> simp [Menu.movedBy, own]
    omega
  | some k =>
    have counted : watches.countP (fun o ↦ menu.movedBy (.hand o [])) = watches.count (.spy k) := by
      refine List.countP_congr fun o _ ↦ ?_
      cases o with
      | probe i => simp [Menu.movedBy]
      | spy i =>
        simp only [Menu.movedBy, own, decide_eq_true_eq, Option.some.injEq, beq_iff_eq,
          Receiver.spy.injEq]
        exact eq_comm
    rw [counted]
    exact single k

/-- At rest, the menu is subscribed once to its preference, its spy is of no other menu, and a spy
has at most one watch on a document. -/
structure AttachedAtRest (n probe : Nat) (menu : Menu) (s : Stage) :
    Prop extends ListenerAttached n probe menu s where
  theme : ∀ k, (s.hearers (.preference k)).count (.menu n) = if menu.store = k then 1 else 0
  single : ∀ {i : Nat} {d : Document Receiver}, s.documents[i]? = some d → ∀ k,
    (d.watches.map Watch.owner).count (.spy k) ≤ 1
  unshared : ∀ {i k : Nat} {m : Menu}, s.menus[i]? = some m → m.spy? = some k →
    menu.spy? = some k → i = n

theorem History.attachedAtRest {past : List Move} {m : Machine} {v : Viewer}
    (run : History (fun s step ↦ step.sparesMenus s) past m [])
    (found : m.stage.menus[n]? = some menu) (alive : menu.alive)
    (kept : ∀ e ∈ past, e.disposesMenu n = false) (viewer : menu.viewer = some v) :
    AttachedAtRest n v.probe menu m.stage := by
  have token : menu.themeToken.isSome := by
    refine Option.isSome_iff_ne_none.2 fun none ↦ ?_
    obtain ⟨e, made, disposes⟩ := run.exists_disposesMenu found alive none
    rw [kept e made] at disposes
    cases disposes
  have apart : m.Apart := by
    cases run.copiesMatch with
    | told apart => exact apart
  have seen : m.stage.viewer? n = some v := Stage.viewer?_eq_some.2 ⟨menu, found, viewer⟩
  exact
    { present := ⟨v.seen, by rw [found, ← viewer]⟩
      alive
      heard := fun k ↦ by simpa [Menu.follows] using run.count_hearers found token (.spy k)
      apart := fun seen' same ↦ apart.apart seen' seen same
      named := fun found alive ↦ run.named_of_alive found alive
      theme := fun k ↦ by simpa [Menu.follows] using run.count_hearers found token (.preference k)
      single := fun found k ↦ run.kept.count_owners_le found k
      unshared := fun found' spy own ↦ run.unshared _ _ _ _ _ found' found spy own }

/-- What an operation leaves to be done: the new snapshot is owed if it is not the one from before;
or the menu shows what it showed, and may move once. -/
structure OwesNews (n probe : Nat) (menu : Menu) (before : Snapshot) (s : Stage)
    (ts : List Errand) : Prop
    extends ListenerAttached n probe menu s where
  brief : ∀ t ∈ ts, s.isBrief t
  owes : owed n probe (s.snapshot menu) ts = before.news (s.snapshot menu)
  once : ts.countP menu.movedBy ≤ 1
  calm : s.snapshot menu = before ∨ ts.countP menu.movedBy = 0

theorem ListenerAttached.owesNews (h : ListenerAttached n probe menu s)
    (brief : ∀ t ∈ ts, s.isBrief t) (unmoved : ts.countP menu.movedBy = 0)
    (owes : owed n probe (s.snapshot menu) ts = before.news (s.snapshot menu)) :
    OwesNews n probe menu before s ts where
  toListenerAttached := h
  brief
  owes
  once := by omega
  calm := .inr unmoved

theorem ListenerAttached.nothing (h : ListenerAttached n probe menu s) :
    OwesNews n probe menu (s.snapshot menu) s [] :=
  h.owesNews (fun _ member ↦ absurd member List.not_mem_nil) rfl (Snapshot.news_self _).symm

theorem OwesNews.shown {m m' : Machine} (h : OwesNews n probe menu before m.stage ts)
    (inert : m.Inert) (done : m.run (ts.map .errand) = m') :
    m.shown probe (ts.map .errand) = before.news (m'.stage.snapshot menu) ∧
    ListenerAttached n probe menu m'.stage := by
  obtain same | unmoved := h.calm
  · have none : owed n probe (m.stage.snapshot menu) ts = [] := by
      rw [h.owes, same, Snapshot.news_self]
    obtain ⟨shown, -, -, attached, -⟩ :=
      h.toListenerAttached.shown true inert h.brief h.once (fun _ ↦ none) done
    rw [shown, none, same]
    exact ⟨rfl, attached⟩
  · obtain ⟨shown, -, fixed, attached, -⟩ :=
      h.toListenerAttached.shown false inert h.brief (Nat.le_of_eq unmoved) Bool.noConfusion done
    rw [shown, fixed rfl, Snapshot.news_self, List.append_nil, h.owes]
    exact ⟨rfl, attached⟩

namespace OwesNews

theorem append (ts' : List Errand) (h : OwesNews n probe menu before s ts)
    (brief : ∀ t ∈ ts', s.isBrief t) (none : owed n probe (s.snapshot menu) ts' = [])
    (unmoved : ts'.countP menu.movedBy = 0) :
    OwesNews n probe menu before s (ts ++ ts') where
  toListenerAttached := h.toListenerAttached
  brief := List.forall_mem_append.2 ⟨h.brief, brief⟩
  owes := by rw [owed_append, none, List.append_nil, h.owes]
  once := by rw [List.countP_append, unmoved]; exact h.once
  calm := by rw [List.countP_append, unmoved]; exact h.calm

theorem letGo {o : Object} (h : OwesNews n probe menu before s ts) (named : s.isNamed o) :
    OwesNews n probe menu before s (ts ++ [.letGo o]) :=
  h.append [.letGo o] (List.forall_mem_singleton.2 named) rfl rfl

end OwesNews

namespace Stage

variable {k : Nat}
  {op : Preference Hearer → Document Receiver → Faults → Preference.Change Hearer Receiver}

theorem snapshot_setStore {m : Mounted (Preference Hearer)} {p : Preference Hearer}
    (found : s.stores[k]? = some m) :
    (s.setStore k p).snapshot menu =
      { s.snapshot menu with theme := if menu.store = k then p.theme else s.theme menu.store } := by
  have theme : (s.setStore k p).theme menu.store =
      if menu.store = k then p.theme else s.theme menu.store := by
    by_cases own : menu.store = k
    · rw [theme, getElem?_setStore found, if_pos own, if_pos own]
    · rw [theme, getElem?_setStore found, if_neg own, if_neg own, theme]
  rw [snapshot, theme]
  rfl

theorem names_changeStore : (s.changeStore k op).stage.names = s.names := by
  unfold changeStore
  split
  · rfl
  · split <;> rfl

theorem snapshot_changeStore :
    (s.changeStore k op).stage.snapshot menu =
      { s.snapshot menu with theme := ((s.changeStore k op).stage.snapshot menu).theme } := by
  unfold changeStore
  split
  · rfl
  · split <;> rfl

theorem countP_changeStore : (s.changeStore k op).errands.countP menu.movedBy = 0 := by
  unfold changeStore
  split
  · rfl
  · split
    · rfl
    · exact countP_tellAll

end Stage

namespace AttachedAtRest

theorem hold (h : AttachedAtRest n probe menu s) (o : Object) :
    AttachedAtRest n probe menu (s.hold o) where
  toListenerAttached := h.toListenerAttached.congr rfl (fun _ ↦ rfl) rfl
  theme := h.theme
  single := h.single
  unshared := h.unshared

/-- Batches that watches get, each at most one. -/
theorem deliver {f : Document Receiver → Document Receiver × List (Delivery Receiver)}
    {outcome : Document Receiver → Outcome} (h : AttachedAtRest n probe menu s)
    (owners : ∀ d, ((f d).2.map Delivery.owner).Sublist (d.watches.map Watch.owner)) :
    OwesNews n probe menu (s.snapshot menu)
      (s.onDocument s.current fun d ↦ s.deliver s.current (f d) (outcome d)).stage
      (s.onDocument s.current fun d ↦ s.deliver s.current (f d) (outcome d)).errands := by
  unfold Stage.onDocument
  split
  · rename_i d found
    refine ⟨h.toListenerAttached.congr rfl (fun _ ↦ rfl) rfl, ?_, ?_,
      countP_handAll_le (h.single found) (owners d), .inl rfl⟩
    · intro t member
      obtain ⟨delivery, -, rfl⟩ := List.mem_map.1 member
      rfl
    · have none : owed n probe (s.snapshot menu) (handAll (f d).2) = [] := by
        refine List.filterMap_eq_nil_iff.2 fun t member ↦ ?_
        obtain ⟨delivery, -, rfl⟩ := List.mem_map.1 member
        rfl
      exact none.trans (Snapshot.news_self _).symm
  · exact h.toListenerAttached.nothing

/-- A preference changes: those of its menus that show it are told once each. -/
theorem change {k : Nat}
    {op : Preference Hearer → Document Receiver → Faults → Preference.Change Hearer Receiver}
    (h : AttachedAtRest n probe menu s)
    (themeChangeOnly : ∀ p d faults, Preference.ThemeChangeOnly p d (op p d faults)) :
    OwesNews n probe menu (s.snapshot menu)
    (s.changeStore k op).stage (s.changeStore k op).errands := by
  unfold Stage.changeStore
  split
  · exact h.toListenerAttached.nothing
  · rename_i m found
    split
    · exact h.toListenerAttached.nothing
    · rename_i d present
      obtain ⟨-, told, -, -⟩ := themeChangeOnly m.part d s.faults
      generalize op m.part d s.faults = c at told
      have shown : ((s.setStore k c.preference).setDocument m.document c.document).snapshot menu =
          { s.snapshot menu with
            theme := if menu.store = k then c.preference.theme else s.theme menu.store } :=
        Stage.snapshot_setStore found
      have attached :
          ListenerAttached n probe menu
            ((s.setStore k c.preference).setDocument m.document c.document) :=
        h.toListenerAttached.congr rfl (fun _ ↦ rfl) rfl
      refine attached.owesNews Stage.isBrief_tellAll countP_tellAll ?_
      rw [owed_tellAll (by simp), shown]
      have heard := h.theme k
      rw [Stage.hearers_preference found] at heard
      by_cases own : menu.store = k
      · have now : s.theme menu.store = m.part.theme := by rw [Stage.theme, own, found]
        rw [if_pos own] at heard ⊢
        by_cases same : m.part.theme = c.preference.theme
        · rw [told, if_pos same, ← same, ← now]
          exact (Snapshot.news_self _).symm
        · rw [told, if_neg same, heard, Snapshot.news_of_ne]
          · rfl
          · intro equal
            exact same (now.symm.trans (congrArg Snapshot.theme equal).symm)
      · rw [if_neg own] at heard ⊢
        have none : c.told.count (.menu n) = 0 := by
          rw [told]
          split
          · rfl
          · exact heard
        rw [none]
        exact (Snapshot.news_self _).symm

end AttachedAtRest

/-- The panel of a menu is opened or closed. -/
theorem ListenerAttached.setOpen (h : ListenerAttached n probe menu s) (i : Nat) (isOpen : Bool) :
    ∃ menu', OwesNews n probe menu' (s.snapshot menu)
    (s.setOpen i isOpen).stage (s.setOpen i isOpen).errands := by
  unfold Stage.setOpen
  split
  · exact ⟨menu, h.nothing⟩
  · rename_i m found
    have brief : ∀ t ∈ if m.isOpen = isOpen then [] else [Errand.redraw i],
        (s.setMenu i { m with isOpen }).isBrief t := by
      split <;> simp [Stage.isBrief]
    have unmoved (menu : Menu) :
        (if m.isOpen = isOpen then [] else [Errand.redraw i]).countP menu.movedBy = 0 := by
      split <;> rfl
    by_cases here : i = n
    · subst here
      obtain ⟨seen, present⟩ := h.present
      cases found.symm.trans present
      have attached : ListenerAttached i probe { menu with isOpen }
          (s.setMenu i { menu with isOpen, viewer := some ⟨probe, seen⟩ }) :=
        h.setMenu found rfl rfl rfl rfl (by rw [if_pos rfl]; exact ⟨seen, rfl⟩)
      refine ⟨{ menu with isOpen }, attached.owesNews brief (unmoved _) ?_⟩
      by_cases same : menu.isOpen = isOpen
      · subst same
        rw [if_pos rfl]
        exact (Snapshot.news_self _).symm
      · rw [if_neg same, Snapshot.news_of_ne fun equal ↦ same (congrArg Snapshot.isOpen equal).symm,
          owed_cons, Errand.owes, if_pos rfl]
        rfl
    · have attached : ListenerAttached n probe menu (s.setMenu i { m with isOpen }) :=
        h.setMenu found rfl rfl rfl rfl (by rw [if_neg here])
      refine ⟨menu, attached.owesNews brief (unmoved _) ?_⟩
      have none : owed n probe (s.snapshot menu)
          (if m.isOpen = isOpen then [] else [Errand.redraw i]) = [] := by
        split
        · rfl
        · rw [owed_cons, Errand.owes, if_neg here]
          rfl
      exact none.trans (Snapshot.news_self _).symm

theorem ListenerAttached.onMenu {name : String} {f : Nat → Menu → Reply}
    (h : ListenerAttached n probe menu s)
    (each : ∀ (i : Nat) (m : Menu), s.names.menus.get? name = some i → s.menus[i]? = some m →
      ∃ menu', OwesNews n probe menu' (s.snapshot menu) (f i m).stage (f i m).errands) :
    ∃ menu', OwesNews n probe menu' (s.snapshot menu)
    (s.onMenu name f).stage (s.onMenu name f).errands := by
  unfold Stage.onMenu
  split
  · exact ⟨menu, h.nothing⟩
  · split
    · exact each _ _ ‹_› ‹_›
    · exact ⟨menu, h.nothing⟩

theorem ListenerAttached.onStore {name : String} {f : Nat → Mounted (Preference Hearer) → Reply}
    (h : ListenerAttached n probe menu s) (each : ∀ (k : Nat) (m : Mounted (Preference Hearer)),
      ∃ menu', OwesNews n probe menu' (s.snapshot menu) (f k m).stage (f k m).errands) :
    ∃ menu', OwesNews n probe menu' (s.snapshot menu)
    (s.onStore name f).stage (s.onStore name f).errands := by
  unfold Stage.onStore
  split
  · exact ⟨menu, h.nothing⟩
  · split
    · exact each _ _
    · exact ⟨menu, h.nothing⟩

namespace Stage

theorem isNamed_of_get? {name : String} {i : Nat} (named : s.names.menus.get? name = some i) :
    s.isNamed (.menu i) :=
  Table.any_of_get? (p := (· = i)) named (decide_eq_true rfl)

theorem names_setOpen {i : Nat} {isOpen : Bool} : (s.setOpen i isOpen).stage.names = s.names := by
  unfold setOpen
  split <;> rfl

/-- A section is selected: the page may be asked to scroll, and the panel is closed. -/
theorem selectSection_cases (i : Nat) (m : Menu) (id : String) :
    ∃ documents : List (Document Receiver),
      (s.selectSection i m id).stage = (setOpen { s with documents } i false).stage ∧
        (s.selectSection i m id).errands = (setOpen { s with documents } i false).errands := by
  unfold selectSection
  dsimp only
  split
  · unfold revealWith
    split
    · exact ⟨s.documents, rfl, rfl⟩
    · exact ⟨_, rfl, rfl⟩
  · exact ⟨s.documents, rfl, rfl⟩

end Stage

/-- The operations on pages, preferences and menus that can change what menus show. Starting a menu
is not among them. -/
def Step.alters : Step → Bool
  | .page (.userScroll _) | .page (.scrollTo _ _) | .page .frame | .page (.emit _) => true
  | .store _ .load | .store _ .toggle => true
  | .menu _ (.select _) | .menu _ .toggle | .menu _ .close | .menu _ .toggleTheme => true
  | _ => false

namespace AttachedAtRest

theorem performPage {op : PageOp} (h : AttachedAtRest n probe menu s)
    (alters : Step.alters (.page op)) :
    ∃ menu', OwesNews n probe menu' (s.snapshot menu)
    (s.performPage op).stage (s.performPage op).errands := by
  cases op with
  | userScroll y => exact ⟨menu, h.deliver (f := (·.userScroll y)) fun d ↦ Document.owners_inform _⟩
  | scrollTo y animated =>
    exact ⟨menu, h.deliver (f := (·.scrollTo y animated)) fun d ↦ d.owners_scrollTo y animated⟩
  | frame => exact ⟨menu, h.deliver (f := (·.advanceFrame)) fun d ↦ d.owners_advanceFrame⟩
  | emit batch =>
    refine ⟨menu, h.deliver (f := fun d ↦ (d, d.emit batch)) fun d ↦ ?_⟩
    rw [d.owners_emit]
  | _ => cases alters

theorem performStore {name : String} {op : StoreOp} (h : AttachedAtRest n probe menu s)
    (alters : Step.alters (.store name op)) :
    ∃ menu', OwesNews n probe menu' (s.snapshot menu) (s.performStore name op).stage
      (s.performStore name op).errands := by
  cases op with
  | load => exact h.toListenerAttached.onStore fun k _ ↦
    ⟨menu, h.change Preference.load_themeChangeOnly⟩
  | toggle => exact h.toListenerAttached.onStore fun k _ ↦
    ⟨menu, h.change Preference.toggle_themeChangeOnly⟩
  | _ => cases alters

theorem performMenu {name : String} {op : MenuOp} (h : AttachedAtRest n probe menu s)
    (alters : Step.alters (.menu name op)) :
    ∃ menu', OwesNews n probe menu' (s.snapshot menu) (s.performMenu name op).stage
      (s.performMenu name op).errands := by
  have panel (s' : Stage) (i : Nat) (isOpen : Bool) (attached : ListenerAttached n probe menu s')
      (shown : s'.snapshot menu = s.snapshot menu) (named : s'.isNamed (.menu i)) :
      ∃ menu', OwesNews n probe menu' (s.snapshot menu) (s'.setOpen i isOpen).stage
        ((s'.setOpen i isOpen).errands ++ [.letGo (.menu i)]) := by
    obtain ⟨menu', owesNews⟩ := attached.setOpen i isOpen
    rw [← shown]
    exact ⟨menu', owesNews.letGo (by rwa [Stage.isNamed_congr Stage.names_setOpen])⟩
  cases op with
  | select id =>
    refine h.toListenerAttached.onMenu fun i m named found ↦ ?_
    obtain ⟨documents, stage, errands⟩ := (s.hold (.menu i)).selectSection_cases i m id
    have closed :=
      panel { s.hold (.menu i) with documents } i false
        (h.toListenerAttached.congr rfl (fun _ ↦ rfl) rfl) rfl
      (Stage.isNamed_of_get? named)
    rwa [← stage, ← errands] at closed
  | toggle =>
    refine h.toListenerAttached.onMenu fun i m named found ↦ ?_
    exact panel (s.hold (.menu i)) i _ (h.hold (.menu i)).toListenerAttached rfl
      (Stage.isNamed_of_get? named)
  | close =>
    refine h.toListenerAttached.onMenu fun i m named found ↦ ?_
    exact panel (s.hold (.menu i)) i _ (h.hold (.menu i)).toListenerAttached rfl
      (Stage.isNamed_of_get? named)
  | toggleTheme =>
    refine h.toListenerAttached.onMenu fun i m named found ↦ ⟨menu, ?_⟩
    refine ((h.hold (.menu i)).change Preference.toggle_themeChangeOnly).letGo ?_
    rw [Stage.isNamed_congr Stage.names_changeStore]
    exact Stage.isNamed_of_get? named
  | _ => cases alters

theorem perform {step : Step} (h : AttachedAtRest n probe menu s) (alters : step.alters) (p : Nat) :
    ∃ menu', OwesNews n probe menu' (s.snapshot menu)
    (s.perform p step).stage (s.perform p step).errands := by
  cases step with
  | page op => exact h.performPage alters
  | store name op => exact h.performStore alters
  | menu name op => exact h.performMenu alters
  | _ => cases alters

theorem startMenu {name : String} {i : Nat} {m : Menu} (h : AttachedAtRest n probe menu s)
    (named : s.names.menus.get? name = some i) (found : s.menus[i]? = some m) (other : i ≠ n) :
    OwesNews n probe menu (s.snapshot menu) (s.holding (.menu i) (·.startMenu i m)).stage
      (s.holding (.menu i) (·.startMenu i m)).errands := by
  have loaded := (h.hold (.menu i)).change (k := m.store) Preference.load_themeChangeOnly
  have observed :
      OwesNews n probe menu (s.snapshot menu) ((s.hold (.menu i)).loadStore m.store).stage
      (((s.hold (.menu i)).loadStore m.store).errands ++ m.contents.toList.map fun c ↦
        Errand.observe c.spy) := by
    cases contents : m.contents with
    | none => exact loaded.append [] (by simp) rfl rfl
    | some c =>
      have foreign : menu.spy? ≠ some c.spy := by
        intro own
        exact other (h.unshared found (by rw [Menu.spy?, contents, Option.map_some]) own)
      exact loaded.append [.observe c.spy] (by simp [Stage.isBrief]) rfl
        (by simp [Menu.movedBy, foreign])
  have redrawn :=
    observed.append [.redraw i] (by simp [Stage.isBrief]) (by simp [owed, Errand.owes, other]) rfl
  refine redrawn.letGo ?_
  exact (Stage.isNamed_congr Stage.names_changeStore _).trans (Stage.isNamed_of_get? named)

/-- Another menu is started, or none. -/
theorem start_other {name : String} (h : AttachedAtRest n probe menu s)
    (other : s.names.menus.get? name ≠ some n) :
    ∃ menu', OwesNews n probe menu' (s.snapshot menu) (s.performMenu name .start).stage
      (s.performMenu name .start).errands :=
  h.toListenerAttached.onMenu fun _ _ named found ↦
    ⟨menu, h.startMenu named found fun same ↦ other (same ▸ named)⟩

end AttachedAtRest

namespace Machine

variable {m m' : Machine}

/-- What a listener is called with while a step is taken and all that follows is done. -/
def calls (m : Machine) (probe : Nat) (step : Step) : List Snapshot :=
  (m.take step).shown probe ((m.reply step).errands.map .errand)

theorem Inert.take {step : Step} (inert : m.Inert) (none : newProbe step = []) :
    (m.take step).Inert := by
  intro p member
  rw [Machine.take, none, List.append_nil] at member
  exact inert p member

end Machine

/-- What is to be shown when a menu is started: the theme if it changes, then the section if it
changes, and in any case the menu as it is at the end. -/
def Snapshot.startNews (before after : Snapshot) : List Snapshot :=
  before.news { before with theme := after.theme } ++
    Snapshot.news { before with theme := after.theme } after ++ [after]

def Menu.startErrands (menu : Menu) (n : Nat) (told : List Errand) : List Errand :=
  told ++ (menu.contents.toList.map fun c ↦ Errand.observe c.spy) ++ [.redraw n, .letGo (.menu n)]

/-- The listener is called when the theme changes, when the menu moves, and at the end. -/
theorem OwesNews.shown_start {m m' : Machine} (h : OwesNews n probe menu before m.stage ts)
    (inert : m.Inert) (unmoved : ts.countP menu.movedBy = 0)
    (themed : m.stage.snapshot menu = { before with theme := (m.stage.snapshot menu).theme })
    (done : m.run ((menu.startErrands n ts).map .errand) = m') :
    m.shown probe ((menu.startErrands n ts).map .errand) =
      before.startNews (m'.stage.snapshot menu) ∧
      ListenerAttached n probe menu m'.stage := by
  rw [Menu.startErrands, List.map_append, List.map_append] at done ⊢
  rw [Machine.run_append, Machine.run_append] at done
  rw [Machine.shown, Machine.collect_append, Machine.collect_append, Machine.run_append,
    ← Machine.shown, ← Machine.shown, ← Machine.shown]
  -- while the theme is told of the menu cannot move, and in the observation it moves at most once
  generalize first : m.run (ts.map .errand) = m₁ at done ⊢
  generalize second : m₁.run ((menu.contents.toList.map fun c ↦ Errand.observe c.spy).map .errand) =
    m₂ at done ⊢
  obtain ⟨shown₁, -, fixed₁, attached₁, inert₁⟩ :=
    h.toListenerAttached.shown false inert h.brief (Nat.le_of_eq unmoved) Bool.noConfusion first
  have none (shown : Snapshot) :
      owed n probe shown (menu.contents.toList.map fun c ↦ Errand.observe c.spy) = [] := by
    cases menu.contents <;> rfl
  have once : (menu.contents.toList.map fun c ↦ Errand.observe c.spy).countP menu.movedBy ≤ 1 :=
    Nat.le_trans List.countP_le_length (by cases menu.contents <;> simp)
  obtain ⟨shown₂, still₂, -, attached₂, inert₂⟩ :=
    attached₁.shown true inert₁ (by simp [Stage.isBrief]) once (fun _ ↦ none _) second
  obtain ⟨seen, present⟩ := attached₂.present
  have named : m₂.stage.isNamed (.menu n) := attached₂.named present attached₂.alive
  obtain ⟨shown₃, -, fixed₃, attached₃, -⟩ :=
    attached₂.shown false inert₂ (by simp [Stage.isBrief, named])
      (Nat.zero_le _) Bool.noConfusion done
  have last (shown : Snapshot) : owed n probe shown [.redraw n, .letGo (.menu n)] = [shown] := by
    rw [owed_cons, Errand.owes, if_pos rfl]
    rfl
  have theme : (m'.stage.snapshot menu).theme = (m.stage.snapshot menu).theme := by
    rw [fixed₃ rfl, still₂, fixed₁ rfl]
  refine ⟨?_, attached₃⟩
  rw [fixed₁ rfl, Snapshot.news_self, List.append_nil, h.owes] at shown₁
  rw [none, List.nil_append, fixed₁ rfl] at shown₂
  rw [last, fixed₃ rfl, Snapshot.news_self, List.append_nil] at shown₃
  rw [shown₁, shown₂, shown₃, Snapshot.startNews, theme, ← themed, fixed₃ rfl, List.append_assoc]

theorem AttachedAtRest.start_own {m m' : Machine} {name : String}
    (h : AttachedAtRest n probe menu m.stage) (inert : m.Inert)
    (named : m.stage.names.menus.get? name = some n) (done : m.step (.menu name .start) = m') :
    m.calls probe (.menu name .start) = (m.stage.snapshot menu).startNews (m'.stage.snapshot menu) ∧
      ListenerAttached n probe menu m'.stage := by
  obtain ⟨seen, present⟩ := h.present
  have reply : m.reply (.menu name .start) =
      (m.stage.holding (.menu n) (·.startMenu n { menu with viewer := some ⟨probe, seen⟩ })).reply
        .nothing := by
    simp only [Machine.reply, Stage.perform, Stage.performMenu, Stage.onMenu, named, present]
  have stage : (m.take (.menu name .start)).stage =
      ((m.stage.hold (.menu n)).loadStore menu.store).stage := by
    rw [Machine.take, reply]
    rfl
  have errands : (m.reply (.menu name .start)).errands =
      menu.startErrands n ((m.stage.hold (.menu n)).loadStore menu.store).errands := by
    rw [reply, Menu.startErrands]
    exact List.append_assoc _ _ _
  have loaded : OwesNews n probe menu (m.stage.snapshot menu) (m.take (.menu name .start)).stage
      ((m.stage.hold (.menu n)).loadStore menu.store).errands := by
    rw [stage]
    exact (h.hold (.menu n)).change Preference.load_themeChangeOnly
  rw [Machine.step, errands] at done
  rw [Machine.calls, errands]
  refine loaded.shown_start (inert.take rfl) Stage.countP_changeStore ?_ done
  rw [stage]
  exact Stage.snapshot_changeStore

/-- At rest, with listeners that take no steps: an operation calls the listener of a menu once, with
the new snapshot, if it changes what the menu shows, and else not at all. So it is when another menu
is started; a menu that is started itself calls its listener for each change and then once more. -/
theorem calls_eq_news {past : List Move} {m : Machine} {v : Viewer}
    (run : History (fun s step ↦ step.sparesMenus s) past m []) (inert : m.Inert)
    (found : m.stage.menus[n]? = some menu) (alive : menu.alive)
    (kept : ∀ e ∈ past, e.disposesMenu n = false) (viewer : menu.viewer = some v) :
    (∀ step : Step, step.alters → ∃ menu', (m.step step).stage.menus[n]? = some menu' ∧
      m.calls v.probe step = (m.stage.snapshot menu).news ((m.step step).stage.snapshot menu')) ∧
    ∀ name : String, ∃ menu', (m.step (.menu name .start)).stage.menus[n]? = some menu' ∧
      m.calls v.probe (.menu name .start) =
        if m.stage.names.menus.get? name = some n then
          (m.stage.snapshot menu).startNews ((m.step (.menu name .start)).stage.snapshot menu')
        else (m.stage.snapshot menu).news ((m.step (.menu name .start)).stage.snapshot menu') := by
  have attachedAtRest := run.attachedAtRest found alive kept viewer
  have settled {step : Step} {menu' : Menu} (none : Machine.newProbe step = [])
      (owesNews : OwesNews n v.probe menu' (m.stage.snapshot menu) (m.take step).stage
        (m.reply step).errands) :
      ∃ menu', (m.step step).stage.menus[n]? = some menu' ∧
        m.calls v.probe step = (m.stage.snapshot menu).news
          ((m.step step).stage.snapshot menu') := by
    obtain ⟨shown, attached⟩ := owesNews.shown (inert.take none) rfl
    obtain ⟨seen, present⟩ := attached.present
    exact ⟨_, present, shown⟩
  constructor
  · intro step alters
    obtain ⟨menu', owesNews⟩ := attachedAtRest.perform alters m.probes.length
    refine settled ?_ owesNews
    cases step with
    | listen => cases alters
    | _ => rfl
  · intro name
    split
    · rename_i own
      obtain ⟨shown, attached⟩ := attachedAtRest.start_own inert own rfl
      obtain ⟨seen, present⟩ := attached.present
      exact ⟨_, present, shown⟩
    · rename_i other
      obtain ⟨menu', owesNews⟩ := attachedAtRest.start_other other
      exact settled rfl owesNews

def sharedTheme : List Step :=
  [.store "theme" (.create "theme"),
    .menu "contents" (.create "theme" [⟨"a", "A"⟩, ⟨"b", "B"⟩] 0 ⟨20, 80⟩),
    .menu "bar" (.createBare "theme"),
    .listen (.menu "contents") "reader" [] 3,
    .listen (.menu "bar") "writer" [.menu "contents" .toggle] 1,
    .menu "contents" .start,
    .menu "bar" .toggleTheme]

theorem calls_eq_news_sharedTheme :
    ∃ m past menu v, Machine.journal? 50 sharedTheme (.opened twoSections)
    [] = some (m, past) ∧ m.Inert ∧
      m.stage.menus[0]? = some menu ∧ menu.alive ∧ (∀ e ∈ past, e.disposesMenu 0 = false) ∧
      menu.viewer = some v ∧
        m.calls v.probe (.page (.userScroll 100)) = [⟨some "b", .dark, true⟩] := by
  have checked : ∃ r ∈ Machine.journal? 50 sharedTheme (.opened twoSections) [],
      (∀ e ∈ r.2, Allows (fun s step ↦ step.sparesMenus s) e.machine.stage e.job ∧
        e.disposesMenu 0 = false) ∧
      (∀ p ∈ r.1.probes, p.left = 0 ∨ p.script = []) ∧
      (∃ menu ∈ r.1.stage.menus[0]?, menu.alive ∧ menu.viewer.isSome ∧
        r.1.stage.snapshot menu = ⟨some "a", .dark, true⟩) ∧
      ∃ scrolled ∈ some (Machine.after 50 (r.1.take (.page (.userScroll 100)))
        ((r.1.reply (.page (.userScroll 100))).errands.map .errand)), scrolled.2.isEmpty ∧
          scrolled.1.stage.menus[0]?.map scrolled.1.stage.snapshot =
            some ⟨some "b", .dark, true⟩ := by decide +kernel
  obtain ⟨⟨m, past⟩, kept, moves, inert, ⟨menu, found, alive, listened, before⟩, scrolled, same,
      done, after⟩ := checked
  obtain rfl := Option.some.inj same
  obtain ⟨v, viewer⟩ := Option.isSome_iff_exists.1 listened
  have run := (History.opened twoSections).journal kept fun e h ↦ (moves e h).1
  obtain ⟨menu', present, calls⟩ :=
    (calls_eq_news run inert found alive (fun e h ↦ (moves e h).2) viewer).1
      (.page (.userScroll 100)) rfl
  rw [Machine.step, Machine.run_eq_after _ done] at present calls
  have shown := (congrArg (Option.map _) present).symm.trans after
  refine ⟨m, past, menu, v, kept, inert, found, alive, fun e h ↦ (moves e h).2, viewer, ?_⟩
  rw [calls, before, Option.some.inj shown]
  rfl

end Session

end Wayfinder
