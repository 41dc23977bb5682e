import Wayfinder.Proofs.Hearers
import Wayfinder.Proofs.Holders

namespace Wayfinder.Session

/-- What is to be shown of a change: the new snapshot, if it is another one. -/
def Snapshot.news (before after : Snapshot) : List Snapshot :=
  if after = before then [] else [after]

@[simp] theorem Snapshot.news_self (shown : Snapshot) : shown.news shown = [] := if_pos rfl

theorem Snapshot.eq_of_length_news {before after : Snapshot}
    (none : (before.news after).length = 0) :
    after = before := by
  unfold news at none
  split at none
  · assumption
  · cases none

theorem Snapshot.news_of_ne {before after : Snapshot} (other : after ≠ before) :
    before.news after = [after] :=
  if_neg other

def Errand.shownTo (probe : Nat) : Errand → Option Snapshot
  | .call p (.menu shown) => if p = probe then some shown else none
  | _ => none

def Job.shownTo (probe : Nat) : Job → Option Snapshot
  | .errand t => t.shownTo probe
  | _ => none

def Errand.sparesSpies : Errand → Bool
  | .tell _ _ | .redraw _ | .call _ _ | .letGo _ => true
  | _ => false

namespace Stage

variable (s : Stage)

/-- Nothing that follows from such an errand moves a spy. -/
theorem spares_carry {t : Errand} (spares : t.sparesSpies) :
    ∀ t' ∈ (s.carry t).errands, t'.sparesSpies := by
  cases t with
  | tell hearer news =>
    cases hearer with
    | probe probe => simp [carry, Errand.sparesSpies]
    | menu n =>
      simp only [carry, tellMenu]
      split
      · simp
      · split <;> simp [Errand.sparesSpies]
  | redraw n =>
    simp only [carry, redrawMenu]
    split
    · simp
    · split <;> simp [Errand.sparesSpies]
  | call | letGo => simp [carry]
  | frames | observe | hand | keepWatch | keepHandle => cases spares

theorem spares_setOpen (n : Nat) (isOpen : Bool) :
    ∀ t ∈ (s.setOpen n isOpen).errands, t.sparesSpies := by
  unfold setOpen
  split
  · simp
  · dsimp only
    split <;> simp [Errand.sparesSpies]

theorem spares_selectSection (n : Nat) (m : Menu) (id : String) :
    ∀ t ∈ (s.selectSection n m id).errands, t.sparesSpies :=
  spares_setOpen _ n false

theorem spares_toggleStore (n : Nat) : ∀ t ∈ (s.toggleStore n).errands, t.sparesSpies := by
  unfold toggleStore changeStore
  split
  · simp
  · split <;> simp [tellAll, Errand.sparesSpies]

end Stage

namespace Machine

/-- The snapshots that a listener is called with while the jobs of an agenda are done and all that
follows. -/
def shown (probe : Nat) (m : Machine) (jobs : List Job) : List Snapshot :=
  m.collect (fun _ j ↦ j.shownTo probe) jobs

variable {m : Machine}

/-- No listener takes any steps any more. -/
def Inert (m : Machine) : Prop := ∀ p ∈ m.probes, p.left = 0 ∨ p.script = []

instance : Decidable m.Inert :=
  inferInstanceAs (Decidable (∀ p ∈ m.probes, p.left = 0 ∨ p.script = []))

/-- With such listeners, errands lead to errands only. -/
theorem Inert.advance (inert : m.Inert) (t : Errand) :
    (m.advance (.errand t)).1.stage = (m.stage.carry t).stage ∧
      (m.advance (.errand t)).2 = (m.stage.carry t).errands.map .errand ∧
      (m.advance (.errand t)).1.Inert := by
  by_cases calls : ∃ probe notice, t = .call probe notice
  · obtain ⟨probe, notice, rfl⟩ := calls
    refine ⟨m.call_stage probe notice, ?_, ?_⟩
    · simp only [Machine.advance, call]
      split
      · rfl
      · rename_i p found
        split
        · rfl
        · rename_i left
          obtain none | none := inert p (List.mem_of_getElem? found)
          · exact absurd none left
          · rw [none]
            rfl
    · simp only [Machine.advance, call]
      split
      · exact inert
      · rename_i p found
        split
        · exact inert
        · intro p' member
          obtain member | rfl := List.mem_or_eq_of_mem_set member
          · exact inert p' member
          · refine (inert p (List.mem_of_getElem? found)).imp_left fun none ↦ ?_
            simp [none]
  · rw [m.advance_errand fun probe notice same ↦ calls ⟨probe, notice, same⟩]
    exact ⟨rfl, rfl, inert⟩

end Machine

/-- What the errand will have the listener of menu `n` called with, if the menu shows `shown` from
now on. -/
def Errand.owes (n probe : Nat) (shown : Snapshot) : Errand → Option Snapshot
  | .redraw i | .tell (.menu i) _ => if i = n then some shown else none
  | .call p (.menu told) | .tell (.probe p) (.menu told) => if p = probe then some told else none
  | _ => none

def owed (n probe : Nat) (shown : Snapshot) (ts : List Errand) : List Snapshot :=
  ts.filterMap (Errand.owes n probe shown)

def Menu.movedBy (m : Menu) : Errand → Bool
  | .hand (.spy k) _ | .observe k => m.spy? = some k
  | _ => false

def Stage.isBrief (s : Stage) : Errand → Bool
  | .frames _ _ | .keepHandle _ _ => false
  | .letGo o => s.isNamed o
  | _ => true

section Owed

variable {n probe : Nat} {shown shown' : Snapshot} {ts ts' : List Errand}

theorem owed_cons (t : Errand) :
    owed n probe shown (t :: ts) = (t.owes n probe shown).toList ++ owed n probe shown ts := by
  rw [owed, List.filterMap_cons]
  cases t.owes n probe shown <;> rfl

theorem owed_append :
    owed n probe shown (ts ++ ts') = owed n probe shown ts ++ owed n probe shown ts' :=
  List.filterMap_append

theorem countP_tellAll {menu : Menu} {hearers : List Hearer} {news : Notice} :
    (tellAll hearers news).countP menu.movedBy = 0 := by
  rw [List.countP_eq_zero]
  intro t member
  obtain ⟨hearer, -, rfl⟩ := List.mem_map.1 member
  exact Bool.false_ne_true

theorem owed_tellAll {hearers : List Hearer} {news : Notice} (other : ∀ shown, news ≠ .menu shown) :
    owed n probe shown (tellAll hearers news) = List.replicate (hearers.count (.menu n)) shown := by
  induction hearers with
  | nil => rfl
  | cons hearer hearers ih =>
    have rest : tellAll (hearer :: hearers) news = .tell hearer news :: tellAll hearers news := rfl
    rw [rest, owed_cons, ih]
    cases hearer with
    | probe p => cases news <;> simp_all [Errand.owes]
    | menu i =>
      by_cases same : i = n
      · simp [Errand.owes, same, List.replicate_succ]
      · simp [Errand.owes, same]

/-- Whether anything is owed does not depend on what the menu shows. -/
theorem owed_eq_nil (none : owed n probe shown ts = []) : owed n probe shown' ts = [] := by
  rw [owed, List.filterMap_eq_nil_iff] at none ⊢
  intro t member
  have none := none t member
  unfold Errand.owes at none ⊢
  split at none <;> simp_all

end Owed

variable {n probe : Nat} {menu : Menu} {s s' : Stage}

namespace Stage

theorem isNamed_congr (names : s'.names = s.names) (o : Object) : s'.isNamed o = s.isNamed o := by
  cases o <;> simp only [isNamed, names]

theorem isBrief_tellAll {hearers : List Hearer} {news : Notice} :
    ∀ t ∈ tellAll hearers news, s.isBrief t := by
  intro t member
  obtain ⟨hearer, -, rfl⟩ := List.mem_map.1 member
  rfl

theorem hearers_setSpy {k : Nat} {m : Mounted (Spy Hearer)} {spy : Spy Hearer}
    (found : s.spies[k]? = some m) (same : spy.listeners = m.part.listeners) (i : Nat) :
    (s.setSpy k spy).hearers (.spy i) = s.hearers (.spy i) := by
  rw [hearers, getElem?_setSpy found, hearers]
  split
  · subst i
    simp [found, same]
  · rfl

theorem snapshot_setSpy {k : Nat} {m : Mounted (Spy Hearer)} {spy : Spy Hearer}
    (found : s.spies[k]? = some m) (same : menu.spy? ≠ some k ∨ spy.active = m.part.active) :
    (s.setSpy k spy).snapshot menu = s.snapshot menu := by
  refine snapshot_congr rfl fun c contents ↦ ?_
  rw [active?, getElem?_setSpy found, active?]
  split
  · rename_i here
    obtain other | same := same
    · exact absurd (by rw [Menu.spy?, contents, Option.map_some, here]) other
    · rw [here, found, Option.map_some, Option.map_some, same]
  · rfl

/-- What is shown when the spy has moved to another section. -/
theorem snapshot_moved {k : Nat} {m : Mounted (Spy Hearer)} (found : s.spies[k]? = some m)
    (own : menu.spy? = some k) (spy : Spy Hearer) :
    (s.setSpy k spy).snapshot menu = { s.snapshot menu with active := some spy.active } ∧
      (s.snapshot menu).active = some m.part.active := by
  obtain ⟨c, contents, rfl⟩ := Option.map_eq_some_iff.1 own
  constructor
  · simp only [snapshot, contents, Option.bind_some, active?, getElem?_setSpy found, if_pos,
      Option.map_some]
    rfl
  · simp only [snapshot, contents, Option.bind_some, active?, found, Option.map_some]

end Stage

/-- Menu `n` is there with its listener, which listens to no other menu; it hears of its spy once;
and every menu that is left goes by a name. -/
structure ListenerAttached (n probe : Nat) (menu : Menu) (s : Stage) : Prop where
  present : ∃ seen, s.menus[n]? = some { menu with viewer := some ⟨probe, seen⟩ }
  alive : menu.alive
  heard : ∀ k, (s.hearers (.spy k)).count (.menu n) = if menu.spy? = some k then 1 else 0
  apart : ∀ {i : Nat} {v : Viewer}, s.viewer? i = some v → v.probe = probe → i = n
  named : ∀ {i : Nat} {m : Menu}, s.menus[i]? = some m → m.alive → s.isNamed (.menu i)

theorem ListenerAttached.congr (h : ListenerAttached n probe menu s) (menus : s'.menus = s.menus)
    (hearers : ∀ k, s'.hearers (.spy k) = s.hearers (.spy k)) (names : s'.names = s.names) :
    ListenerAttached n probe menu s' where
  present := menus ▸ h.present
  alive := h.alive
  heard k := hearers k ▸ h.heard k
  apart seen same := by
    rw [Stage.viewer?, menus] at seen
    exact h.apart seen same
  named found alive := by
    rw [menus] at found
    rw [Stage.isNamed_congr names]
    exact h.named found alive

theorem ListenerAttached.setSpy {k : Nat} {m : Mounted (Spy Hearer)} {spy : Spy Hearer}
    (h : ListenerAttached n probe menu s) (found : s.spies[k]? = some m)
    (same : spy.listeners = m.part.listeners) : ListenerAttached n probe menu (s.setSpy k spy) :=
  h.congr rfl (Stage.hearers_setSpy found same) rfl

/-- A menu changes, but neither who listens to it nor what it follows. -/
theorem ListenerAttached.setMenu {i : Nat} {menu' m m' : Menu} (h : ListenerAttached n probe menu s)
    (found : s.menus[i]? = some m)
    (viewers : m'.viewer.map Viewer.probe = m.viewer.map Viewer.probe) (lives : m'.alive = m.alive)
    (spy : menu'.spy? = menu.spy?) (alive : menu'.alive = menu.alive)
    (own : if i = n then ∃ seen, m' = { menu' with viewer := some ⟨probe, seen⟩ }
      else menu' = menu) :
    ListenerAttached n probe menu' (s.setMenu i m') where
  present := by
    rw [Stage.getElem?_setMenu found]
    by_cases here : i = n
    · rw [if_pos here] at own
      obtain ⟨seen, rfl⟩ := own
      exact ⟨seen, if_pos here.symm⟩
    · rw [if_neg here] at own
      rw [own, if_neg (Ne.symm here)]
      exact h.present
  alive := alive ▸ h.alive
  heard k := by
    rw [spy]
    exact h.heard k
  apart {j w} seen same := by
    rw [Stage.viewer?_setMenu found] at seen
    split at seen
    · subst j
      rw [seen, Option.map_some] at viewers
      obtain ⟨v, viewer, equal⟩ := Option.map_eq_some_iff.1 viewers.symm
      exact h.apart (Stage.viewer?_eq_some.2 ⟨m, found, viewer⟩) (equal.trans same)
    · exact h.apart seen same
  named {j m₁} found' alive := by
    rw [Stage.getElem?_setMenu found] at found'
    split at found'
    · subst j
      cases found'
      exact h.named found (lives ▸ alive)
    · exact h.named found' alive

/-- What a listener has seen is all that a redraw changes. -/
theorem ListenerAttached.redraw {i : Nat} {m : Menu} {v : Viewer}
    (h : ListenerAttached n probe menu s) (found : s.menus[i]? = some m)
    (viewer : m.viewer = some v) (seen : Snapshot) :
    ListenerAttached n probe menu (s.setMenu i { m with viewer := some { v with seen } }) := by
  refine h.setMenu found (by rw [viewer]; rfl) rfl rfl rfl ?_
  split
  · subst i
    obtain ⟨seen', present⟩ := h.present
    cases present.symm.trans found
    cases viewer
    exact ⟨seen, rfl⟩
  · rfl

variable {free : Bool} {start : Snapshot} {base told : List Snapshot} {t : Errand}
  {ts ts' : List Errand}

/-- The account of the listener of menu `n`: what was owed at first, `base`, and what the menu shows
now if it is not what it showed at the start, are due to it. If it is `free`, nothing was owed at
first, and the menu may move to another section once; else it shows what it showed at the start. -/
structure CallsBalance (n probe : Nat) (menu : Menu) (free : Bool) (start : Snapshot)
    (base told : List Snapshot) (s : Stage) (ts : List Errand) :
    Prop extends ListenerAttached n probe menu s where
  brief : ∀ t ∈ ts, s.isBrief t
  balance : told ++ owed n probe (s.snapshot menu) ts = base ++ start.news (s.snapshot menu)
  once : ts.countP menu.movedBy + (start.news (s.snapshot menu)).length ≤ free.toNat
  still : s.snapshot menu = { start with active := (s.snapshot menu).active }
  rule : free → base = []

namespace CallsBalance

/-- An errand that leaves what the menu shows. -/
theorem replace (h : CallsBalance n probe menu free start base told s (t :: ts))
    (attached : ListenerAttached n probe menu s') (names : s'.names = s.names)
    (shown : s'.snapshot menu = s.snapshot menu) (brief : ∀ t' ∈ ts', s.isBrief t')
    (owes : (t.shownTo probe).toList ++ owed n probe (s.snapshot menu) ts' =
      (t.owes n probe (s.snapshot menu)).toList)
    (moves : ts'.countP menu.movedBy ≤ [t].countP menu.movedBy) :
    CallsBalance n probe menu free start base (told ++ (t.shownTo probe).toList) s'
      (ts' ++ ts) where
  toListenerAttached := attached
  brief := by
    have same (t : Errand) : s'.isBrief t = s.isBrief t := by
      cases t with
      | letGo o => exact Stage.isNamed_congr names o
      | _ => rfl
    intro t' member
    rw [same]
    obtain member | member := List.mem_append.1 member
    · exact brief t' member
    · exact h.brief t' (.tail _ member)
  balance := by
    rw [shown, ← h.balance, owed_append, owed_cons, ← owes]
    simp only [List.append_assoc]
  once := by
    have once := h.once
    have cons : (t :: ts).countP menu.movedBy =
        [t].countP menu.movedBy + ts.countP menu.movedBy := by
      rw [← List.countP_append, List.singleton_append]
    rw [shown, List.countP_append]
    omega
  still := by
    rw [shown]
    exact h.still
  rule := h.rule

theorem replace_silent (h : CallsBalance n probe menu free start base told s (t :: ts))
    (silent : t.shownTo probe = none) (attached : ListenerAttached n probe menu s')
    (names : s'.names = s.names) (shown : s'.snapshot menu = s.snapshot menu)
    (brief : ∀ t' ∈ ts', s.isBrief t')
    (owes : owed n probe (s.snapshot menu) ts' = (t.owes n probe (s.snapshot menu)).toList)
    (moves : ts'.countP menu.movedBy ≤ [t].countP menu.movedBy) :
    CallsBalance n probe menu free start base told s' (ts' ++ ts) := by
  have replaced :=
    h.replace attached names shown brief
      (by rw [silent, Option.toList_none, List.nil_append, owes]) moves
  rwa [silent, Option.toList_none, List.append_nil] at replaced

theorem finish (h : CallsBalance n probe menu free start base told s (t :: ts))
    (silent : t.shownTo probe = none) (none : t.owes n probe (s.snapshot menu) = none)
    (attached : ListenerAttached n probe menu s') (names : s'.names = s.names)
    (shown : s'.snapshot menu = s.snapshot menu) :
    CallsBalance n probe menu free start base told s' ts := by
  have no_errand : ∀ t' ∈ ([] : List Errand), s.isBrief t' :=
    fun _ member ↦ absurd member List.not_mem_nil
  exact h.replace_silent silent attached names shown no_errand (by rw [none]; rfl) (Nat.zero_le _)

/-- The menu's own spy moves to another section: nothing was owed before, and the new snapshot is
owed now. -/
theorem move {k : Nat} {batch : List Entry} {m : Mounted (Spy Hearer)} {spy : Spy Hearer}
    (h : CallsBalance n probe menu free start base told s (.hand (.spy k) batch :: ts))
    (found : s.spies[k]? = some m) (moved : m.part.receive? batch = some spy)
    (own : menu.spy? = some k) :
    CallsBalance n probe menu free start base told (s.setSpy k spy)
      (tellAll spy.listeners.toList (.active spy.active) ++ ts) := by
  obtain ⟨-, id, -, differs, rfl⟩ := Spy.receive?_eq_some moved
  obtain ⟨after, before⟩ := Stage.snapshot_moved found own { m.part with active := id }
  have once := h.once
  have moving : menu.movedBy (.hand (.spy k) batch) = true := decide_eq_true own
  rw [List.countP_cons_of_pos moving] at once
  have allowed : free = true := by
    cases free with
    | true => rfl
    | false =>
      rw [Bool.toNat_false] at once
      omega
  subst allowed
  rw [Bool.toNat_true] at once
  have unmoved : ts.countP menu.movedBy = 0 := by omega
  have first : s.snapshot menu = start := Snapshot.eq_of_length_news (by omega)
  have balance := h.balance
  rw [h.rule rfl, first, Snapshot.news_self, List.append_nil, List.append_eq_nil_iff] at balance
  obtain ⟨rfl, none⟩ := balance
  have other : (s.setSpy k { m.part with active := id }).snapshot menu ≠ start := by
    intro same
    rw [after] at same
    have equal : some id = some m.part.active := by rw [← before, first, ← same]
    exact differs (Option.some.inj equal)
  have told : (m.part.listeners.toList).count (.menu n) = 1 := by
    rw [← Stage.hearers_spy found, h.heard, if_pos own]
  constructor
  case toListenerAttached => exact h.toListenerAttached.setSpy found rfl
  case brief =>
    intro t member
    obtain member | member := List.mem_append.1 member
    · exact Stage.isBrief_tellAll t member
    · exact h.brief t (.tail _ member)
  case balance =>
    rw [h.rule rfl, Snapshot.news_of_ne other, owed_append, owed_tellAll (by simp), told,
      List.nil_append, List.nil_append]
    rw [owed_cons] at none
    rw [owed_eq_nil (List.append_eq_nil_iff.1 none).2]
    rfl
  case once =>
    rw [Snapshot.news_of_ne other, List.countP_append, unmoved, countP_tellAll]
    exact Nat.le_refl 1
  case still => rw [after, first]
  case rule => exact h.rule

theorem hand {k : Nat} {batch : List Entry}
    (h : CallsBalance n probe menu free start base told s (.hand (.spy k) batch :: ts)) :
    CallsBalance n probe menu free start base told (s.handSpy k batch).stage
      ((s.handSpy k batch).errands ++ ts) := by
  unfold Stage.handSpy
  split
  · exact h.finish rfl rfl h.toListenerAttached rfl rfl
  · rename_i spy received
    obtain ⟨m, found, moved⟩ := Option.bind_eq_some_iff.1 received
    by_cases own : menu.spy? = some k
    · exact h.move found moved own
    · obtain ⟨-, id, -, -, rfl⟩ := Spy.receive?_eq_some moved
      have unheard : m.part.listeners.toList.count (.menu n) = 0 := by
        rw [← Stage.hearers_spy found, h.heard, if_neg own]
      refine h.replace_silent rfl (h.toListenerAttached.setSpy found rfl) rfl
        (Stage.snapshot_setSpy found (.inl own))
        Stage.isBrief_tellAll ?_ ?_
      · rw [owed_tellAll (by simp), unheard]
        rfl
      · rw [countP_tellAll]
        exact Nat.zero_le _

theorem tell {i : Nat} {news : Notice}
    (h : CallsBalance n probe menu free start base told s (.tell (.menu i) news :: ts)) :
    CallsBalance n probe menu free start base told (s.tellMenu i).stage
      ((s.tellMenu i).errands ++ ts) := by
  obtain ⟨seen, present⟩ := h.present
  have deaf (other : i ≠ n) : CallsBalance n probe menu free start base told s ts :=
    h.finish rfl (if_neg other) h.toListenerAttached rfl rfl
  unfold Stage.tellMenu
  split
  · rename_i absent
    refine deaf fun same ↦ ?_
    cases absent.symm.trans (same ▸ present)
  · rename_i m found
    split
    · rename_i alive
      refine h.replace_silent rfl (h.toListenerAttached.congr rfl (fun _ ↦ rfl) rfl) rfl rfl ?_ ?_
        (Nat.zero_le _)
      · simp [Stage.isBrief, h.named found alive]
      · rw [owed_cons, owed_cons]
        exact List.append_nil _
    · rename_i gone
      refine deaf fun same ↦ gone ?_
      cases found.symm.trans (same ▸ present)
      exact h.alive

theorem redraw {i : Nat} (h : CallsBalance n probe menu free start base told s (.redraw i :: ts)) :
    CallsBalance n probe menu free start base told (s.redrawMenu i).stage
      ((s.redrawMenu i).errands ++ ts) := by
  obtain ⟨seen, present⟩ := h.present
  have unseen (other : i ≠ n) : CallsBalance n probe menu free start base told s ts :=
    h.finish rfl (if_neg other) h.toListenerAttached rfl rfl
  unfold Stage.redrawMenu
  split
  · rename_i absent
    refine unseen fun same ↦ ?_
    cases absent.symm.trans (same ▸ present)
  · rename_i m found
    split
    · rename_i alone
      refine unseen fun same ↦ ?_
      cases found.symm.trans (same ▸ present)
      cases alone
    · rename_i v viewer
      refine h.replace_silent rfl (h.toListenerAttached.redraw found viewer _) rfl rfl
        (by simp [Stage.isBrief]) ?_ (Nat.zero_le _)
      by_cases same : i = n
      · subst same
        cases found.symm.trans present
        cases viewer
        rw [owed_cons, Errand.owes, if_pos rfl, Errand.owes, if_pos rfl]
        exact List.append_nil _
      · have other : v.probe ≠ probe :=
          fun equal ↦ same (h.apart (Stage.viewer?_eq_some.2 ⟨m, found, viewer⟩) equal)
        simp [owed, Errand.owes, same, other]

theorem observe {k : Nat}
    (h : CallsBalance n probe menu free start base told s (.observe k :: ts)) :
    CallsBalance n probe menu free start base told (s.observeSpy k).stage
      ((s.observeSpy k).errands ++ ts) := by
  obtain ⟨stage, errands⟩ | ⟨m, d, found, document, idle, begins⟩ := s.observeSpy_cases k
  · rw [stage, errands]
    exact h.finish rfl rfl h.toListenerAttached rfl rfl
  · have begun : ListenerAttached n probe menu (s.setSpy k (beginObserving m.part d)) :=
      h.toListenerAttached.setSpy found rfl
    have shown : (s.setSpy k (beginObserving m.part d)).snapshot menu = s.snapshot menu :=
      Stage.snapshot_setSpy found (.inr rfl)
    obtain ⟨stage, errands⟩ | ⟨fails, stage, errands⟩ := begins
    · rw [stage, errands]
      refine h.replace_silent rfl (begun.congr rfl (fun _ ↦ rfl) rfl) rfl shown ?_ ?_ ?_
      · unfold handFirst
        split <;> simp [Stage.isBrief]
      · unfold handFirst
        split <;> rfl
      · unfold handFirst
        split <;> simp [Menu.movedBy, List.countP_cons]
    · rw [stage, errands]
      exact h.replace_silent rfl (begun.congr rfl (fun _ ↦ rfl) rfl) rfl shown
        (by simp [Stage.isBrief]) rfl
        (Nat.zero_le _)

theorem keepWatch {k : Nat} {watch : Option Nat}
    (h : CallsBalance n probe menu free start base told s (.keepWatch k watch :: ts)) :
    CallsBalance n probe menu free start base told (s.keepWatch k watch) ts := by
  unfold Stage.keepWatch
  split
  · exact h.finish rfl rfl h.toListenerAttached rfl rfl
  · rename_i m found
    exact h.finish rfl rfl (h.toListenerAttached.setSpy found rfl) rfl
      (Stage.snapshot_setSpy found (.inr rfl))

theorem letGo {o : Object} (h : CallsBalance n probe menu free start base told s (.letGo o :: ts)) :
    CallsBalance n probe menu free start base told (s.letGo o) ts := by
  have named : s.isNamed o := h.brief _ (.head _)
  have kept : s.letGo o = { s with inUse := s.inUse.erase o } := by
    refine if_pos ?_
    rw [Stage.isHeld, Bool.or_eq_true]
    left
    cases o <;> exact named
  rw [kept]
  exact h.finish rfl rfl (h.toListenerAttached.congr rfl (fun _ ↦ rfl) rfl) rfl rfl

/-- One errand: what it calls the listener with is no longer owed. -/
theorem carry (h : CallsBalance n probe menu free start base told s (t :: ts)) :
    CallsBalance n probe menu free start base (told ++ (t.shownTo probe).toList) (s.carry t).stage
      ((s.carry t).errands ++ ts) := by
  have silent (none : t.shownTo probe = none)
      (h' : CallsBalance n probe menu free start base told (s.carry t).stage
        ((s.carry t).errands ++ ts)) :
      CallsBalance n probe menu free start base (told ++ (t.shownTo probe).toList) (s.carry t).stage
        ((s.carry t).errands ++ ts) := by
    rwa [none, Option.toList_none, List.append_nil]
  cases t with
  | frames => cases h.brief _ (.head _)
  | keepHandle => cases h.brief _ (.head _)
  | observe k => exact silent rfl h.observe
  | hand receiver batch =>
    cases receiver with
    | probe p =>
      rw [Stage.carry]
      exact h.replace h.toListenerAttached rfl rfl (by simp [Stage.isBrief]) rfl (Nat.zero_le _)
    | spy k => exact silent rfl h.hand
  | tell hearer news =>
    cases hearer with
    | probe p =>
      rw [Stage.carry]
      refine h.replace h.toListenerAttached rfl rfl (by simp [Stage.isBrief]) ?_ (Nat.zero_le _)
      cases news with
      | menu shown => exact (owed_cons _).trans (List.append_nil _)
      | _ => rfl
    | menu i => exact silent rfl h.tell
  | redraw i => exact silent rfl h.redraw
  | call p notice =>
    rw [Stage.carry]
    refine h.replace h.toListenerAttached rfl rfl (by simp) ?_ (Nat.zero_le _)
    cases notice with
    | menu shown => exact List.append_nil _
    | _ => rfl
  | keepWatch k watch => exact silent rfl h.keepWatch
  | letGo o => exact silent rfl h.letGo

/-- All errands, and those that follow from them: in the end the listener has been called with all
that is due. -/
theorem run {m : Machine} (h : CallsBalance n probe menu free start base told m.stage ts)
    (inert : m.Inert) :
    CallsBalance n probe menu free start base (told ++ m.shown probe (ts.map .errand))
    (m.run (ts.map .errand)).stage [] ∧
      (m.run (ts.map .errand)).Inert := by
  generalize same : ts.map Job.errand = jobs
  induction m, jobs using Machine.run.induct generalizing ts told with
  | case1 m =>
    obtain rfl := List.map_eq_nil_iff.1 same
    rw [Machine.shown, Machine.collect_nil, Machine.run_nil, List.append_nil]
    exact ⟨h, inert⟩
  | case2 m j jobs ih =>
    obtain ⟨t, ts, rfl, rfl, rfl⟩ := List.map_eq_cons_iff.1 same
    obtain ⟨stage, follow, inert⟩ := inert.advance t
    have next := h.carry
    rw [← stage] at next
    rw [Machine.shown, Machine.collect_cons, Machine.run_cons, ← List.append_assoc]
    exact ih next inert (by rw [follow, List.map_append])

end CallsBalance

namespace ListenerAttached

variable {m : Machine}

/-- The listener is called with what is owed to it, and then with what the menu shows if it has
moved. -/
theorem shown {m' : Machine} (free : Bool) (h : ListenerAttached n probe menu m.stage)
    (inert : m.Inert) (brief : ∀ t ∈ ts, m.stage.isBrief t)
    (once : ts.countP menu.movedBy ≤ free.toNat)
    (rule : free → owed n probe (m.stage.snapshot menu) ts = [])
    (done : m.run (ts.map .errand) = m') :
    m.shown probe (ts.map .errand) =
        owed n probe (m.stage.snapshot menu) ts ++ (m.stage.snapshot menu).news
          (m'.stage.snapshot menu) ∧
      m'.stage.snapshot menu = { m.stage.snapshot menu with active :=
        (m'.stage.snapshot menu).active } ∧
      (free = false → m'.stage.snapshot menu = m.stage.snapshot menu) ∧
      ListenerAttached n probe menu m'.stage ∧ m'.Inert := by
  have first : CallsBalance n probe menu free (m.stage.snapshot menu)
      (owed n probe (m.stage.snapshot menu) ts) []
      m.stage ts :=
    { toListenerAttached := h
      brief
      balance := by rw [Snapshot.news_self, List.nil_append, List.append_nil]
      once := by rwa [Snapshot.news_self]
      still := rfl
      rule }
  obtain ⟨last, inert⟩ := first.run inert
  rw [done] at last inert
  refine ⟨(List.append_nil _).symm.trans last.balance, last.still, fun fixed ↦ ?_,
    last.toListenerAttached, inert⟩
  have once := last.once
  rw [fixed, Bool.toNat_false] at once
  exact Snapshot.eq_of_length_news (by omega)

end ListenerAttached

end Wayfinder.Session
