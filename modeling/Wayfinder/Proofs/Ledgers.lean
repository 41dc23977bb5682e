import Wayfinder.Proofs.LateNews

namespace Wayfinder.Session

variable {may : Stage → Job → Prop} {s s' s'' : Stage} {ts ts' : List Errand} {n k : Nat}

namespace Stage

def ledger (s : Stage) : Source → Subscribers Hearer
  | .preference k => s.stores[k]?.elim {} fun m ↦ m.part.listeners
  | .spy n => s.spies[n]?.elim {} fun m ↦ m.part.listeners

/-- The menu keeps the token of its subscription to the source; it does so for its preference, but
not for its spy. -/
def Keeps (s : Stage) (n token : Nat) : Source → Prop
  | .preference k => s.Knows n k token
  | .spy _ => False

theorem entries_ledger (s : Stage) (k : Nat) : (s.ledger (.preference k)).entries = s.roll k := by
  rw [ledger, roll]
  cases s.stores[k]? <;> rfl

theorem next_ledger (s : Stage) (k : Nat) : (s.ledger (.preference k)).next = s.nextToken k := by
  rw [ledger, nextToken]
  cases s.stores[k]? <;> rfl

theorem toList_ledger (s : Stage) (source : Source) :
    (s.ledger source).toList = s.hearers source := by
  cases source with
  | preference k =>
    rw [ledger, hearers]
    cases s.stores[k]? <;> rfl
  | spy n =>
    rw [ledger, hearers]
    cases s.spies[n]? <;> rfl

theorem keeps_congr (menus : s'.menus = s.menus) {token : Nat} {source : Source} :
    s'.Keeps n token source ↔ s.Keeps n token source := by
  cases source with
  | preference k => exact knows_congr menus
  | spy _ => exact Iff.rfl

theorem ledger_spy_congr (spies : s'.spies = s.spies) (n : Nat) :
    s'.ledger (.spy n) = s.ledger (.spy n) := by
  rw [ledger, spies, ledger]

theorem nextToken_congr (stores : s'.stores = s.stores) (k : Nat) :
    s'.nextToken k = s.nextToken k := by
  rw [nextToken, stores, nextToken]

theorem ledger_preference_of_found {m : Mounted (Preference Hearer)}
    (found : s.stores[k]? = some m) :
    s.ledger (.preference k) = m.part.listeners := by rw [ledger, found, Option.elim_some]

theorem ledger_spy_of_found {m : Mounted (Spy Hearer)} (found : s.spies[n]? = some m) :
    s.ledger (.spy n) = m.part.listeners := by rw [ledger, found, Option.elim_some]

theorem ledger_setStore {m : Mounted (Preference Hearer)} {p : Preference Hearer}
    (found : s.stores[k]? = some m) (source : Source) :
    (s.setStore k p).ledger source =
      if source = .preference k then p.listeners else s.ledger source := by
  cases source with
  | preference i =>
    rw [ledger, getElem?_setStore found]
    simp only [Source.preference.injEq]
    split <;> rfl
  | spy n => rfl

theorem ledger_setSpy {m : Mounted (Spy Hearer)} {spy : Spy Hearer} (found : s.spies[n]? = some m)
    (source : Source) :
    (s.setSpy n spy).ledger source =
      if source = .spy n then spy.listeners else s.ledger source := by
  cases source with
  | preference k => rfl
  | spy i =>
    rw [ledger, getElem?_setSpy found]
    simp only [Source.spy.injEq]
    split <;> rfl

theorem ledger_setSpy_same {m : Mounted (Spy Hearer)} {spy : Spy Hearer}
    (found : s.spies[n]? = some m) (same : spy.listeners = m.part.listeners) (source : Source) :
    (s.setSpy n spy).ledger source = s.ledger source := by
  rw [ledger_setSpy found]
  split
  · rename_i here
    rw [here, same, ledger_spy_of_found found]
  · rfl

theorem ledger_disposeSpy (k n : Nat) : (s.disposeSpy k).ledger (.spy n) = s.ledger (.spy n) := by
  cases found : s.spies[k]? with
  | none => rw [disposeSpy, found]
  | some m =>
    rw [disposeSpy_eq found, ledger_spy_congr (spies_disconnect _), ledger_setSpy_same found]
    rfl

theorem ledger_keepWatch (k : Nat) (watch : Option Nat) (n : Nat) :
    (s.keepWatch k watch).ledger (.spy n) = s.ledger (.spy n) := by
  unfold keepWatch
  split
  · rfl
  · rw [ledger_setSpy_same ‹_›]
    rfl

theorem ledger_addSpy {spy : Mounted (Spy Hearer)} (spies : s'.spies = s.spies ++ [spy]) (n : Nat) :
    s'.ledger (.spy n) = if n = s.spies.length then spy.part.listeners else s.ledger (.spy n) := by
  rw [ledger, spies, List.getElem?_append]
  split
  · rename_i below
    rw [if_neg (Nat.ne_of_lt below)]
    rfl
  · rename_i above
    split
    · rename_i last
      rw [last, Nat.sub_self]
      rfl
    · rename_i beyond
      rw [ledger, List.getElem?_eq_none (by simp; omega), List.getElem?_eq_none (by omega)]

theorem ledger_spies_length : s.ledger (.spy s.spies.length) = {} := by
  rw [ledger, List.getElem?_eq_none (Nat.le_refl _)]
  rfl

theorem stores_keepWatch (k : Nat) (watch : Option Nat) :
    (s.keepWatch k watch).stores = s.stores := by
  unfold keepWatch
  split <;> rfl

theorem ledger_releaseMenu (k n : Nat) : (s.releaseMenu k).ledger (.spy n) = s.ledger (.spy n) :=
  releaseMenu_ind (P := fun s' ↦ s'.ledger (.spy n) = s.ledger (.spy n)) rfl (fun h ↦ h) (fun h ↦ h)
    fun k _ ↦ ledger_disposeSpy k n

theorem ledger_reclaimOld (o : Option Object) (n : Nat) :
    (s.reclaimOld o).ledger (.spy n) = s.ledger (.spy n) :=
  reclaimOld_ind (P := fun s' ↦ s'.ledger (.spy n) = s.ledger (.spy n)) rfl (fun h ↦ h) (fun h ↦ h)
    fun _ k _ _ _ ↦ ledger_disposeSpy k n

theorem nextToken_setStore {m : Mounted (Preference Hearer)} {p : Preference Hearer}
    (found : s.stores[n]? = some m) (k : Nat) :
    (s.setStore n p).nextToken k = if k = n then p.listeners.next else s.nextToken k := by
  rw [nextToken, getElem?_setStore found]
  split <;> rfl

theorem nextToken_unsubscribeStore (n token k : Nat) :
    (s.unsubscribeStore n token).nextToken k = s.nextToken k := by
  unfold unsubscribeStore
  split
  · rfl
  · rename_i m found
    rw [nextToken_setStore found]
    split
    · rename_i here
      rw [here, nextToken_of_found found]
      rfl
    · rfl

theorem nextToken_releaseMenu (n k : Nat) : (s.releaseMenu n).nextToken k = s.nextToken k := by
  cases found : s.menus[n]? with
  | none => rw [releaseMenu, found]
  | some m =>
    have observed : (s.unobserve m).nextToken k = s.nextToken k := by
      unfold unobserve
      cases m.contents with
      | none => rfl
      | some c => exact nextToken_congr stores_disposeSpy k
    rw [releaseMenu_eq found]
    cases m.themeToken with
    | none => exact observed
    | some token => exact (nextToken_unsubscribeStore _ _ _).trans observed

theorem nextToken_reclaimOld (o : Option Object) (k : Nat) :
    (s.reclaimOld o).nextToken k = s.nextToken k := by
  cases o with
  | none => rfl
  | some o =>
    rw [reclaimOld, reclaim]
    split
    · rfl
    · cases o with
      | spy i => exact nextToken_congr stores_disposeSpy k
      | menu i => exact nextToken_releaseMenu i k

end Stage

/-- Nothing becomes of the subscriptions to the source, but that menus give up their own. -/
structure Lapses (s s' : Stage) (source : Source) : Prop where
  next : (s'.ledger source).next = (s.ledger source).next
  sublist : (s'.ledger source).entries.Sublist (s.ledger source).entries
  mem : ∀ {a : Nat × Hearer}, a ∈ (s'.ledger source).entries ↔
    a ∈ (s.ledger source).entries ∧ ¬ ∃ n, s.Keeps n a.1 source ∧ ¬ s'.Keeps n a.1 source
  keeps : ∀ {n token : Nat}, s'.Keeps n token source → s.Keeps n token source

namespace Lapses

variable {source : Source}

theorem of_same (ledger : s'.ledger source = s.ledger source)
    (keeps : ∀ {n token : Nat}, s'.Keeps n token source ↔ s.Keeps n token source) :
    Lapses s s' source where
  next := by rw [ledger]
  sublist := by rw [ledger]
  mem := by simp [ledger, keeps]
  keeps := keeps.1

theorem trans (first : Lapses s s' source) (last : Lapses s' s'' source) : Lapses s s'' source where
  next := last.next.trans first.next
  sublist := last.sublist.trans first.sublist
  mem {a} := by
    rw [last.mem, first.mem, and_assoc]
    refine and_congr_right fun _ ↦ ⟨?_, fun kept ↦ ⟨?_, ?_⟩⟩
    · rintro ⟨kept, kept'⟩ ⟨n, known, lost⟩
      by_cases between : s'.Keeps n a.1 source
      · exact kept' ⟨n, between, lost⟩
      · exact kept ⟨n, known, between⟩
    · rintro ⟨n, known, lost⟩
      exact kept ⟨n, known, fun later ↦ lost (last.keeps later)⟩
    · rintro ⟨n, known, lost⟩
      exact kept ⟨n, first.keeps known, lost⟩
  keeps h := first.keeps (last.keeps h)

theorem of_releases {o : Option Nat} (released : Releases o s s')
    (spies : ∀ n, s'.ledger (.spy n) = s.ledger (.spy n))
    (next : ∀ k, s'.nextToken k = s.nextToken k) :
    Lapses s s' source := by
  cases source with
  | spy n => exact of_same (spies n) Iff.rfl
  | preference k =>
    refine ⟨?_, ?_, fun {a} ↦ ?_, fun h ↦ (released.knows.1 h).1⟩
    · rw [Stage.next_ledger, Stage.next_ledger, next]
    · rw [Stage.entries_ledger, Stage.entries_ledger]
      exact released.sublist k
    · rw [Stage.entries_ledger, Stage.entries_ledger]
      constructor
      · intro member
        refine ⟨(released.sublist k).subset member, ?_⟩
        rintro ⟨n, known, lost⟩
        have own : o = some n := by
          by_contra other
          exact lost (released.knows.2 ⟨known, other⟩)
        exact released.struck own known member
      · rintro ⟨member, kept⟩
        apply released.kept member
        intro n own known
        exact kept ⟨n, known, fun after ↦ (released.knows.1 after).2 own⟩

theorem reclaimOld (o : Option Object) : Lapses s (s.reclaimOld o) source := by
  obtain ⟨o', released⟩ := Releases.reclaimOld (s := s) o
  exact of_releases released (Stage.ledger_reclaimOld o) (Stage.nextToken_reclaimOld o)

theorem nameMenu (name : String) (n : Nat) : Lapses s (s.nameMenu name n) source := by
  have named : Lapses s { s with names := { s.names with menus := s.names.menus.insert name n } }
    source := by
    refine .of_same ?_ (Stage.keeps_congr rfl)
    cases source <;> rfl
  exact named.trans (reclaimOld _)

end Lapses

def Step.enlists : Step → Bool
  | .listen (.store _) _ _ _ | .listen (.spy _) _ _ _ => true
  | .store _ (.unsubscribe _) | .spy _ (.unsubscribe _) => true
  | .menu _ (.create _ _ _ _) | .menu _ (.createBare _) => true
  | _ => false

theorem MenuOp.enlists_of_store? {name store : String} {op : MenuOp}
    (chosen : op.store? = some store) :
    (Step.menu name op).enlists := by
  cases op with
  | create | createBare => rfl
  | _ => cases chosen

theorem Edit.lapses (e : Edit may s ts s' ts')
    (plain : ∀ step, may s (.act step) → step.enlists = false) (source : Source) :
    Lapses s s' source := by
  have excluded {P : Prop} {step : Step} (allowed : may s (.act step))
      (enlists : step.enlists) : P :=
    absurd enlists (by simp [plain step allowed])
  have released : ∃ o, Releases o s s' := by
    cases e.roll with
    | released released => exact ⟨_, released⟩
    | ended allowed => exact excluded allowed rfl
    | heard allowed => exact excluded allowed rfl
    | joined allowed chosen => exact excluded allowed (MenuOp.enlists_of_store? chosen)
  obtain ⟨o, released⟩ := released
  have same (spies : s'.spies = s.spies) (stores : s'.stores = s.stores) : Lapses s s' source :=
    .of_releases released (Stage.ledger_spy_congr spies) (Stage.nextToken_congr stores)
  have listening {k : Nat} {m : Mounted (Spy Hearer)} {spy : Spy Hearer}
      (found : s.spies[k]? = some m)
      (spies : s'.spies = (s.setSpy k spy).spies) (stores : s'.stores = s.stores)
      (listeners : spy.listeners = m.part.listeners) : Lapses s s' source := by
    refine .of_releases released (fun n ↦ ?_) (Stage.nextToken_congr stores)
    rw [Stage.ledger_spy_congr spies]
    exact Stage.ledger_setSpy_same found listeners (.spy n)
  cases e with
  | skip | push | animate | handOn | passOn | amend | inform | emit | openPage | faults | watch
  | dropStore | createScroller | setOpen | listenMenu | tellMenu | deaf | redraw | unseen | hold =>
    exact same rfl rfl
  | keepHandle | freeHandle | dropHandle =>
    exact same (Stage.spies_disconnect _) (Stage.stores_disconnect _)
  | createStore name key =>
    refine .of_releases released (Stage.ledger_spy_congr rfl) fun k ↦ ?_
    have grown : (s.createStore name key).stores = s.stores ++ [⟨s.current, { key }⟩] := rfl
    rw [Stage.nextToken, Stage.nextToken, grown, List.getElem?_append]
    split
    · rfl
    · rename_i above
      rw [List.getElem?_eq_none (Nat.le_of_not_lt above), Option.elim_none]
      cases k - s.stores.length <;> rfl
  | adopt found listeners =>
    refine .of_releases released (Stage.ledger_spy_congr rfl) fun k ↦ ?_
    rw [Stage.nextToken_setStore found]
    split
    · rename_i here
      rw [here, listeners, Stage.nextToken_of_found found]
    · rfl
  | subscribeStore _ _ allowed => exact excluded allowed rfl
  | unsubscribeStore allowed => exact excluded allowed rfl
  | subscribeSpy _ _ allowed => exact excluded allowed rfl
  | unsubscribeSpy _ _ allowed => exact excluded allowed rfl
  | createMenu _ _ _ _ _ _ _ allowed => exact excluded allowed rfl
  | createBare _ _ _ allowed => exact excluded allowed rfl
  | observe found | observeNothing found => exact listening found rfl rfl rfl
  | keepWatch =>
    exact .of_releases released (Stage.ledger_keepWatch _ _)
      (Stage.nextToken_congr (Stage.stores_keepWatch _ _))
  | receive found moved =>
    obtain ⟨-, id, -, -, rfl⟩ := Spy.receive?_eq_some moved
    exact listening found rfl rfl rfl
  | disposeSpy =>
    exact .of_releases released (Stage.ledger_disposeSpy _)
      (Stage.nextToken_congr Stage.stores_disposeSpy)
  | disposeMenu =>
    exact .of_releases released (Stage.ledger_releaseMenu _) (Stage.nextToken_releaseMenu _)
  | @createSpy _ name _ band registry =>
    refine .of_releases released (fun n ↦ ?_) (Stage.nextToken_reclaimOld _)
    rw [Stage.createSpy, Stage.nameSpy, Stage.ledger_reclaimOld]
    refine (Stage.ledger_addSpy (s := s) rfl n).trans ?_
    split
    · rename_i last
      rw [last, Stage.ledger_spies_length]
    · rfl
  | shareMenu =>
    exact .of_releases released (Stage.ledger_reclaimOld _) (Stage.nextToken_reclaimOld _)
  | dropSpy | dropMenu | letGo =>
    exact .of_releases released (Stage.ledger_reclaimOld (some _))
      (Stage.nextToken_reclaimOld (some _))

end Wayfinder.Session
