import Wayfinder.Proofs.Preferences
import Wayfinder.Proofs.Tenure

namespace Wayfinder

/-- What is left of a list of different things, in its order, is told by which of them are left. -/
theorem eq_filter_of_sublist {α β : Type} {f : α → β} {p : α → Bool} {all : List α} {left : List β}
    (sublist : left.Sublist (all.map f)) (distinct : (all.map f).Nodup)
    (exact : ∀ a ∈ all, f a ∈ left ↔ p a) :
    left = (all.filter p).map f := by
  induction all generalizing left with
  | nil =>
    rw [List.map_nil, List.sublist_nil] at sublist
    rw [sublist, List.filter_nil, List.map_nil]
  | cons a all ih =>
    obtain ⟨fresh, distinct⟩ := List.nodup_cons.1 distinct
    have later {left' : List β} (sublist' : left'.Sublist (all.map f))
        (same : ∀ b ∈ all, f b ∈ left' ↔ f b ∈ left) :
        left' = (all.filter p).map f := by
      apply ih sublist' distinct
      intro b member
      rw [same b member, exact b (.tail _ member)]
    rcases List.sublist_cons_iff.1 sublist with without | ⟨rest, rfl, behind⟩
    · have gone : p a = false := by
        rw [← Bool.not_eq_true, ← exact a (.head _)]
        intro member
        exact fresh (without.subset member)
      rw [List.filter_cons_of_neg (by simp [gone])]
      exact later without fun _ _ ↦ Iff.rfl
    · have stays : p a := (exact a (.head _)).1 (.head _)
      rw [List.filter_cons_of_pos stays, List.map_cons]
      congr 1
      apply later behind
      intro b member
      have other : f b ≠ f a := fun same ↦ fresh (same ▸ List.mem_map_of_mem member)
      rw [List.mem_cons, or_iff_right other]

namespace Session

variable {may : Stage → Job → Prop} {s s' s₁ : Stage} {ts ts' : List Errand} {n k : Nat}

namespace Stage

def roll (s : Stage) (k : Nat) : List (Nat × Hearer) :=
  s.stores[k]?.elim [] fun m ↦ m.part.listeners.entries

def nextToken (s : Stage) (k : Nat) : Nat := s.stores[k]?.elim 0 fun m ↦ m.part.listeners.next

/-- The menu knows the token as the one of its subscription to the preference. -/
def Knows (s : Stage) (n k token : Nat) : Prop :=
  ∃ m, s.menus[n]? = some m ∧ m.store = k ∧ m.themeToken = some token

theorem roll_of_found {m : Mounted (Preference Hearer)} (found : s.stores[k]? = some m) :
    s.roll k = m.part.listeners.entries := by rw [roll, found, Option.elim_some]

theorem nextToken_of_found {m : Mounted (Preference Hearer)} (found : s.stores[k]? = some m) :
    s.nextToken k = m.part.listeners.next := by rw [nextToken, found, Option.elim_some]

theorem roll_congr (stores : s'.stores = s.stores) (k : Nat) : s'.roll k = s.roll k := by
  rw [roll, stores, roll]

theorem roll_setStore {m : Mounted (Preference Hearer)} {p : Preference Hearer}
    (found : s.stores[n]? = some m) (k : Nat) :
    (s.setStore n p).roll k = if k = n then p.listeners.entries else s.roll k := by
  rw [roll, getElem?_setStore found]
  split <;> rfl

theorem roll_subscribe {m : Mounted (Preference Hearer)} (found : s.stores[n]? = some m)
    (hearer : Hearer) (k : Nat) :
    (s.setStore n (m.part.subscribe hearer)).roll k =
      if k = n then s.roll k ++ [(s.nextToken n, hearer)] else s.roll k := by
  rw [roll_setStore found]
  split
  · rename_i same
    rw [same, roll_of_found found, nextToken_of_found found]
    rfl
  · rfl

theorem roll_unsubscribeStore (n token k : Nat) :
    (s.unsubscribeStore n token).roll k =
      if k = n then (s.roll k).filter (·.1 ≠ token) else s.roll k := by
  cases found : s.stores[n]? with
  | none =>
    have empty : s.roll n = [] := by rw [roll, found, Option.elim_none]
    have nothing : s.unsubscribeStore n token = s := by rw [unsubscribeStore, found]
    rw [nothing]
    split
    · rename_i same
      rw [same, empty, List.filter_nil]
    · rfl
  | some m =>
    have taken : s.unsubscribeStore n token = s.setStore n (m.part.unsubscribe token) := by
      rw [unsubscribeStore, found]
    rw [taken, roll_setStore found]
    split
    · rename_i same
      rw [same, roll_of_found found]
      rfl
    · rfl

theorem knows_congr (menus : s'.menus = s.menus) {token : Nat} :
    s'.Knows n k token ↔ s.Knows n k token := by
  rw [Knows, menus, Knows]

end Stage

structure Releases (o : Option Nat) (s s' : Stage) : Prop where
  sublist : ∀ k, (s'.roll k).Sublist (s.roll k)
  kept : ∀ {k : Nat} {e : Nat × Hearer}, e ∈ s.roll k → (∀ n, o = some n → ¬ s.Knows n k e.1) →
    e ∈ s'.roll k
  struck : ∀ {k n : Nat} {e : Nat × Hearer}, o = some n → s.Knows n k e.1 → e ∉ s'.roll k
  knows : ∀ {n k token : Nat}, s'.Knows n k token ↔ s.Knows n k token ∧ o ≠ some n

namespace Releases

theorem of_same (rolls : ∀ k, s'.roll k = s.roll k)
    (knows : ∀ {n k token : Nat}, s'.Knows n k token ↔ s.Knows n k token) : Releases none s s' where
  sublist k := by rw [rolls]
  kept member _ := by rwa [rolls]
  struck same := by cases same
  knows := by simp [knows]

theorem of_eq (stores : s'.stores = s.stores) (menus : s'.menus = s.menus) : Releases none s s' :=
  of_same (Stage.roll_congr stores) (Stage.knows_congr menus)

theorem of_before {o : Option Nat} (h : Releases o s₁ s') (stores : s₁.stores = s.stores)
    (menus : s₁.menus = s.menus) :
    Releases o s s' where
  sublist k := Stage.roll_congr stores k ▸ h.sublist k
  kept {k e} member other := by
    refine h.kept (Stage.roll_congr stores k ▸ member) fun n same known ↦ ?_
    exact other n same ((Stage.knows_congr menus).1 known)
  struck same known := h.struck same ((Stage.knows_congr menus).2 known)
  knows {n k token} := by rw [h.knows, Stage.knows_congr menus]

theorem setMenu {m m' : Menu} (found : s.menus[n]? = some m) (store : m'.store = m.store)
    (token : m'.themeToken = m.themeToken) : Releases none s (s.setMenu n m') := by
  refine of_same (fun _ ↦ rfl) fun {i k t} ↦ ?_
  rw [Stage.Knows, Stage.getElem?_setMenu found]
  split
  · subst i
    simp [Stage.Knows, found, store, token]
  · rfl

theorem knows_releaseMenu {i token : Nat} :
    (s.releaseMenu n).Knows i k token ↔ s.Knows i k token ∧ some n ≠ some i := by
  rw [Stage.Knows, Stage.getElem?_releaseMenu]
  by_cases same : i = n
  · simp [same]
  · simp [same, Ne.symm same, Stage.Knows]

theorem releaseMenu (n : Nat) : Releases (some n) s (s.releaseMenu n) := by
  cases found : s.menus[n]? with
  | none =>
    have unknown {k token : Nat} : ¬ s.Knows n k token := by simp [Stage.Knows, found]
    have nothing : s.releaseMenu n = s := by rw [Stage.releaseMenu, found]
    refine ⟨fun k ↦ by rw [nothing], fun member _ ↦ by rwa [nothing], ?_, knows_releaseMenu⟩
    rintro k i e ⟨rfl⟩ known
    exact absurd known unknown
  | some m =>
    have stores : (s.unobserve m).stores = s.stores := by
      unfold Stage.unobserve
      cases m.contents with
      | none => rfl
      | some c => exact Stage.stores_disposeSpy
    cases subscribed : m.themeToken with
    | none =>
      have unknown {k token : Nat} : ¬ s.Knows n k token := by simp [Stage.Knows, found, subscribed]
      have rolls (k : Nat) : (s.releaseMenu n).roll k = s.roll k := by
        rw [Stage.releaseMenu_eq found, subscribed]
        exact Stage.roll_congr stores k
      refine ⟨fun k ↦ by rw [rolls], fun member _ ↦ by rwa [rolls], ?_, knows_releaseMenu⟩
      rintro k i e ⟨rfl⟩ known
      exact absurd known unknown
    | some token =>
      have known {k t : Nat} : s.Knows n k t ↔ m.store = k ∧ token = t := by
        simp [Stage.Knows, found, subscribed]
      have rolls (k : Nat) : (s.releaseMenu n).roll k =
          if k = m.store then (s.roll k).filter (·.1 ≠ token) else s.roll k := by
        rw [Stage.releaseMenu_eq found, subscribed, Option.elim_some, Stage.roll_unsubscribeStore]
        have same : ((s.unobserve m).setMenu n { m with themeToken := none }).roll k = s.roll k :=
          Stage.roll_congr stores k
        rw [same]
      refine ⟨fun k ↦ ?_, fun {k e} member other ↦ ?_, ?_, knows_releaseMenu⟩
      · rw [rolls]
        split
        · exact List.filter_sublist
        · exact List.Sublist.refl _
      · rw [rolls]
        split
        · rename_i same
          have differs : e.1 ≠ token := fun h ↦ other n rfl (known.2 ⟨same.symm, h.symm⟩)
          exact List.mem_filter.2 ⟨member, decide_eq_true differs⟩
        · exact member
      · rintro k i e ⟨rfl⟩ knows member
        obtain ⟨rfl, rfl⟩ := known.1 knows
        rw [rolls, if_pos rfl] at member
        exact of_decide_eq_true (List.mem_filter.1 member).2 rfl

theorem reclaimOld (o : Option Object) : ∃ o', Releases o' s (s.reclaimOld o) := by
  cases o with
  | none => exact ⟨none, of_eq rfl rfl⟩
  | some o =>
    rw [Stage.reclaimOld, Stage.reclaim]
    split
    · exact ⟨none, of_eq rfl rfl⟩
    · cases o with
      | spy i => exact ⟨none, of_eq Stage.stores_disposeSpy Stage.menus_disposeSpy⟩
      | menu n =>
        have released : Releases (some n) s (s.releaseMenu n) := .releaseMenu n
        have same {i k token : Nat} : (s.destroy (.menu n)).Knows i k token ↔
            (s.releaseMenu n).Knows i k token := by
          simp only [Stage.Knows, Stage.getElem?_destroy, Stage.getElem?_releaseMenu]
          by_cases here : n = i
          · simp [here]
          · simp [here, Ne.symm here]
        exact ⟨some n, released.sublist, released.kept, released.struck, same.trans released.knows⟩

end Releases

structure SignsUp (k : Nat) (s s' : Stage) : Prop where
  rolls : ∀ i, s'.roll i =
    if i = k then s.roll i ++ [(s.nextToken k, .menu s.menus.length)] else s.roll i
  knows : ∀ {n i token : Nat}, s'.Knows n i token ↔
    s.Knows n i token ∨ n = s.menus.length ∧ i = k ∧ token = s.nextToken k

theorem SignsUp.addMenu {m : Mounted (Preference Hearer)} (found : s.stores[k]? = some m)
    (stores : s₁.stores = s.stores) (menus : s₁.menus = s.menus) (contents : Option Contents) :
    SignsUp k s (s₁.addMenu k m.part contents) where
  rolls i := by
    have found₁ : s₁.stores[k]? = some m := stores ▸ found
    have added : (s₁.addMenu k m.part contents).roll i =
        (s₁.setStore k (m.part.subscribe (.menu s₁.menus.length))).roll i := rfl
    rw [added, Stage.roll_subscribe found₁, Stage.roll_congr stores, Stage.nextToken, stores, menus]
    rfl
  knows {n i token} := by
    have last : (s₁.addMenu k m.part contents).menus =
        s.menus ++ [{ store := k, contents, themeToken := some m.part.listeners.next }] := by
      rw [← menus]
      rfl
    rw [Stage.Knows, last, Stage.nextToken_of_found found]
    constructor
    · rintro ⟨menu, present, rfl, subscribed⟩
      obtain old | ⟨rfl, rfl⟩ := getElem?_concat present
      · exact .inl ⟨menu, old, rfl, subscribed⟩
      · exact .inr ⟨rfl, rfl, (Option.some.inj subscribed).symm⟩
    · rintro (⟨menu, present, store, subscribed⟩ | ⟨rfl, rfl, rfl⟩)
      · exact ⟨menu, getElem?_append_of_some present _, store, subscribed⟩
      · exact ⟨_, List.getElem?_concat_length, rfl, rfl⟩

def MenuOp.store? : MenuOp → Option String
  | .create store sections _ _ => (Registry.ofSections sections).toOption.map fun _ ↦ store
  | .createBare store => some store
  | _ => none

/-- What an edit does to the subscriptions: a menu may give up its own, one is ended by its token,
or one is made. -/
inductive RollChange (may : Stage → Job → Prop) (s s' : Stage) : Prop
  | released {o : Option Nat} (released : Releases o s s')
  | ended {name : String} {k token : Nat}
      (allowed : may s (.act (.store name (.unsubscribe token))))
      (named : s.names.stores.get? name = some k) (rest : s' = s.unsubscribeStore k token)
  | heard {name label : String} {script : List Step} {limit k probe : Nat}
      {m : Mounted (Preference Hearer)}
      (allowed : may s (.act (.listen (.store name) label script limit)))
      (found : s.stores[k]? = some m) (rest : s' = s.setStore k (m.part.subscribe (.probe probe)))
  | joined {name store : String} {op : MenuOp} {k : Nat} {s₁ : Stage} {o : Option Nat}
      (allowed : may s (.act (.menu name op))) (chosen : op.store? = some store)
      (named : s.names.stores.get? store = some k) (signed : SignsUp k s s₁)
      (released : Releases o s₁ s')

theorem Edit.roll (e : Edit may s ts s' ts') : RollChange may s s' := by
  have reclaimed {s₁ : Stage} (o : Option Object) (stores : s₁.stores = s.stores)
      (menus : s₁.menus = s.menus) :
      RollChange may s (s₁.reclaimOld o) := by
    obtain ⟨o', released⟩ := Releases.reclaimOld (s := s₁) o
    exact .released (released.of_before stores menus)
  cases e with
  | skip | push | animate | handOn | passOn | amend | inform | emit | openPage | faults | watch
  | dropStore | observe | observeNothing | subscribeSpy | unsubscribeSpy | receive | createScroller
  | tellMenu | deaf | unseen | hold =>
    exact .released (.of_eq rfl rfl)
  | keepHandle | freeHandle =>
    exact .released (.of_eq (Stage.stores_disconnect _) (Stage.menus_nameHandle _ _))
  | dropHandle => exact .released (.of_eq (Stage.stores_disconnect _) (Stage.menus_dropHandle _ _))
  | createStore name key =>
    refine .released (.of_same (fun k ↦ ?_) (Stage.knows_congr rfl))
    have grown : (s.createStore name key).stores = s.stores ++ [⟨s.current, { key }⟩] := rfl
    rw [Stage.roll, Stage.roll, grown, List.getElem?_append]
    split
    · rfl
    · rename_i above
      rw [List.getElem?_eq_none (Nat.le_of_not_lt above), Option.elim_none]
      cases k - s.stores.length <;> rfl
  | @adopt _ n m p found listeners =>
    refine .released (.of_same (fun k ↦ ?_) (Stage.knows_congr rfl))
    rw [Stage.roll_setStore found]
    split
    · rename_i same
      rw [listeners, same, Stage.roll_of_found found]
    · rfl
  | subscribeStore found probe allowed => exact .heard allowed found rfl
  | unsubscribeStore allowed named => exact .ended allowed named rfl
  | keepWatch =>
    unfold Stage.keepWatch
    split <;> exact .released (.of_eq rfl rfl)
  | disposeSpy => exact .released (.of_eq Stage.stores_disposeSpy Stage.menus_disposeSpy)
  | disposeMenu => exact .released (.releaseMenu _)
  | setOpen found => exact .released (.setMenu found rfl rfl)
  | listenMenu _ found => exact .released (.setMenu found rfl rfl)
  | redraw _ found => exact .released (.setMenu found rfl rfl)
  | createSpy | shareMenu => exact reclaimed _ rfl rfl
  | dropSpy | dropMenu | letGo => exact reclaimed (some _) rfl rfl
  | @createMenu _ k m found name registry headerOffset band store sections named valid allowed =>
    obtain ⟨o, released⟩ :=
      Releases.reclaimOld (s := { (s.addContents registry band).addMenu k m.part
      (some ⟨s.spies.length, ⟨headerOffset⟩⟩) with
        names := { s.names with menus := s.names.menus.insert name s.menus.length } })
      ((s.names.menus.get? name).map .menu)
    refine .joined allowed ?_ named (.addMenu found rfl rfl _) (released.of_before rfl rfl)
    rw [MenuOp.store?, valid]
    rfl
  | @createBare _ k m found name store named allowed =>
    obtain ⟨o, released⟩ := Releases.reclaimOld (s := { s.addMenu k m.part none with
      names := { s.names with menus := s.names.menus.insert name s.menus.length } })
      ((s.names.menus.get? name).map .menu)
    exact .joined allowed rfl named (.addMenu found rfl rfl _) (released.of_before rfl rfl)

theorem Mirrored.mem_roll {owed : Nat → Prop} {token : Nat} (h : Mirrored s owed)
    (known : s.Knows n k token) :
    (token, .menu n) ∈ s.roll k := by
  obtain ⟨m, found, rfl, subscribed⟩ := known
  obtain ⟨store, present, entry⟩ := h.hears found subscribed
  rwa [Stage.roll_of_found present]

theorem Mirrored.eq_of_mem_roll {owed : Nat → Prop} {token : Nat} {a b : Hearer}
    (h : Mirrored s owed) (first : (token, a) ∈ s.roll k) (second : (token, b) ∈ s.roll k) :
    a = b := by
  cases found : s.stores[k]? with
  | none => simp [Stage.roll, found] at first
  | some m =>
    rw [Stage.roll_of_found found] at first second
    exact (h.tokens found).eq_of_token first second

theorem Mirrored.lt_nextToken {owed : Nat → Prop} {e : Nat × Hearer} (h : Mirrored s owed)
    (member : e ∈ s.roll k) :
    e.1 < s.nextToken k := by
  cases found : s.stores[k]? with
  | none => simp [Stage.roll, found] at member
  | some m =>
    rw [Stage.roll_of_found found] at member
    rw [Stage.nextToken_of_found found]
    exact (h.tokens found).below e member

def Vouched (s : Stage) : Prop := ∀ k token n, (token, .menu n) ∈ s.roll k → s.Knows n k token

theorem Vouched.released {o : Option Nat} (h : Vouched s) (released : Releases o s s') :
    Vouched s' := by
  intro k token n member
  have known := h k token n ((released.sublist k).subset member)
  exact released.knows.2 ⟨known, fun same ↦ released.struck same known member⟩

theorem Vouched.edit (h : Vouched s) (e : Edit may s ts s' ts') : Vouched s' := by
  cases e.roll with
  | released released => exact h.released released
  | ended _ _ rest =>
    subst rest
    intro i token n member
    refine (Stage.knows_congr (Stage.menus_unsubscribeStore _)).2 (h i token n ?_)
    rw [Stage.roll_unsubscribeStore] at member
    split at member
    · exact List.mem_of_mem_filter member
    · exact member
  | heard _ found rest =>
    subst rest
    intro i token n member
    rw [Stage.roll_subscribe found] at member
    split at member
    · exact h i token n (by simpa using member)
    · exact h i token n member
  | joined _ _ _ signed released =>
    refine Vouched.released ?_ released
    intro i token n member
    rw [signed.rolls] at member
    split at member
    · rename_i same
      obtain old | new := List.mem_append.1 member
      · exact signed.knows.2 (.inl (h i token n old))
      · obtain ⟨rfl, rfl⟩ : token = _ ∧ n = _ := by simpa using new
        exact signed.knows.2 (.inr ⟨rfl, same, rfl⟩)
    · exact signed.knows.2 (.inl (h i token n member))

/-- A subscription made by hand stays on the list, unless it is ended by its token. -/
theorem Edit.mem_roll {owed : Nat → Prop} {token p : Nat} (e : Edit may s ts s' ts')
    (mirrored : Mirrored s owed) (member : (token, .probe p) ∈ s.roll k)
    (spared : ∀ name, s.names.stores.get? name = some k →
      ¬ may s (.act (.store name (.unsubscribe token)))) :
    (token, .probe p) ∈ s'.roll k := by
  have stranger {n : Nat} : ¬ s.Knows n k token := by
    intro known
    cases mirrored.eq_of_mem_roll member (mirrored.mem_roll known)
  cases e.roll with
  | released released => exact released.kept member fun _ _ ↦ stranger
  | @ended name i token' allowed named rest =>
    subst rest
    rw [Stage.roll_unsubscribeStore]
    split
    · rename_i same
      have other : token ≠ token' := by
        rintro rfl
        exact spared name (same ▸ named) allowed
      exact List.mem_filter.2 ⟨member, decide_eq_true other⟩
    · exact member
  | heard _ found rest =>
    subst rest
    rw [Stage.roll_subscribe found]
    split
    · exact List.mem_append_left _ member
    · exact member
  | joined _ _ _ signed released =>
    refine released.kept ?_ fun n _ known ↦ ?_
    · rw [signed.rolls]
      split
      · exact List.mem_append_left _ member
      · exact member
    · obtain known | ⟨-, rfl, rfl⟩ := signed.knows.1 known
      · exact stranger known
      · exact Nat.lt_irrefl _ (mirrored.lt_nextToken member)

section Runs

variable {may : Stage → Step → Prop} {past : List Move} {m m' : Machine} {jobs jobs' : List Job}
  {j : Job} {e : Move}

def Move.joins (e : Move) : Option (String × Hearer) :=
  match e.job with
  | .act (.menu _ op) => op.store?.map (·, .menu e.machine.stage.menus.length)
  | .act (.listen (.store name) _ _ _) => some (name, .probe e.machine.probes.length)
  | _ => none

def Move.subscribes (e : Move) (k : Nat) : Option (Nat × Hearer) :=
  (e.joins.filter fun joined ↦ e.machine.stage.names.stores.get? joined.1 = some k).map
    fun joined ↦ (e.machine.stage.nextToken k, joined.2)

def Move.unsubscribes (e : Move) (k token : Nat) : Bool :=
  match e.job with
  | .act (.store name (.unsubscribe token')) =>
    e.machine.stage.names.stores.get? name = some k && token' = token
  | _ => false

def subscriptions (k : Nat) : List Move → List (Nat × Hearer)
  | [] => []
  | e :: past => subscriptions k past ++ (e.subscribes k).toList

/-- A menu's subscription lasts as long as the menu; one made by hand, until it is ended by its
token. -/
def remains (k : Nat) (past : List Move) (s : Stage) : Nat × Hearer → Bool
  | (_, .menu n) => lasts past s n
  | (token, .probe p) => !past.any fun e ↦ p < e.machine.probes.length && e.unsubscribes k token

theorem Move.subscribes_iff {token : Nat} {hearer : Hearer} :
    e.subscribes k = some (token, hearer) ↔
    ∃ name, e.joins = some (name, hearer) ∧ e.machine.stage.names.stores.get? name = some k ∧
      e.machine.stage.nextToken k = token := by
  simp only [Move.subscribes, Option.map_eq_some_iff, Option.filter_eq_some_iff, decide_eq_true_eq]
  constructor
  · rintro ⟨⟨name, hearer⟩, ⟨joins, named⟩, ⟨⟩⟩
    exact ⟨name, joins, named, rfl⟩
  · rintro ⟨name, joins, named, rfl⟩
    exact ⟨(name, hearer), ⟨joins, named⟩, rfl⟩

theorem Turn.sublist_roll (turn : Turn may m jobs j m' jobs') (k : Nat) :
    (m'.stage.roll k).Sublist (m.stage.roll k ++ (Move.subscribes ⟨m, jobs, j⟩ k).toList) := by
  by_cases listens : ∃ name label script limit, j = .act (.listen (.store name) label script limit)
  · obtain ⟨name, label, script, limit, rfl⟩ := listens
    rw [turn.effect_act.1]
    simp only [Stage.perform, Stage.performListen, Stage.onStore]
    split
    · exact List.sublist_append_left _ _
    · rename_i n named
      split
      · rename_i store found
        rw [Stage.roll_subscribe found]
        split
        · rename_i same
          subst same
          have made : Move.subscribes ⟨m, jobs, .act (.listen (.store name) label script limit)⟩ k =
              some (m.stage.nextToken k, .probe m.probes.length) :=
                Move.subscribes_iff.2 ⟨name, rfl, named, rfl⟩
          rw [made]
          exact List.Sublist.refl _
        · exact List.sublist_append_left _ _
      · exact List.sublist_append_left _ _
  · refine turn.edits_only.keep
      (I := fun s _ ↦
        (s.roll k).Sublist (m.stage.roll k ++ (Move.subscribes ⟨m, jobs, j⟩ k).toList)) ?_
      (List.sublist_append_left _ _)
    intro s s' ts ts' e sublist
    cases e.roll with
    | released released => exact (released.sublist k).trans sublist
    | ended _ _ rest =>
      rw [rest, Stage.roll_unsubscribeStore]
      split
      · exact List.filter_sublist.trans sublist
      · exact sublist
    | heard allowed => exact absurd ⟨_, _, _, _, allowed.2.symm⟩ listens
    | @joined name store op i s₁ o allowed chosen named signed released =>
      obtain ⟨rfl, rfl⟩ := allowed
      refine (released.sublist k).trans ?_
      rw [signed.rolls]
      split
      · rename_i same
        subst same
        have made : Move.subscribes ⟨m, jobs, .act (.menu name op)⟩ k =
            some (m.stage.nextToken k, .menu m.stage.menus.length) := by
          have joins : Move.joins ⟨m, jobs, .act (.menu name op)⟩ =
              op.store?.map (·, .menu m.stage.menus.length) := rfl
          exact Move.subscribes_iff.2 ⟨store, by rw [joins, chosen, Option.map_some], named, rfl⟩
        rw [made]
        exact List.Sublist.refl _
      · exact List.sublist_append_left _ _

theorem History.sublist_roll (run : History may past m jobs) (k : Nat) :
    (m.stage.roll k).Sublist (subscriptions k past) := by
  induction run with
  | opened page => exact List.Sublist.refl _
  | turn run turn ih => exact (turn.sublist_roll k).trans (ih.append_right _)

theorem Turn.knows_of_subscribes {token : Nat} (turn : Turn may m jobs j m' jobs')
    (preferencesExist : PreferencesExist m.stage)
    (made : Move.subscribes ⟨m, jobs, j⟩ k = some (token, .menu n)) :
    n = m.stage.menus.length ∧ m'.stage.Knows n k token := by
  obtain ⟨store, joins, named, rfl⟩ := Move.subscribes_iff.1 made
  obtain ⟨mounted, found⟩ : ∃ mounted, m.stage.stores[k]? = some mounted :=
    ⟨_, List.getElem?_eq_getElem (preferencesExist.named named)⟩
  have new {s₁ : Stage} (name : String) (signed : SignsUp k m.stage s₁) :
      (s₁.nameMenu name m.stage.menus.length).Knows m.stage.menus.length k
        (m.stage.nextToken k) := by
    obtain ⟨menu, present, store, subscribed⟩ :=
      signed.knows.2 (.inr ⟨rfl, rfl, rfl⟩ : m.stage.Knows _ _ _ ∨ _)
    refine ⟨menu, ?_, store, subscribed⟩
    rw [Stage.nameMenu, Stage.menu_reclaimOld_of_isNamed]
    · exact present
    · simp [Stage.isNamed, Table.any_insert]
  unfold Move.joins at joins
  split at joins
  · rename_i name op job
    have job : j = .act (.menu name op) := job
    subst job
    obtain ⟨store', chosen, same⟩ := Option.map_eq_some_iff.1 joins
    cases same
    refine ⟨rfl, ?_⟩
    rw [turn.effect_act.1]
    unfold MenuOp.store? at chosen
    split at chosen
    · rename_i sections headerOffset band
      obtain ⟨registry, valid, rfl⟩ := Option.map_eq_some_iff.1 chosen
      have valid : Registry.ofSections sections = .ok registry := by
        cases checked : Registry.ofSections sections with
        | error _ => simp [checked, Except.toOption] at valid
        | ok _ => simpa [checked, Except.toOption] using valid
      simp only [Stage.perform, Stage.performMenu, Stage.onStore, named, found, valid]
      refine new name (.addMenu found ?_ ?_ _) <;> rfl
    · cases chosen
      simp only [Stage.perform, Stage.performMenu, Stage.onStore, named, found]
      exact new name (.addMenu found rfl rfl none)
    · cases chosen
  · cases joins
  · cases joins

theorem Turn.mem_roll_of_subscribes {token p : Nat} (turn : Turn may m jobs j m' jobs')
    (preferencesExist : PreferencesExist m.stage)
    (made : Move.subscribes ⟨m, jobs, j⟩ k = some (token, .probe p)) :
    p = m.probes.length ∧ p < m'.probes.length ∧ (token, .probe p) ∈ m'.stage.roll k := by
  obtain ⟨store, joins, named, rfl⟩ := Move.subscribes_iff.1 made
  obtain ⟨mounted, found⟩ : ∃ mounted, m.stage.stores[k]? = some mounted :=
    ⟨_, List.getElem?_eq_getElem (preferencesExist.named named)⟩
  unfold Move.joins at joins
  split at joins
  · obtain ⟨_, -, same⟩ := Option.map_eq_some_iff.1 joins
    cases same
  · rename_i name label script limit job
    have job : j = .act (.listen (.store name) label script limit) := job
    subst job
    cases joins
    refine ⟨rfl, Nat.lt_of_lt_of_eq (Nat.lt_succ_self _) turn.probes_listen.symm, ?_⟩
    rw [turn.effect_act.1]
    simp only [Stage.perform, Stage.performListen, Stage.onStore, named, found]
    rw [Stage.roll_subscribe found, if_pos rfl]
    exact List.mem_append_right _ (.head _)
  · cases joins

/-- The menu that subscribed is still there, with its subscription or without any. -/
theorem History.menu_of_subscriptions {token : Nat} (run : History may past m jobs)
    (member : (token, .menu n) ∈ subscriptions k past) :
    ∃ menu, m.stage.menus[n]? = some menu ∧ menu.store = k ∧
      (menu.themeToken = some token ∨ menu.themeToken = none) := by
  induction run with
  | opened page => cases member
  | turn run turn ih =>
    obtain old | new := List.mem_append.1 member
    · refine turn.edits_only.keep (I := fun s _ ↦ ∃ menu, s.menus[n]? = some menu ∧ menu.store = k ∧
        (menu.themeToken = some token ∨ menu.themeToken = none)) ?_ (ih old)
      rintro s s' ts ts' e ⟨menu, found, store, subscribed⟩
      obtain ⟨menu', found', -⟩ := e.keepsMenu found
      obtain ⟨same, kept | lost⟩ := e.token found found'
      · exact ⟨menu', found', same.trans store, kept ▸ subscribed⟩
      · exact ⟨menu', found', same.trans store, .inr lost⟩
    · obtain ⟨-, menu, found, store, subscribed⟩ :=
        turn.knows_of_subscribes run.preferencesExist (Option.mem_toList.1 new)
      exact ⟨menu, found, store, .inl subscribed⟩

theorem History.probes_le (run : History may past m jobs) (made : e ∈ past) :
    e.machine.probes.length ≤ m.probes.length := by
  induction run with
  | opened page => cases made
  | turn run turn ih =>
    obtain rfl | earlier := List.mem_cons.1 made
    · exact turn.length_probes
    · exact Nat.le_trans (ih earlier) turn.length_probes

theorem Turn.unsubscribed {token : Nat} (turn : Turn may m jobs j m' jobs')
    (ends : Move.unsubscribes ⟨m, jobs, j⟩ k token) (a : Hearer) :
    (token, a) ∉ m'.stage.roll k := by
  unfold Move.unsubscribes at ends
  split at ends
  · rename_i name token' job
    have job : j = .act (.store name (.unsubscribe token')) := job
    subst job
    obtain ⟨named, rfl⟩ : m.stage.names.stores.get? name = some k ∧ token' = token := by
      simpa using ends
    rw [turn.effect_act.1]
    simp only [Stage.perform, Stage.performStore, Stage.onStore, named]
    split
    · rw [Stage.roll_unsubscribeStore, if_pos rfl]
      simp
    · rename_i missing
      intro member
      have member : (token', a) ∈ m.stage.roll k := member
      simp [Stage.roll, missing] at member
  · cases ends

/-- A subscription made by hand outlasts the turn, unless the turn ends it by its token. -/
theorem Turn.mem_roll {token p : Nat} (turn : Turn may m jobs j m' jobs') (owned : Private m.stage)
    (mirrored : Mirrored m.stage (Awaited (errandsOf jobs)))
    (spares : Allows (fun s step ↦ step.sparesMenus s) m.stage j)
    (member : (token, .probe p) ∈ m.stage.roll k)
    (spared : ¬ Move.unsubscribes ⟨m, jobs, j⟩ k token) :
    (token, .probe p) ∈ m'.stage.roll k := by
  have kept : Private m'.stage ∧ Mirrored m'.stage (Awaited (errandsOf jobs')) ∧
      (token, .probe p) ∈ m'.stage.roll k := by
    refine turn.edits_only.keep
      (I := fun s ts ↦ Private s ∧ Mirrored s (Awaited ts) ∧ (token, .probe p) ∈ s.roll k) ?_
      ⟨owned, mirrored, member⟩
    rintro s s' ts ts' e ⟨owned, mirrored, member⟩
    refine ⟨owned.edit e, mirrored.edit_of_spares owned ?_ e, e.mem_roll mirrored member ?_⟩
    · rintro _ step ⟨rfl, rfl⟩
      exact spares
    · rintro name named ⟨rfl, rfl⟩
      exact spared (by simp [Move.unsubscribes, named])
  exact kept.2.2

theorem History.mem_roll_iff {token p : Nat}
    (run : History (fun s step ↦ step.sparesMenus s) past m jobs)
    (member : (token, .probe p) ∈ subscriptions k past) :
    p < m.probes.length ∧
    ((token, .probe p) ∈ m.stage.roll k ↔ remains k past m.stage (token, .probe p)) := by
  induction run with
  | opened page => cases member
  | @turn past m m' jobs jobs' j run turn ih =>
    obtain old | new := List.mem_append.1 member
    · obtain ⟨below, exact⟩ := ih old
      refine ⟨Nat.lt_of_lt_of_le below turn.length_probes, ?_⟩
      by_cases ends : Move.unsubscribes ⟨m, jobs, j⟩ k token
      · exact iff_of_false (turn.unsubscribed ends _) (by simp [remains, below, ends])
      · have same : remains k (⟨m, jobs, j⟩ :: past) m'.stage (token, .probe p) =
            remains k past m.stage (token, .probe p) := by simp [remains, ends]
        rw [same, ← exact]
        refine ⟨fun after ↦ ?_,
          fun before ↦ turn.mem_roll run.mirrored.1 run.mirrored.2 turn.allows before ends⟩
        obtain before | new := List.mem_append.1 ((turn.sublist_roll k).subset after)
        · exact before
        · have last :=
            (turn.mem_roll_of_subscribes run.preferencesExist (Option.mem_toList.1 new)).1
          omega
    · obtain ⟨rfl, below, entered⟩ :=
        turn.mem_roll_of_subscribes run.preferencesExist (Option.mem_toList.1 new)
      refine ⟨below, iff_of_true entered ?_⟩
      rw [remains, Bool.not_eq_true', List.any_eq_false]
      intro e made
      have early : e.machine.probes.length ≤ m.probes.length := by
        obtain rfl | made := List.mem_cons.1 made
        · exact Nat.le_refl _
        · exact run.probes_le made
      simp [Nat.not_lt.2 early]

/-- Nobody subscribes to a preference twice. -/
theorem History.nodup_subscriptions (run : History may past m jobs) (k : Nat) :
    ((subscriptions k past).map Prod.snd).Nodup := by
  suffices fresh : ((subscriptions k past).map Prod.snd).Nodup ∧
      ∀ token p, (token, .probe p) ∈ subscriptions k past → p < m.probes.length from fresh.1
  induction run with
  | opened page => exact ⟨.nil, fun _ _ member ↦ by cases member⟩
  | @turn past m m' jobs jobs' j run turn ih =>
    obtain ⟨distinct, below⟩ := ih
    rw [subscriptions, List.map_append]
    refine ⟨List.nodup_append.2 ⟨distinct, ?_, ?_⟩, fun token p member ↦ ?_⟩
    · cases Move.subscribes ⟨m, jobs, j⟩ k <;> simp
    · intro _ before _ now same
      subst same
      obtain ⟨⟨token, hearer⟩, old, rfl⟩ := List.mem_map.1 before
      obtain ⟨⟨token', _⟩, new, ⟨⟩⟩ := List.mem_map.1 now
      cases hearer with
      | menu n =>
        obtain ⟨rfl, -⟩ := turn.knows_of_subscribes run.preferencesExist (Option.mem_toList.1 new)
        obtain ⟨menu, found, -⟩ := run.menu_of_subscriptions old
        simp at found
      | probe p =>
        obtain ⟨rfl, -⟩ :=
          turn.mem_roll_of_subscribes run.preferencesExist (Option.mem_toList.1 new)
        exact Nat.lt_irrefl _ (below _ _ old)
    · obtain old | new := List.mem_append.1 member
      · exact Nat.lt_of_lt_of_le (below token p old) turn.length_probes
      · exact (turn.mem_roll_of_subscribes run.preferencesExist (Option.mem_toList.1 new)).2.1

/-- At rest, the subscriptions to a preference are those ever made that remain, in the order in
which they were made. -/
theorem History.roll_eq (run : History (fun s step ↦ step.sparesMenus s) past m []) (k : Nat) :
    m.stage.roll k = (subscriptions k past).filter (remains k past m.stage) := by
  have vouched : Vouched m.stage :=
    run.keeps (I := fun s _ ↦ Vouched s) (fun page k token n member ↦ by cases member) fun e h ↦
      h.edit e
  have distinct : ((subscriptions k past).map id).Nodup := by
    rw [List.map_id]
    exact (run.nodup_subscriptions k).of_map _
  have sublist : (m.stage.roll k).Sublist ((subscriptions k past).map id) := by
    rw [List.map_id]
    exact run.sublist_roll k
  rw [eq_filter_of_sublist sublist distinct, List.map_id]
  rintro ⟨token, hearer⟩ member
  cases hearer with
  | probe p => exact (run.mem_roll_iff member).2
  | menu n =>
    obtain ⟨menu, found, store, subscribed⟩ := run.menu_of_subscriptions member
    rw [remains, run.lasts_iff found]
    constructor
    · intro entry
      obtain ⟨menu', found', -, token⟩ := vouched k token n entry
      cases found.symm.trans found'
      simp [token]
    · intro some
      obtain subscribed | lost := subscribed
      · exact run.mirrored.2.mem_roll ⟨menu, found, store, subscribed⟩
      · simp [lost] at some

end Runs

end Session

end Wayfinder
