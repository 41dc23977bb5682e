import Wayfinder.Proofs.Batches

namespace Wayfinder.Session

def Errand.handle? : Errand → Option (String × Link)
  | .keepHandle name link => some (name, link)
  | _ => none

def claims (ts : List Errand) : List (String × Link) := ts.filterMap Errand.handle?

section Claims

variable {t : Errand} {ts ts' : List Errand}

theorem claims_cons (other : t.handle? = none) : claims (t :: ts) = claims ts :=
  List.filterMap_cons_none other

theorem claims_append (others : ∀ t ∈ ts', t.handle? = none) : claims (ts' ++ ts) = claims ts := by
  rw [claims, List.filterMap_append, List.filterMap_eq_nil_iff.2 others, List.nil_append, claims]

theorem handle?_handAll {ds : List (Delivery Receiver)} : ∀ t ∈ handAll ds, t.handle? = none := by
  simp [handAll, Errand.handle?]

theorem handle?_tellAll {hearers : List Hearer} {news : Notice} :
    ∀ t ∈ tellAll hearers news, t.handle? = none := by
  simp [tellAll, Errand.handle?]

theorem handle?_handFirst {o : Receiver} {batch : List Entry} :
    ∀ t ∈ handFirst o batch, t.handle? = none := by
  unfold handFirst
  split <;> simp [Errand.handle?]

end Claims

namespace Stage

variable {s s' : Stage} {o : Receiver} {l l' : Link} {k : Nat}

def Stands (s : Stage) (o : Receiver) (l : Link) : Prop :=
  ∃ r, s.register? l.document = some r ∧ (l.token, o) ∈ r.entries

theorem stands_congr (registers : ∀ k, s'.register? k = s.register? k) :
    s'.Stands o l ↔ s.Stands o l := by
  rw [Stands, registers, Stands]

theorem stands_releaseLink : (s.releaseLink l').Stands o l ↔ s.Stands o l ∧ l ≠ l' := by
  obtain ⟨k, t⟩ := l
  obtain ⟨k', t'⟩ := l'
  simp only [Stands, register?_releaseLink, ne_eq, Link.mk.injEq, not_and]
  by_cases same : k = k'
  · cases s.register? k <;> simp [same, Subscribers.mem_entries_remove]
  · simp [same]

theorem stands_disconnect {link : Option Link} :
    (s.disconnect link).Stands o l ↔ s.Stands o l ∧ link ≠ some l := by
  cases link with
  | none => simp [disconnect]
  | some l' => simp [disconnect, stands_releaseLink, eq_comm]

theorem stands_observe {d : Document Receiver} {o' : Receiver} (found : s.documents[k]? = some d)
    (ids : List String) (band : Band) :
    (s.setDocument k (d.observe o' ids band)).Stands o l ↔
      s.Stands o l ∨ l = ⟨k, d.nextToken⟩ ∧ o = o' := by
  obtain ⟨i, t⟩ := l
  simp only [Stands, register?_setDocument found]
  by_cases same : i = k
  · have next : d.registered.next = d.nextToken := rfl
    simp [same, register?_of_found found, Subscribers.add, next]
  · simp [same]

theorem stands_openPage (page : Blueprint) : (s.openPage page).Stands o l ↔ s.Stands o l := by
  have none : s.register? s.documents.length = none := by simp [register?]
  simp only [Stands, register?_openPage]
  by_cases last : l.document = s.documents.length <;> simp [last, none]

theorem stands_iff : (∃ token, s.Stands o ⟨k, token⟩) ↔ ∃ ids band, s.Watched o k ids band := by
  constructor
  · rintro ⟨token, r, register, member⟩
    obtain ⟨d, found, rfl⟩ := Option.map_eq_some_iff.1 register
    obtain ⟨w, watch, same⟩ := List.mem_map.1 member
    exact ⟨w.ids, w.band, d, w, found, watch, (Prod.mk.inj same).2, rfl, rfl⟩
  · rintro ⟨ids, band, d, w, found, watch, rfl, -⟩
    exact ⟨w.token, d.registered, register?_of_found found, List.mem_map_of_mem watch⟩

end Stage

variable {s s' s'' : Stage} {ts ts' ts'' : List Errand}

/-- Handles and the watches of listeners stay as they are. -/
structure KeepsHandles (s : Stage) (ts : List Errand) (s' : Stage) (ts' : List Errand) : Prop where
  handles : s'.names.handles = s.names.handles
  claims : claims ts' = claims ts
  stands : ∀ probe l, s'.Stands (.probe probe) l ↔ s.Stands (.probe probe) l

namespace KeepsHandles

theorem of_same (handles : s'.names.handles = s.names.handles)
    (claims : Session.claims ts' = Session.claims ts)
    (registers : ∀ k, s'.register? k = s.register? k) : KeepsHandles s ts s' ts' :=
  ⟨handles, claims, fun _ _ ↦ Stage.stands_congr registers⟩

theorem refl : KeepsHandles s ts s ts := ⟨rfl, rfl, fun _ _ ↦ .rfl⟩

theorem trans (h : KeepsHandles s ts s' ts') (h' : KeepsHandles s' ts' s'' ts'') :
    KeepsHandles s ts s'' ts'' :=
  ⟨h'.handles.trans h.handles, h'.claims.trans h.claims,
    fun p l ↦ (h'.stands p l).trans (h.stands p l)⟩

theorem disposeSpy (kept : Kept s (keepings ts)) (n : Nat) :
    KeepsHandles s ts (s.disposeSpy n) ts := by
  cases found : s.spies[n]? with
  | none =>
    rw [Stage.disposeSpy, found]
    exact .refl
  | some m =>
    refine ⟨by rw [Stage.names_disposeSpy], rfl, fun probe l ↦ ?_⟩
    -- what a spy releases is its own watch, and a token has one owner
    have other : m.part.watch.map (Link.mk m.document) = some l → ¬ s.Stands (.probe probe) l := by
      rintro own ⟨r, register, member⟩
      obtain ⟨token, watch, rfl⟩ := Option.map_eq_some_iff.1 own
      obtain ⟨r', register', member'⟩ :=
        kept.exact.2 ((Stage.holds_of_found found).2 ⟨rfl, .inl watch⟩)
      obtain rfl := Option.some.inj (register.symm.trans register')
      cases (kept.sound register).eq_of_token member member'
    have same : (s.setSpy n m.part.dispose).Stands (.probe probe) l ↔ s.Stands (.probe probe) l :=
      .rfl
    rw [Stage.disposeSpy_eq found, Stage.stands_disconnect, same]
    exact ⟨And.left, fun stands ↦ ⟨stands, fun own ↦ other own stands⟩⟩

theorem reclaimOld (kept : Kept s (keepings ts)) (o : Option Object) :
    KeepsHandles s ts (s.reclaimOld o) ts :=
  Stage.reclaimOld_ind (P := fun s' ↦ KeepsHandles s ts s' ts) .refl
    (fun h ↦ ⟨h.handles, h.claims, h.stands⟩)
    (fun h ↦ ⟨h.handles, h.claims, h.stands⟩) fun _ k _ _ _ ↦ disposeSpy kept k

theorem releaseMenu (kept : Kept s (keepings ts)) (n : Nat) :
    KeepsHandles s ts (s.releaseMenu n) ts :=
  Stage.releaseMenu_ind (P := fun s' ↦ KeepsHandles s ts s' ts) .refl
    (fun h ↦ ⟨h.handles, h.claims, h.stands⟩)
    (fun h ↦ ⟨h.handles, h.claims, h.stands⟩) fun k _ ↦ disposeSpy kept k

theorem setDocument {k : Nat} {d d' : Document Receiver} (found : s.documents[k]? = some d)
    (same : d'.registered = d.registered) (claims : Session.claims ts' = Session.claims ts) :
    KeepsHandles s ts (s.setDocument k d') ts' := by
  refine .of_same rfl claims fun i ↦ ?_
  rw [Stage.register?_setDocument found]
  split
  · subst i
    rw [same, Stage.register?_of_found found]
  · rfl

end KeepsHandles

def Job.keepsHandles : Job → Bool
  | .act (.handle _ op) => !op.frees
  | .act (.listen (.watch _ _ _) _ _ _) | .errand (.keepHandle _ _) => false
  | _ => true

theorem Edit.keepsHandles {s₀ : Stage} {j : Job} (e : Edit (Only s₀ j) s ts s' ts')
    (kept : Kept s (keepings ts)) (keeps : j.keepsHandles) : KeepsHandles s ts s' ts' := by
  have busy {j' : Job} {C : Prop} (same : j' = j) (busy : j'.keepsHandles = false) : C :=
    absurd keeps (by rw [← same, busy]; exact Bool.false_ne_true)
  have still {s' : Stage} {ts ts' : List Errand} (handles : s'.names.handles = s.names.handles)
      (documents : s'.documents = s.documents) (claims : Session.claims ts' = Session.claims ts) :
      KeepsHandles s ts s' ts' :=
    .of_same handles claims fun k ↦ by rw [Stage.register?, documents, Stage.register?]
  have tidied {s₁ : Stage} (o : Option Object) (handles : s₁.names.handles = s.names.handles)
      (documents : s₁.documents = s.documents) (kept₁ : Kept s₁ (keepings ts)) :
      KeepsHandles s ts (s₁.reclaimOld o) ts :=
    (still handles documents rfl).trans (.reclaimOld kept₁ o)
  have unnamed {s₁ : Stage} (documents : s₁.documents = s.documents) (spies : s₁.spies = s.spies)
      (handles : s₁.names.handles = s.names.handles) : Kept s₁ (keepings ts) :=
    kept.frame (fun k ↦ by rw [Stage.register?, documents, Stage.register?])
      (fun n ↦ by rw [Stage.post?, spies, Stage.post?]) handles
  cases e with
  | @skip t _ idle =>
    have other : t.handle? = none := by cases t <;> first | rfl | cases idle
    exact still rfl rfl (claims_cons other).symm
  | @push t _ free =>
    have other : t.handle? = none := by cases t <;> first | rfl | cases free
    exact still rfl rfl (claims_cons other)
  | animate | handOn | passOn | deaf | unseen | hold | tellMenu | redraw | faults | createStore
  | subscribeStore | dropStore | createScroller | listenMenu => exact still rfl rfl rfl
  | amend found alike => exact .setDocument found alike.registered rfl
  | inform found alike =>
    exact .setDocument found (Document.registered_inform.trans alike.registered)
      (claims_append handle?_handAll)
  | emit => exact still rfl rfl (claims_append handle?_handAll)
  | openPage page => exact ⟨rfl, rfl, fun _ _ ↦ Stage.stands_openPage page⟩
  | watch _ _ _ _ _ allowed => exact busy allowed.2 rfl
  | keepHandle allowed => exact busy allowed.2 rfl
  | freeHandle _ frees allowed => exact busy allowed.2 (by simp [Job.keepsHandles, frees])
  | dropHandle _ allowed => exact busy allowed.2 rfl
  | adopt => exact still rfl rfl (claims_append handle?_tellAll)
  | unsubscribeStore =>
    unfold Stage.unsubscribeStore
    split <;> exact still rfl rfl rfl
  | createSpy =>
    refine tidied _ ?_ ?_ ((kept.addSpy rfl).frame (fun _ ↦ rfl) (fun _ ↦ rfl) rfl)
    · rfl
    · rfl
  | @observe _ n m d found document =>
    refine ⟨rfl, ?_, fun probe l ↦ ?_⟩
    · exact (claims_append handle?_handFirst).trans (claims_cons rfl)
    · have begun : (s.setSpy n (beginObserving m.part d)).documents[m.document]? = some d :=
        document
      rw [Stage.stands_observe begun]
      refine or_iff_left ?_
      rintro ⟨-, new⟩
      cases new
  | @observeNothing _ n m d found document =>
    have same : (s.setDocument m.document d).documents = s.documents := by
      rw [Stage.setDocument_self document]
    exact still rfl same rfl
  | keepWatch =>
    unfold Stage.keepWatch
    split <;> exact still rfl rfl rfl
  | disposeSpy => exact .disposeSpy kept _
  | subscribeSpy | unsubscribeSpy => exact still rfl rfl rfl
  | receive => exact still rfl rfl (claims_append handle?_tellAll)
  | dropSpy | dropMenu => exact tidied (some _) rfl rfl (unnamed rfl rfl rfl)
  | createMenu =>
    refine tidied _ ?_ ?_ ((kept.addSpy rfl).frame (fun _ ↦ rfl) (fun _ ↦ rfl) rfl)
    · rfl
    · rfl
  | createBare =>
    refine tidied _ ?_ ?_ (unnamed rfl rfl rfl)
    · rfl
    · rfl
  | shareMenu => exact tidied _ rfl rfl (unnamed rfl rfl rfl)
  | disposeMenu => exact .releaseMenu kept _
  | setOpen => exact still rfl rfl (claims_append (by split <;> simp [Errand.handle?]))
  | @letGo _ o =>
    have gone : KeepsHandles s (.letGo o :: ts')
        (Stage.reclaimOld { s with inUse := s.inUse.erase o } (some o))
      (.letGo o :: ts') := tidied _ rfl rfl (unnamed rfl rfl rfl)
    exact ⟨gone.handles, gone.claims, gone.stands⟩

namespace Stage

def CurrentExists (s : Stage) : Prop := s.current < s.documents.length

theorem CurrentExists.disconnect (h : s.CurrentExists) (link : Option Link) :
    (s.disconnect link).CurrentExists := by
  cases link with
  | none => exact h
  | some l => simpa [CurrentExists, Stage.disconnect, releaseLink] using h

theorem CurrentExists.setDocument (h : s.CurrentExists) (k : Nat) (d : Document Receiver) :
    (s.setDocument k d).CurrentExists := by
  simpa [CurrentExists, Stage.setDocument] using h

theorem CurrentExists.disposeSpy (h : s.CurrentExists) (n : Nat) :
    (s.disposeSpy n).CurrentExists := by
  unfold Stage.disposeSpy
  split
  · exact h
  · refine CurrentExists.disconnect ?_ _
    exact h

theorem CurrentExists.reclaimOld (h : s.CurrentExists) (o : Option Object) :
    (s.reclaimOld o).CurrentExists :=
  reclaimOld_ind (P := CurrentExists) h (fun h ↦ h) (fun h ↦ h) fun _ k _ _ _ ↦ h.disposeSpy k

end Stage

theorem Edit.currentExists {may : Stage → Job → Prop} (e : Edit may s ts s' ts')
    (h : s.CurrentExists) : s'.CurrentExists := by
  cases e with
  | skip | push | animate | handOn | passOn | emit | faults | createStore | adopt | subscribeStore
  | dropStore | subscribeSpy | unsubscribeSpy | receive | createScroller | setOpen | listenMenu
  | tellMenu | deaf | redraw | unseen | hold => exact h
  | amend | inform | watch => exact h.setDocument _ _
  | observe | observeNothing =>
    refine Stage.CurrentExists.setDocument ?_ _ _
    exact h
  | openPage => simp [Stage.CurrentExists, Stage.openPage]
  | keepHandle | freeHandle | dropHandle =>
    refine Stage.CurrentExists.disconnect ?_ _
    exact h
  | unsubscribeStore =>
    unfold Stage.unsubscribeStore
    split <;> exact h
  | keepWatch =>
    unfold Stage.keepWatch
    split <;> exact h
  | disposeSpy => exact h.disposeSpy _
  | createSpy | createMenu | createBare | shareMenu =>
    refine Stage.CurrentExists.reclaimOld ?_ _
    exact h
  | dropSpy | dropMenu | letGo =>
    refine Stage.CurrentExists.reclaimOld ?_ (some _)
    exact h
  | disposeMenu =>
    exact Stage.releaseMenu_ind (P := Stage.CurrentExists) h (fun h ↦ h) (fun h ↦ h) fun k _ ↦
      h.disposeSpy k

section Runs

variable {may : Stage → Step → Prop} {past : List Move} {m m' : Machine}
  {jobs jobs' : List Job} {j : Job}

theorem Turn.keepsHandles (turn : Turn may m jobs j m' jobs')
    (kept : Kept m.stage (keepings (errandsOf jobs))) (keeps : j.keepsHandles) :
    KeepsHandles m.stage (errandsOf jobs) m'.stage (errandsOf jobs') :=
  (turn.edits_only.keep (I := fun s ts ↦ Kept s (keepings ts) ∧
    KeepsHandles m.stage (errandsOf jobs) s ts)
    (fun e h ↦ ⟨h.1.edit e, h.2.trans (e.keepsHandles h.1 keeps)⟩) ⟨kept, .refl⟩).2

/-- Where the only watch of a listener is: its handle is about to stand for it, or does, or it has
been released. -/
inductive SoleWatch (name : String) (l : Link) (o : Receiver) (freed : Prop) (s : Stage)
    (ts : List Errand) : Prop
  | waiting (fresh : ¬ freed) (stands : ∀ l', s.Stands o l' ↔ l' = l)
      (unnamed : ∀ other, s.names.handles.get? other ≠ some (some l))
      (claims : claims ts = [(name, l)])
  | named (stands : ∀ l', s.Stands o l' ↔ l' = l)
      (named : ∀ other, s.names.handles.get? other = some (some l) ↔ other = name)
      (unclaimed : ∀ other, (other, l) ∉ claims ts) (freed : freed ↔ ∃ l', (name, l') ∈ claims ts)
  | gone (stands : ∀ l', ¬ s.Stands o l') (freed : freed)

def Move.frees (e : Move) (name : String) : Bool :=
  match e.job with
  | .act (.handle other op) => other = name && op.frees
  | .act (.listen (.watch other _ _) _ _ _) => other = name
  | _ => false

theorem History.currentExists (run : History may past m jobs) : m.stage.CurrentExists :=
  run.keeps (I := fun s _ ↦ s.CurrentExists) (fun _ ↦ Nat.zero_lt_one) fun e h ↦ e.currentExists h

/-- The name is given another link, and the watch that its handle stood for is released. -/
structure Renames (name : String) (link : Option Link) (s s' : Stage) : Prop where
  handles : ∀ other l, s'.names.handles.get? other = some (some l) ↔
    if other = name then link = some l else s.names.handles.get? other = some (some l)
  stands : ∀ o l, s'.Stands o l ↔ s.Stands o l ∧ s.names.handles.get? name ≠ some (some l)

theorem renames_nameHandle (s : Stage) (name : String) (link : Option Link) :
    Renames name link s (s.nameHandle name link) where
  handles other l := by
    rw [Stage.nameHandle, Stage.names_disconnect, Table.get?_insert]
    split <;> simp
  stands o l := by
    rw [Stage.nameHandle, Stage.stands_disconnect]
    cases s.names.handles.get? name <;> simp [Stage.Stands, Stage.register?]

theorem renames_performHandle (s : Stage) (name : String) {op : HandleOp} (frees : op.frees) :
    Renames name none s (s.performHandle name op).stage ∧
    (s.performHandle name op).errands = [] := by
  have unnamed (absent : s.names.handles.get? name = none) : Renames name none s s := by
    refine ⟨fun other l ↦ ?_, fun o l ↦ by simp [absent]⟩
    by_cases same : other = name <;> simp [same, absent]
  cases op with
  | inert => exact ⟨renames_nameHandle s name none, rfl⟩
  | disconnect =>
    simp only [Stage.performHandle, Stage.onHandle]
    split
    · exact ⟨renames_nameHandle s name none, rfl⟩
    · exact ⟨unnamed ‹_›, rfl⟩
  | inspect => cases frees
  | drop =>
    simp only [Stage.performHandle, Stage.onHandle]
    split
    · rename_i link named
      refine ⟨⟨fun other l ↦ ?_, fun o l ↦ ?_⟩, rfl⟩
      · rw [Stage.dropHandle, Stage.names_disconnect, Table.get?_erase]
        split <;> simp
      · rw [Stage.dropHandle, Stage.stands_disconnect, named]
        simp [Stage.Stands, Stage.register?]
    · exact ⟨unnamed ‹_›, rfl⟩

namespace SoleWatch

variable {name other : String} {l l' : Link} {probe : Nat} {o : Receiver} {freed freed' : Prop}

theorem congr (h : SoleWatch name l o freed s ts) (same : freed' ↔ freed) :
    SoleWatch name l o freed' s ts := by
  rwa [propext same]

theorem keepsHandles (h : SoleWatch name l (.probe probe) freed s ts)
    (keeps : KeepsHandles s ts s' ts') :
    SoleWatch name l (.probe probe) freed s' ts' := by
  obtain ⟨handles, claims, stands⟩ := keeps
  cases h with
  | waiting fresh standing unnamed waiting =>
    exact .waiting fresh (fun l' ↦ (stands _ l').trans (standing l')) (by rwa [handles])
      (claims.trans waiting)
  | named standing named unclaimed freed =>
    exact .named (fun l' ↦ (stands _ l').trans (standing l')) (by rwa [handles]) (by rwa [claims])
      (by rwa [claims])
  | gone released freed =>
    exact .gone (fun l' standing ↦ released l' ((stands _ l').1 standing)) freed

theorem free (h : SoleWatch name l o freed s []) (renames : Renames other none s s')
    (here : freed' ↔ other = name ∨ freed) : SoleWatch name l o freed' s' [] := by
  cases h with
  | waiting _ _ _ waiting => cases waiting
  | named standing named unclaimed pending =>
    have fresh : ¬ freed := by simpa [claims] using pending
    by_cases same : other = name
    · subst other
      refine .gone (fun l' standing' ↦ ?_) (here.2 (.inl rfl))
      obtain ⟨standing', kept⟩ := (renames.stands o l').1 standing'
      obtain rfl := (standing l').1 standing'
      exact kept ((named name).2 rfl)
    · refine .named (fun l' ↦ ?_) (fun h ↦ ?_) unclaimed (by simp [here, same, fresh, claims])
      · rw [renames.stands, standing]
        refine and_iff_left_of_imp ?_
        rintro rfl given
        exact same ((named other).1 given)
      · rw [renames.handles]
        by_cases h' : h = other
        · simp [h', same]
        · simp [h', named]
  | gone released freed =>
    exact .gone (fun l' standing ↦ released l' ((renames.stands o l').1 standing).1)
      (here.2 (.inr freed))

theorem keep (h : SoleWatch name l o freed s (.keepHandle other l' :: ts))
    (renames : Renames other (some l') s s') : SoleWatch name l o freed s' ts := by
  have pending : claims (.keepHandle other l' :: ts) = (other, l') :: claims ts := rfl
  cases h with
  | waiting fresh standing unnamed waiting =>
    rw [pending] at waiting
    obtain ⟨⟨rfl, rfl⟩, none⟩ : (other = name ∧ l' = l) ∧ claims ts = [] := by simpa using waiting
    refine .named (fun l ↦ ?_) (fun h ↦ ?_) (by simp [none]) (by simp [none, fresh])
    · rw [renames.stands, standing]
      refine and_iff_left_of_imp ?_
      rintro rfl
      exact unnamed other
    · rw [renames.handles]
      split <;> simp [*]
  | named standing named unclaimed freed =>
    rw [pending] at unclaimed freed
    have fresh : l' ≠ l := fun same ↦ unclaimed other (same ▸ .head _)
    by_cases same : other = name
    · subst other
      refine .gone (fun l'' standing' ↦ ?_) (freed.2 ⟨l', .head _⟩)
      obtain ⟨standing', kept⟩ := (renames.stands o l'').1 standing'
      obtain rfl := (standing l'').1 standing'
      exact kept ((named name).2 rfl)
    · refine .named (fun l'' ↦ ?_) (fun h ↦ ?_) (fun h member ↦ unclaimed h (.tail _ member)) ?_
      · rw [renames.stands, standing]
        refine and_iff_left_of_imp ?_
        rintro rfl given
        exact same ((named other).1 given)
      · rw [renames.handles]
        by_cases h' : h = other
        · simp [h', same, fresh]
        · simp [h', named]
      · simpa [Ne.symm same] using freed
  | gone released freed =>
    exact .gone (fun l' standing ↦ released l' ((renames.stands o l').1 standing).1) freed

theorem watch {k : Nat} {d : Document Receiver} {o' : Receiver} {ids : List String} {band : Band}
    (h : SoleWatch name l o freed s []) (kept : Kept s []) (found : s.documents[k]? = some d)
    (apart : o ≠ o') (claims : claims ts = [(other, ⟨k, d.nextToken⟩)])
    (here : freed' ↔ other = name ∨ freed) :
    SoleWatch name l o freed' (s.setDocument k (d.observe o' ids band)) ts := by
  have same (l' : Link) : (s.setDocument k (d.observe o' ids band)).Stands o l' ↔
      s.Stands o l' := by
    simp [Stage.stands_observe found, apart]
  cases h with
  | waiting _ _ _ waiting => cases waiting
  | named standing named unclaimed pending =>
    have fresh : ¬ freed := by simpa [Session.claims] using pending
    -- a token is given out once, so the new link is not the one that the handle stands for
    have old : l ≠ ⟨k, d.nextToken⟩ := by
      rintro rfl
      obtain ⟨r, register, member⟩ := (standing _).2 rfl
      have below := (kept.sound register).below _ member
      obtain rfl := Option.some.inj ((Stage.register?_of_found found).symm.trans register)
      exact Nat.lt_irrefl _ below
    refine .named (fun l' ↦ (same l').trans (standing l')) named ?_ ?_
    · simp [claims, old]
    · simp [claims, here, fresh, eq_comm]
  | gone released freed =>
    exact .gone (fun l' standing ↦ released l' ((same l').1 standing)) (here.2 (.inr freed))

theorem setUp {k : Nat} {d : Document Receiver} {ids : List String} {band : Band} (kept : Kept s [])
    (found : s.documents[k]? = some d) (new : ∀ l, ¬ s.Stands o l)
    (claims : claims ts = [(name, ⟨k, d.nextToken⟩)])
    (fresh : ¬ freed) :
    SoleWatch name ⟨k, d.nextToken⟩ o freed (s.setDocument k (d.observe o ids band)) ts := by
  refine .waiting fresh (fun l ↦ ?_) (fun other given ↦ ?_) claims
  · simp [Stage.stands_observe found, new]
  · obtain ⟨⟨r, register, below⟩, -⟩ := kept.links (.inl ⟨other, given⟩)
    obtain rfl := Option.some.inj ((Stage.register?_of_found found).symm.trans register)
    exact Nat.lt_irrefl _ below

theorem turn (h : SoleWatch name l (.probe probe) freed m.stage (errandsOf jobs))
    (turn : Turn may m jobs j m' jobs')
    (run : History may past m jobs) (quiet : ∀ step, j = .act step → jobs = [])
    (older : probe < m.probes.length) :
    SoleWatch name l (.probe probe)
    (Move.frees ⟨m, jobs, j⟩ name ∨ freed) m'.stage (errandsOf jobs') := by
  by_cases keeps : j.keepsHandles
  · have calm : Move.frees ⟨m, jobs, j⟩ name = false := by
      unfold Move.frees
      split <;> simp_all [Job.keepsHandles]
    simpa [calm] using h.keepsHandles (turn.keepsHandles run.kept keeps)
  · obtain ⟨step, rfl, -, stage, errands⟩ | ⟨t, rest, rfl, pending, stage,
        errands⟩ | ⟨⟨_, _, rfl⟩, -⟩ :=
      turn.effect
    · obtain rfl := quiet step rfl
      rw [errandsOf_nil, List.append_nil] at errands
      rw [errandsOf_nil] at h
      rw [stage, errands]
      cases step with
      | handle other op =>
        have frees : op.frees := by simpa [Job.keepsHandles] using keeps
        obtain ⟨renames, nothing⟩ := renames_performHandle m.stage other frees
        have none : (m.stage.perform m.probes.length (.handle other op)).errands = [] := nothing
        rw [none]
        exact h.free renames (by simp [Move.frees, frees])
      | listen spot label script limit =>
        cases spot with
        | watch other ids band =>
          obtain ⟨d, found⟩ : ∃ d, m.stage.documents[m.stage.current]? = some d :=
            ⟨_, List.getElem?_eq_getElem run.currentExists⟩
          have result := Stage.performListen_watch m.probes.length other ids band found
          have apart : Receiver.probe probe ≠ .probe m.probes.length := by
            simpa using Nat.ne_of_lt older
          have claimed : claims (handFirst (.probe m.probes.length) (d.firstBatch ids band) ++
              [.keepHandle other ⟨m.stage.current, d.nextToken⟩]) =
                [(other, ⟨m.stage.current, d.nextToken⟩)] :=
            claims_append handle?_handFirst
          simp only [Stage.perform, result]
          exact h.watch run.kept found apart claimed (by simp [Move.frees])
        | _ => exact absurd rfl keeps
      | _ => exact absurd rfl keeps
    · rw [pending] at h
      rw [stage, errands]
      cases t with
      | keepHandle other l' =>
        have kept : SoleWatch name l (.probe probe) freed _ rest :=
          h.keep (renames_nameHandle m.stage other (some l'))
        exact .congr kept (by simp [Move.frees])
      | _ => exact absurd rfl keeps
    · exact absurd rfl keeps

theorem watched_iff {k token : Nat} (h : SoleWatch name ⟨k, token⟩ o freed s []) :
    (∃ ids band, s.Watched o k ids band) ↔ ¬ freed := by
  rw [← Stage.stands_iff]
  cases h with
  | waiting _ _ _ waiting => cases waiting
  | named standing _ _ pending =>
    have fresh : ¬ freed := by simpa [claims] using pending
    exact iff_of_true ⟨token, (standing _).2 rfl⟩ fresh
  | gone released freed =>
    refine iff_of_false ?_ (not_not_intro freed)
    rintro ⟨token', standing⟩
    exact released _ standing

end SoleWatch

/-- Where the watch is that was set up by a move: it is released only after its handle has been
freed. -/
theorem History.soleWatch {name : String} {probe k : Nat} {ids : List String}
    {band : Band} {e : Move} {later earlier : List Move}
    (run : History may past m jobs) (genuine : ∀ s step, may s step → step.isGenuine)
    (quiet : ∀ e ∈ past, e.atRest)
    (split : past = later ++ e :: earlier) (setUp : e.setsUp name probe k ids band) :
    ∃ token, SoleWatch name ⟨k, token⟩ (.probe probe)
    (∃ e' ∈ later, e'.frees name) m.stage (errandsOf jobs) := by
  induction run generalizing later with
  | opened page => simp at split
  | @turn past m m' jobs jobs' j run turn ih =>
    obtain ⟨first, calm⟩ := List.forall_mem_cons.1 quiet
    -- the last move is the one that set up the watch, or it was made while the watch was accounted
    -- for
    cases later with
    | nil =>
      obtain ⟨rfl, rfl⟩ := List.cons.inj split
      obtain ⟨rfl, rfl, label, script, limit, job⟩ := Move.setsUp_iff.1 setUp
      dsimp only at job
      subst job
      obtain rfl : jobs = [] := Move.atRest_iff.1 first _ rfl
      obtain ⟨told, -⟩ := run.told genuine calm
      obtain ⟨d, found⟩ : ∃ d, m.stage.documents[m.stage.current]? = some d :=
        ⟨_, List.getElem?_eq_getElem run.currentExists⟩
      have result := Stage.performListen_watch m.probes.length name ids band found
      have new (l) : ¬ m.stage.Stands (.probe m.probes.length) l := by
        intro stands
        obtain ⟨ids, band, watched⟩ := Stage.stands_iff.1 ⟨l.token, stands⟩
        exact told.newcomer run (.inl rfl) m.stage (.head _) _ ids band watched
      obtain ⟨stage, errands⟩ := turn.effect_act
      refine ⟨d.nextToken, ?_⟩
      rw [stage, errands]
      simp only [Stage.perform, result, errandsOf_nil, List.append_nil]
      exact .setUp run.kept found new (claims_append handle?_handFirst) (by simp)
    | cons e' later =>
      obtain ⟨rfl, rfl⟩ := List.cons.inj split
      obtain ⟨token, soleWatch⟩ := ih calm rfl
      obtain ⟨rfl, -, label, script, limit, job⟩ := Move.setsUp_iff.1 setUp
      have older := run.length_probes e (by simp) _ _ _ _ job
      exact ⟨token, (soleWatch.turn turn run (Move.atRest_iff.1 first) older).congr (by simp)⟩

/-- No two listeners have one number. -/
theorem History.listen_unique (run : History may past m jobs) {e e' : Move} (he : e ∈ past)
    (he' : e' ∈ past) {spot spot' : Spot} {label label' : String} {script script' : List Step}
    {limit limit' : Nat} (job : e.job = .act (.listen spot label script limit))
    (job' : e'.job = .act (.listen spot' label' script' limit'))
    (same : e.machine.probes.length = e'.machine.probes.length) : e = e' := by
  induction run with
  | opened page => cases he
  | turn run _ ih =>
    obtain rfl | old := List.mem_cons.1 he
    · obtain rfl | old' := List.mem_cons.1 he'
      · rfl
      · exact absurd same.symm (Nat.ne_of_lt (run.length_probes e' old' _ _ _ _ job'))
    · obtain rfl | old' := List.mem_cons.1 he'
      · exact absurd same (Nat.ne_of_lt (run.length_probes e old _ _ _ _ job))
      · exact ih old old'

theorem Told.sole {name : String} {probe k : Nat} {ids : List String} {band : Band} {e : Move}
    (h : Told past m ts)
    (run : History may past m jobs) (member : e ∈ past) (setUp : e.setsUp name probe k ids band) :
    Sole (.probe probe) k ids band (stages m past) := by
  intro s here k' ids' band' watched
  obtain ⟨e', member', name', setUp'⟩ := h.probes s here watched
  obtain ⟨rfl, rfl, label, script, limit, job⟩ := Move.setsUp_iff.1 setUp
  obtain ⟨same, rfl, label', script', limit', job'⟩ := Move.setsUp_iff.1 setUp'
  obtain rfl := run.listen_unique member' member job' job same
  cases job.symm.trans job'
  exact ⟨rfl, rfl, rfl⟩

end Runs

end Wayfinder.Session
