import Wayfinder.Proofs.Traffic
import Wayfinder.Proofs.Trail

namespace Wayfinder.Session

def offsetFor (o : Receiver) (d : Document Receiver) : Option Length :=
  if d.watches.any (·.owner = o) then some d.scrollY else none

theorem offsetFor_eq_some {o : Receiver} {d : Document Receiver} {y : Length} :
    offsetFor o d = some y ↔ (∃ w ∈ d.watches, w.owner = o) ∧ d.scrollY = y := by
  simp [offsetFor]

namespace Stage

variable {s s' : Stage} {o : Receiver} {k : Nat} {ids : List String} {band : Band} {y : Length}

def Watched (s : Stage) (o : Receiver) (k : Nat) (ids : List String) (band : Band) : Prop :=
  ∃ d w, s.documents[k]? = some d ∧ w ∈ d.watches ∧ w.owner = o ∧ w.ids = ids ∧ w.band = band

def offset? (s : Stage) (k : Nat) (o : Receiver) : Option Length :=
  s.documents[k]?.bind (offsetFor o)

theorem offset?_of_found {d : Document Receiver} (found : s.documents[k]? = some d) :
    s.offset? k o = offsetFor o d := by
  rw [offset?, found, Option.bind_some]

theorem watched_of_offset? (seen : s.offset? k o = some y) :
    ∃ ids band, s.Watched o k ids band := by
  obtain ⟨d, found, seen⟩ := Option.bind_eq_some_iff.1 seen
  obtain ⟨⟨w, member, owner⟩, -⟩ := offsetFor_eq_some.1 seen
  exact ⟨w.ids, w.band, d, w, found, member, owner, rfl, rfl⟩

end Stage

def stages (m : Machine) (past : List Move) : List Stage := m.stage :: past.map (·.machine.stage)

/-- The offsets of document `k` at those stages at which it held a watch of the receiver. -/
def trail (k : Nat) (o : Receiver) (stages : List Stage) : List Length :=
  stages.filterMap (·.offset? k o)

/-- The batches that the receiver has got, the latest in front. -/
def received (o : Receiver) (past : List Move) : List (List Entry) :=
  past.filterMap (·.job.receipt o)

theorem received_cons {o : Receiver} {e : Move} {past : List Move} :
    received o (e :: past) = (e.job.receipt o).toList ++ received o past := by
  rw [received, List.filterMap_cons]
  cases e.job.receipt o <;> rfl

/-- Every watch of the receiver was on document `k`, and set on these ids and this band. -/
def Sole (o : Receiver) (k : Nat) (ids : List String) (band : Band) (stages : List Stage) : Prop :=
  ∀ s ∈ stages, ∀ k' ids' band', s.Watched o k' ids' band' → k' = k ∧ ids' = ids ∧ band' = band

section Trails

variable {s s' : Stage} {older : List Stage} {o o' : Receiver} {k : Nat} {ids : List String}
  {band : Band}
    {p : Page}

theorem trail_cons_none (unseen : s.offset? k o = none) :
    trail k o (s :: older) = trail k o older :=
  List.filterMap_cons_none unseen

theorem trail_cons_some {y : Length} (seen : s.offset? k o = some y) :
    trail k o (s :: older) = y :: trail k o older :=
  List.filterMap_cons_some seen

theorem trail_of_unmet (unmet : ∀ s ∈ older, ∀ k ids band, ¬ s.Watched o k ids band) :
    trail k o older = [] := by
  refine List.filterMap_eq_nil_iff.2 fun s member ↦ ?_
  cases seen : s.offset? k o with
  | none => rfl
  | some y =>
    obtain ⟨ids, band, watched⟩ := Stage.watched_of_offset? seen
    exact absurd watched (unmet s member k ids band)

/-- Nothing is to be told where the document stays at its offset, or is not watched any more. -/
theorem told_trail_stay (stay : ∀ y, s'.offset? k o = some y → s.offset? k o = some y) :
    p.told ids band (trail k o (s' :: s :: older)) = p.told ids band (trail k o (s :: older)) := by
  cases seen : s'.offset? k o with
  | none => rw [trail_cons_none seen]
  | some y => rw [trail_cons_some seen, trail_cons_some (stay y seen), p.told_stay]

end Trails

theorem parcels_handAll (o : Receiver) (ds : List (Delivery Receiver)) :
    parcels o (handAll ds) = (ds.filter (·.owner = o)).map Delivery.batch := by
  induction ds with
  | nil => rfl
  | cons d ds ih =>
    have cons : handAll (d :: ds) = .hand d.owner d.batch :: handAll ds := rfl
    rw [cons, parcels_cons, ih]
    by_cases same : d.owner = o <;> simp [Errand.parcel, same]

theorem parcels_handFirst (o o' : Receiver) (batch : List Entry) :
    parcels o (handFirst o' batch) = if o' = o then [batch].filter (!·.isEmpty) else [] := by
  unfold handFirst
  cases batch with
  | nil => simp
  | cons e batch => by_cases same : o' = o <;> simp [parcels_cons, Errand.parcel, same]

theorem filter_owner {w : Watch Receiver} {ws : List (Watch Receiver)}
    (owners : (ws.map Watch.owner).Nodup) (member : w ∈ ws) :
    ws.filter (·.owner = w.owner) = [w] := by
  induction ws with
  | nil => cases member
  | cons v ws ih =>
    obtain ⟨fresh, owners⟩ := List.nodup_cons.1 owners
    obtain rfl | member := List.mem_cons.1 member
    · have others : ws.filter (·.owner = w.owner) = [] := by
        refine List.filter_eq_nil_iff.2 fun v hv same ↦ fresh ?_
        rw [← of_decide_eq_true same]
        exact List.mem_map_of_mem hv
      simp [others]
    · have other : v.owner ≠ w.owner := fun same ↦ fresh (same ▸ List.mem_map_of_mem member)
      simp [other, ih owners member]

theorem parcels_deltas (o : Receiver) (d : Document Receiver) (y : Length) :
    parcels o (handAll (d.deltas y)) =
    ((d.watches.filter (·.owner = o)).map fun w ↦ d.page.changes w.ids w.band d.scrollY y).filter
      (!·.isEmpty) := by
  simp only [parcels_handAll, Document.deltas, List.filter_map, List.map_map, List.filter_filter,
    Function.comp_def, Bool.and_comm]

theorem parcels_shift {o : Receiver} {d : Document Receiver}
    {change : Document Receiver × List (Delivery Receiver)}
    (shift : d.Shifts change) (absent : ∀ w ∈ d.watches, w.owner ≠ o) :
    parcels o (handAll change.2) = [] := by
  cases shift with
  | stay => rfl
  | inform alike =>
    rw [parcels_handAll, List.map_eq_nil_iff, List.filter_eq_nil_iff]
    intro b member same
    obtain ⟨w, watch, rfl⟩ := List.mem_map.1 (List.mem_filter.1 member).1
    exact absent w (alike.watches ▸ watch) (of_decide_eq_true same)

theorem offsetFor_shift {o : Receiver} {d : Document Receiver}
    {change : Document Receiver × List (Delivery Receiver)}
    (shift : d.Shifts change) :
    offsetFor o change.1 = (offsetFor o d).map fun _ ↦ change.1.scrollY := by
  have owners (d : Document Receiver) : d.watches.any (·.owner = o) =
    (d.watches.map Watch.blank).any (·.owner = o) := by
    rw [List.any_map]
    rfl
  rw [offsetFor, offsetFor, owners, shift.watches, ← owners]
  split <;> rfl

structure OneWatchEach (d : Document Receiver) : Prop where
  owners : (d.watches.map Watch.owner).Nodup
  current : d.page.Distinct → d.Current

namespace OneWatchEach

variable {d d' : Document Receiver}

theorem of_unwatched (none : d.watches = []) :
    OneWatchEach d := ⟨by simp [none], fun _ ↦ by simp [Document.Current, none]⟩

theorem losesWatchesOnly (h : OneWatchEach d) (losesWatchesOnly : d.LosesWatchesOnly d') :
    OneWatchEach d' where
  owners := h.owners.sublist (losesWatchesOnly.watches.map _)
  current distinct w member := by
    rw [losesWatchesOnly.page, losesWatchesOnly.offset]
    exact h.current (losesWatchesOnly.page ▸ distinct) w (losesWatchesOnly.watches.subset member)

theorem shift {change : Document Receiver × List (Delivery Receiver)} (h : OneWatchEach d)
    (shift : d.Shifts change) : OneWatchEach change.1 where
  owners := by
    have owners (d : Document Receiver) :
      d.watches.map Watch.owner = (d.watches.map Watch.blank).map Watch.owner := by
      rw [List.map_map]
      rfl
    rw [owners, shift.watches, ← owners]
    exact h.owners
  current distinct := by
    rw [shift.page] at distinct
    exact shift.current distinct (h.current distinct)

theorem observe {o : Receiver} (h : OneWatchEach d) (new : ∀ w ∈ d.watches, w.owner ≠ o)
    (ids : List String) (band : Band) : OneWatchEach (d.observe o ids band) where
  owners := by
    simp only [Document.observe, List.map_append, List.map_cons, List.map_nil]
    refine List.nodup_append.2 ⟨h.owners, List.nodup_singleton _, ?_⟩
    rintro _ member _ last rfl
    obtain ⟨w, watch, owner⟩ := List.mem_map.1 member
    exact new w watch (owner.trans (List.mem_singleton.1 last))
  current distinct := (h.current distinct).observe distinct o ids band

end OneWatchEach

def Newcomer (probes : Nat) (s : Stage) (o : Receiver) : Prop :=
  o = .probe probes ∨ ∃ n m, o = .spy n ∧ s.spies[n]? = some m ∧ m.part.phase = .idle

inductive SpyChange (j : Job) (n : Nat) (m : Mounted (Spy Hearer)) : Mounted (Spy Hearer) → Prop
  | stays {m' : Mounted (Spy Hearer)} (h : Stays m m') (mute : j.receipt (.spy n) = none) :
      SpyChange j n m m'
  | heard {batch : List Entry} (job : j = .errand (.hand (.spy n) batch)) :
      SpyChange j n m { m with part := (m.part.receive? batch).getD m.part }
  | begun {d : Document Receiver} (idle : m.part.phase = .idle) (mute : j.receipt (.spy n) = none) :
      SpyChange j n m { m with part := beginObserving m.part d }

namespace Traffic

variable {probes n k : Nat} {s s' : Stage} {j : Job} {ts ts' : List Errand} {o : Receiver}
  {ids : List String}
    {band : Band}

theorem exists_document {d : Document Receiver} (traffic : Traffic probes s j ts s' ts')
    (found : s.documents[k]? = some d) : ∃ d', s'.documents[k]? = some d' ∧ d'.page = d.page := by
  have replaced {i : Nat} {c c' : Document Receiver} (here : s.documents[i]? = some c)
      (documents : s'.documents = (s.setDocument i c').documents) (page : c'.page = c.page) :
      ∃ d', s'.documents[k]? = some d' ∧ d'.page = d.page := by
    rw [documents, Stage.getElem?_setDocument here]
    split
    · subst k
      obtain rfl := Option.some.inj (found.symm.trans here)
      exact ⟨c', rfl, page⟩
    · exact ⟨d, found, rfl⟩
  cases traffic with
  | kept documents =>
    obtain ⟨d', found', losesWatchesOnly⟩ := documents.old found
    exact ⟨d', found', losesWatchesOnly.page⟩
  | received _ documents | failed _ _ _ documents => exact ⟨d, documents ▸ found, rfl⟩
  | scrolled here shift stage => exact replaced here (congrArg Stage.documents stage) shift.page
  | watched _ here stage => exact replaced here (congrArg Stage.documents stage) rfl
  | observed _ here _ documents => exact replaced here documents rfl

theorem watched_cases (traffic : Traffic probes s j ts s' ts') (watched : s'.Watched o k ids band) :
    s.Watched o k ids band ∨
    (o = .probe probes ∧ k = s.current ∧
      ∃ name label script limit, j = .act (.listen (.watch name ids band) label script limit)) ∨
    ∃ n spy, o = .spy n ∧ s'.spies[n]? = some ⟨k, spy⟩ ∧ spy.observed = ids ∧ spy.band = band ∧
      spy.phase = .observing := by
  have added {i : Nat} {d : Document Receiver} {o' : Receiver} {ids' : List String} {band' : Band}
      (here : s.documents[i]? = some d)
      (documents : s'.documents = (s.setDocument i (d.observe o' ids' band')).documents) :
      s.Watched o k ids band ∨ o = o' ∧ k = i ∧ ids = ids' ∧ band = band' := by
    obtain ⟨d', w, found, member, rfl, rfl, rfl⟩ := watched
    rw [documents, Stage.getElem?_setDocument here] at found
    split at found
    · subst k
      cases found
      obtain member | member := List.mem_append.1 member
      · exact .inl ⟨d, w, here, member, rfl, rfl, rfl⟩
      · obtain rfl := List.mem_singleton.1 member
        exact .inr ⟨rfl, rfl, rfl, rfl⟩
    · exact .inl ⟨d', w, found, member, rfl, rfl, rfl⟩
  cases traffic with
  | kept documents =>
    obtain ⟨d', w, found', member, kind⟩ := watched
    cases found : s.documents[k]? with
    | none =>
      rw [documents.new found found'] at member
      cases member
    | some d =>
      obtain ⟨d'', found'', losesWatchesOnly⟩ := documents.old found
      obtain rfl := Option.some.inj (found'.symm.trans found'')
      exact .inl ⟨d, w, found, losesWatchesOnly.watches.subset member, kind⟩
  | received _ documents | failed _ _ _ documents =>
    rw [Stage.Watched, documents] at watched
    exact .inl watched
  | @scrolled i d change here shift stage =>
    obtain ⟨d', w, found, member, rfl, rfl, rfl⟩ := watched
    rw [stage, Stage.getElem?_setDocument here] at found
    split at found
    · subst k
      cases found
      obtain ⟨w', member', same⟩ := List.mem_map.1 (shift.watches ▸ List.mem_map_of_mem member)
      obtain ⟨-, owner, ids, band, -⟩ := Watch.mk.inj same
      exact .inl ⟨d, w', here, member', owner, ids, band⟩
    · exact .inl ⟨d', w, found, member, rfl, rfl, rfl⟩
  | @watched name label _ _ script limit _ job here stage =>
    obtain old | ⟨rfl, rfl, rfl, rfl⟩ := added here (congrArg Stage.documents stage)
    · exact .inl old
    · exact .inr (.inl ⟨rfl, rfl, name, label, script, limit, job⟩)
  | @observed n m d found here idle documents spies =>
    obtain old | ⟨rfl, rfl, rfl, rfl⟩ := added here documents
    · exact .inl old
    · refine .inr (.inr ⟨n, beginObserving m.part d, rfl, ?_, rfl, rfl, rfl⟩)
      rw [spies, Stage.getElem?_setSpy found, if_pos rfl]

/-- What holds of every document still does, if it stands all that a job can do to a document. -/
theorem forall_documents {P : Document Receiver → Prop} (traffic : Traffic probes s j ts s' ts')
    (old : ∀ d ∈ s.documents, P d) (blank : ∀ d, d.watches = [] → P d)
    (losesWatchesOnly : ∀ d d', P d → d.LosesWatchesOnly d' → P d')
    (shifts : ∀ d change, P d → d.Shifts change → P change.1)
    (observes : ∀ d ∈ s.documents, ∀ o ids band, Newcomer probes s o → P d →
      P (d.observe o ids band)) :
    ∀ d ∈ s'.documents, P d := by
  intro d' member
  obtain ⟨k, found'⟩ := List.getElem?_of_mem member
  have replaced {i : Nat} {c c' : Document Receiver} (here : s.documents[i]? = some c)
      (documents : s'.documents = (s.setDocument i c').documents) (step : P c') : P d' := by
    rw [documents, Stage.getElem?_setDocument here] at found'
    split at found'
    · cases found'
      exact step
    · exact old d' (List.mem_of_getElem? found')
  cases traffic with
  | kept documents =>
    cases found : s.documents[k]? with
    | none => exact blank d' (documents.new found found')
    | some d =>
      obtain ⟨d'', found'', fading⟩ := documents.old found
      obtain rfl := Option.some.inj (found'.symm.trans found'')
      exact losesWatchesOnly d d' (old d (List.mem_of_getElem? found)) fading
  | received _ documents | failed _ _ _ documents => exact old d' (documents ▸ member)
  | scrolled here shift stage =>
    exact replaced here (congrArg Stage.documents stage)
      (shifts _ _ (old _ (List.mem_of_getElem? here)) shift)
  | watched _ here stage =>
    have member := List.mem_of_getElem? here
    exact replaced here (congrArg Stage.documents stage)
      (observes _ member _ _ _ (.inl rfl) (old _ member))
  | observed found here idle documents =>
    have member := List.mem_of_getElem? here
    exact replaced here documents
      (observes _ member _ _ _ (.inr ⟨_, _, rfl, found, idle⟩) (old _ member))

section Told

variable {older : List Stage} {p : Page} {got : List (List Entry)}

theorem told_stay (taken : parcels o ts = (j.receipt o).toList ++ parcels o ts')
    (stay : ∀ y, s'.offset? k o = some y → s.offset? k o = some y)
    (told : (parcels o ts).reverse ++ got = p.told ids band (trail k o (s :: older))) :
    (parcels o ts').reverse ++ ((j.receipt o).toList ++ got) =
      p.told ids band (trail k o (s' :: s :: older)) := by
  rw [told_trail_stay stay, ← told, taken]
  cases j.receipt o <;> simp

theorem told_shift {i : Nat} {d : Document Receiver}
    {change : Document Receiver × List (Delivery Receiver)} (distinct : p.Distinct)
    (page : ∀ d, s.documents[k]? = some d → d.page = p) (oneWatchEach : OneWatchEach d)
    (sole : Sole o k ids band (s :: older)) (found : s.documents[i]? = some d)
    (shift : d.Shifts change) (alone : parcels o ts = [])
    (sent : parcels o ts' = parcels o (handAll change.2))
    (told : (parcels o ts).reverse ++ got = p.told ids band (trail k o (s :: older))) :
    (parcels o ts').reverse ++ got =
      p.told ids band (trail k o (s.setDocument i change.1 :: s :: older)) := by
  have got : got = p.told ids band (trail k o (s :: older)) := by simpa [alone] using told
  -- one who watches the document is sent the changes for its only watch there, and no one else is
  -- sent anything
  by_cases watching : ∃ w ∈ d.watches, w.owner = o
  · obtain ⟨w, member, rfl⟩ := watching
    obtain ⟨rfl, rfl, rfl⟩ := sole s (.head _) i w.ids w.band ⟨d, w, found, member, rfl, rfl, rfl⟩
    obtain rfl := page d found
    have before : s.offset? i w.owner = some d.scrollY := by
      rw [Stage.offset?_of_found found]
      exact offsetFor_eq_some.2 ⟨⟨w, member, rfl⟩, rfl⟩
    have after : (s.setDocument i change.1).offset? i w.owner = some change.1.scrollY := by
      have here : (s.setDocument i change.1).documents[i]? = some change.1 := by
        rw [Stage.getElem?_setDocument found, if_pos rfl]
      rw [Stage.offset?_of_found here, offsetFor_shift shift,
        ← Stage.offset?_of_found found, before, Option.map_some]
    have batch : parcels w.owner ts' =
        [d.page.changes w.ids w.band d.scrollY change.1.scrollY].filter (!·.isEmpty) := by
      rw [sent, shift.batches distinct (oneWatchEach.current distinct), parcels_deltas,
        filter_owner oneWatchEach.owners member]
      rfl
    rw [batch, Page.reverse_sent, got, trail_cons_some after, trail_cons_some before,
      d.page.told_cons]
  · have absent (w) (member : w ∈ d.watches) : w.owner ≠ o := fun same ↦ watching ⟨w, member, same⟩
    have stay (y) (seen : (s.setDocument i change.1).offset? k o = some y) :
        s.offset? k o = some y := by
      by_cases here : k = i
      · subst k
        have unseen : offsetFor o d = none := by
          simpa [offsetFor] using absent
        rw [Stage.offset?, Stage.getElem?_setDocument found, if_pos rfl, Option.bind_some,
          offsetFor_shift shift, unseen] at seen
        cases seen
      · rwa [Stage.offset?, Stage.getElem?_setDocument found, if_neg here] at seen
    rw [sent, parcels_shift shift absent, told_trail_stay stay, got]
    rfl

theorem told_begin {i : Nat} {d : Document Receiver} {o' : Receiver} {ids' : List String}
    {band' : Band} (page : ∀ d, s.documents[k]? = some d → d.page = p)
    (unmet : ∀ S ∈ s :: older, ∀ k ids band, ¬ S.Watched o' k ids band)
    (sole : Sole o k ids band (s' :: s :: older))
    (found : s.documents[i]? = some d) (documents : s'.documents =
      (s.setDocument i (d.observe o' ids' band')).documents)
    (sent : parcels o ts' = parcels o (handFirst o' (d.firstBatch ids' band')) ++ parcels o ts)
    (told : (parcels o ts).reverse ++ got = p.told ids band (trail k o (s :: older))) :
    (parcels o ts').reverse ++ got = p.told ids band (trail k o (s' :: s :: older)) := by
  -- whoever is new has no trail yet, so that the trail begins with the offset of the first batch
  by_cases same : o' = o
  · subst o'
    have here : s'.documents[i]? = some (d.observe o ids' band') := by
      rw [documents, Stage.getElem?_setDocument found, if_pos rfl]
    obtain ⟨rfl, rfl, rfl⟩ := sole s' (.head _) i ids' band'
      ⟨_, _, here, List.mem_append_right _ (.head _), rfl, rfl, rfl⟩
    obtain rfl := page d found
    have before : trail i o (s :: older) = [] := trail_of_unmet unmet
    have after : s'.offset? i o = some d.scrollY := by
      rw [Stage.offset?_of_found here]
      exact offsetFor_eq_some.2 ⟨⟨_, List.mem_append_right _ (.head _), rfl⟩, rfl⟩
    obtain ⟨idle, rfl⟩ : parcels o ts = [] ∧ got = [] := by simpa [before] using told
    rw [trail_cons_some after, before, d.page.told_one, sent, idle, parcels_handFirst, if_pos rfl,
      List.append_nil, List.append_nil, Page.reverse_sent, Document.firstBatch]
  · have stay (y) (seen : s'.offset? k o = some y) : s.offset? k o = some y := by
      rw [Stage.offset?, documents, Stage.getElem?_setDocument found] at seen
      split at seen
      · subst k
        rw [Stage.offset?_of_found found]
        simpa [offsetFor, Document.observe, same] using seen
      · exact seen
    rw [sent, parcels_handFirst, if_neg same, List.nil_append, told, told_trail_stay stay]

theorem told (traffic : Traffic probes s j ts s' ts') (distinct : p.Distinct)
    (page : ∀ d, s.documents[k]? = some d → d.page = p)
    (oneWatchEach : ∀ d ∈ s.documents, OneWatchEach d)
    (unmet : ∀ o, Newcomer probes s o → ∀ S ∈ s :: older, ∀ k ids band, ¬ S.Watched o k ids band)
    (sole : Sole o k ids band (s' :: s :: older))
    (told : (parcels o ts).reverse ++ got = p.told ids band (trail k o (s :: older))) :
    (parcels o ts').reverse ++ ((j.receipt o).toList ++ got) =
      p.told ids band (trail k o (s' :: s :: older)) := by
  cases traffic with
  | kept documents _ taken =>
    refine told_stay (taken o) (fun y seen ↦ ?_) told
    obtain ⟨d', found', seen⟩ := Option.bind_eq_some_iff.1 seen
    obtain ⟨⟨w, member, owner⟩, rfl⟩ := offsetFor_eq_some.1 seen
    cases found : s.documents[k]? with
    | none =>
      rw [documents.new found found'] at member
      cases member
    | some d =>
      obtain ⟨d'', found'', losesWatchesOnly⟩ := documents.old found
      obtain rfl := Option.some.inj (found'.symm.trans found'')
      rw [Stage.offset?_of_found found]
      exact offsetFor_eq_some.2 ⟨⟨w, losesWatchesOnly.watches.subset member, owner⟩,
        losesWatchesOnly.offset.symm⟩
  | received _ documents _ taken =>
    refine told_stay (taken o) (fun y seen ↦ ?_) told
    rwa [Stage.offset?, documents] at seen
  | failed _ _ _ documents _ still unread =>
    refine told_stay ?_ (fun y seen ↦ ?_) told
    · rw [unread, still, Option.toList_none, List.nil_append]
    · rwa [Stage.offset?, documents] at seen
  | scrolled found shift stage alone sent unread =>
    subst stage
    rw [unread, Option.toList_none, List.nil_append]
    exact told_shift distinct page (oneWatchEach _ (List.mem_of_getElem? found))
      (fun s h ↦ sole s (.tail _ h)) found shift
      (alone o) (sent o) told
  | watched job found stage sent =>
    have unread : j.receipt o = none := by
      rw [job]
      rfl
    rw [unread, Option.toList_none, List.nil_append]
    exact told_begin page (unmet _ (.inl rfl)) sole found (congrArg Stage.documents stage)
      (sent o) told
  | observed found document idle documents _ sent unread =>
    rw [unread, Option.toList_none, List.nil_append]
    exact told_begin page (unmet _ (.inr ⟨_, _, rfl, found, idle⟩)) sole document documents
      (sent o) told

end Told

theorem spy_old {m : Mounted (Spy Hearer)} (traffic : Traffic probes s j ts s' ts')
    (found : s.spies[n]? = some m) : ∃ m', s'.spies[n]? = some m' ∧ SpyChange j n m m' := by
  have began {i : Nat} {c : Mounted (Spy Hearer)} {d : Document Receiver}
      (here : s.spies[i]? = some c)
      (idle : c.part.phase = .idle)
        (spies : s'.spies = (s.setSpy i (beginObserving c.part d)).spies)
      (unread : ∀ o, j.receipt o = none) : ∃ m', s'.spies[n]? = some m' ∧ SpyChange j n m m' := by
    rw [spies, Stage.getElem?_setSpy here]
    split
    · subst n
      obtain rfl := Option.some.inj (found.symm.trans here)
      exact ⟨_, rfl, .begun idle (unread _)⟩
    · exact ⟨m, found, .stays (.refl m) (unread _)⟩
  cases traffic with
  | kept _ spies _ mute =>
    obtain ⟨m', found', stays⟩ := spies.old found
    exact ⟨m', found', .stays stays (mute n)⟩
  | @received i batch job _ spies =>
    rw [spies, List.getElem?_modify, found]
    by_cases same : i = n
    · subst i
      exact ⟨_, by simp, .heard job⟩
    · exact ⟨m, by simp [same], .stays (.refl m) (by simp [job, Job.receipt, same])⟩
  | scrolled _ _ stage _ _ unread => exact ⟨m, stage ▸ found, .stays (.refl m) (unread _)⟩
  | watched job _ stage => exact ⟨m, stage ▸ found, .stays (.refl m) (job ▸ rfl)⟩
  | observed here _ idle _ spies _ unread | failed _ here idle _ spies _ unread =>
    exact began here idle spies unread

theorem spy_new {m : Mounted (Spy Hearer)} (traffic : Traffic probes s j ts s' ts')
    (absent : s.spies[n]? = none) (found : s'.spies[n]? = some m) : IsNew m := by
  cases traffic with
  | kept _ spies => exact spies.new absent found
  | received _ _ spies | observed _ _ _ _ spies | failed _ _ _ _ spies =>
    rw [spies] at found
    simp [Stage.setSpy, List.getElem?_modify, absent] at found
  | scrolled _ _ stage | watched _ _ stage =>
    rw [stage] at found
    cases absent.symm.trans found

theorem spy_busy {spy : Spy Hearer} (traffic : Traffic probes s j ts s' ts')
    (found : s.spies[n]? = some ⟨k, spy⟩)
    (busy : spy.phase ≠ .idle) :
    ∃ spy', s'.spies[n]? = some ⟨k, spy'⟩ ∧ spy'.observed = spy.observed ∧
      spy'.band = spy.band ∧ spy'.phase ≠ .idle := by
  obtain ⟨⟨k', spy'⟩, found', change⟩ := traffic.spy_old found
  cases change with
  | stays h =>
    obtain rfl : k' = k := h.document
    refine ⟨spy', found', h.observed, h.band, ?_⟩
    obtain same | disposed := h.phase
    · exact same ▸ busy
    · intro idle
      cases disposed.symm.trans idle
  | @heard batch job =>
    refine ⟨_, found', ?_⟩
    cases moved : spy.receive? batch with
    | none => exact ⟨rfl, rfl, busy⟩
    | some spy' =>
      obtain ⟨-, id, -, -, rfl⟩ := Spy.receive?_eq_some moved
      exact ⟨rfl, rfl, busy⟩
  | begun idle => exact absurd idle busy

end Traffic

def Move.setsUp (e : Move) (name : String) (probe k : Nat) (ids : List String) (band : Band) :
    Bool :=
  match e.job with
  | .act (.listen (.watch name' ids' band') _ _ _) =>
    name' = name && ids' = ids && band' = band && e.machine.probes.length =
      probe && e.machine.stage.current = k
  | _ => false

theorem Move.setsUp_iff {e : Move} {name : String} {probe k : Nat} {ids : List String}
    {band : Band} :
    e.setsUp name probe k ids band ↔ e.machine.probes.length = probe ∧ e.machine.stage.current = k ∧
      ∃ label script limit, e.job = .act (.listen (.watch name ids band) label script limit) := by
  obtain ⟨m, agenda, job⟩ := e
  unfold setsUp
  split
  · rename_i same
    cases same
    simp only [Bool.and_eq_true, decide_eq_true_eq, Job.act.injEq, Step.listen.injEq,
      Spot.watch.injEq]
    grind
  · rename_i other
    simp only [Bool.false_eq_true, false_iff, not_and, not_exists]
    exact fun _ _ label script limit same ↦ other _ _ _ _ _ _ same

/-- All that has been set up is accounted for, and all there was to tell has been sent. -/
structure Told (past : List Move) (m : Machine) (ts : List Errand) : Prop where
  oneWatchEach : ∀ d ∈ m.stage.documents, OneWatchEach d
  pages : ∀ s ∈ stages m past, ∀ {k : Nat} {d : Document Receiver}, s.documents[k]? = some d →
    ∃ d', m.stage.documents[k]? = some d' ∧ d'.page = d.page
  probes : ∀ s ∈ stages m past, ∀ {probe k : Nat} {ids : List String} {band : Band},
    s.Watched (.probe probe) k ids band →
    ∃ e ∈ past, ∃ name, e.setsUp name probe k ids band
  spies : ∀ s ∈ stages m past, ∀ {n k : Nat} {ids : List String} {band : Band},
    s.Watched (.spy n) k ids band →
    ∃ spy, m.stage.spies[n]? = some ⟨k, spy⟩ ∧ spy.observed = ids ∧ spy.band = band ∧
      spy.phase ≠ .idle
  told : ∀ {o : Receiver} {k : Nat} {ids : List String} {band : Band} {p : Page}, p.Distinct →
    (∀ d, m.stage.documents[k]? = some d → d.page = p) → Sole o k ids band (stages m past) →
    (parcels o ts).reverse ++ received o past = p.told ids band (trail k o (stages m past))

section Runs

variable {may : Stage → Step → Prop} {past : List Move} {m m' : Machine}
  {jobs jobs' : List Job} {j : Job} {ts ts' : List Errand} {o : Receiver} {k n : Nat}
    {ids : List String} {band : Band}

theorem History.length_probes (run : History may past m jobs) :
    ∀ e ∈ past, ∀ spot label script limit,
    e.job = .act (.listen spot label script limit) → e.machine.probes.length < m.probes.length := by
  induction run with
  | opened page => simp
  | @turn past m m' jobs jobs' j run turn ih =>
    intro e member spot label script limit job
    obtain rfl | member := List.mem_cons.1 member
    · subst job
      cases turn with
      | step => simp [Machine.take, Machine.newProbe]
      | act => simp [Machine.advance, Machine.take, Machine.newProbe]
    · exact Nat.lt_of_lt_of_le (ih e member spot label script limit job) turn.length_probes

theorem Told.newcomer (h : Told past m ts) (run : History may past m jobs)
    (new : Newcomer m.probes.length m.stage o) :
    ∀ s ∈ stages m past, ∀ k ids band, ¬ s.Watched o k ids band := by
  intro s member k ids band watched
  obtain rfl | ⟨n, spy, rfl, found, idle⟩ := new
  · obtain ⟨e, he, name, setUp⟩ := h.probes s member watched
    obtain ⟨same, -, label, script, limit, job⟩ := Move.setsUp_iff.1 setUp
    exact Nat.ne_of_lt (run.length_probes e he _ _ _ _ job) same
  · obtain ⟨spy', found', -, -, busy⟩ := h.spies s member watched
    obtain rfl := Option.some.inj (found.symm.trans found')
    exact busy idle

theorem told_opened (page : Blueprint) : Told [] (.opened page) [] := by
  have blank (d) (member : d ∈ (Machine.opened page).stage.documents) : d.watches = [] := by
    obtain rfl := List.mem_singleton.1 member
    exact page.watches_build
  have unmet {o : Receiver} (s) (member : s ∈ stages (.opened page) []) (k ids band) :
    ¬ s.Watched o k ids band := by
    obtain rfl := List.mem_singleton.1 member
    rintro ⟨d, w, found, watch, -⟩
    rw [blank d (List.mem_of_getElem? found)] at watch
    cases watch
  exact {
    oneWatchEach := fun d member ↦ .of_unwatched (blank d member)
    pages := fun s member _ d found ↦ ⟨d, List.mem_singleton.1 member ▸ found, rfl⟩
    probes := fun s member _ _ _ _ watched ↦ absurd watched (unmet s member _ _ _)
    spies := fun s member _ _ _ _ watched ↦ absurd watched (unmet s member _ _ _)
    told := fun _ _ _ ↦ by
      rw [trail_of_unmet unmet]
      rfl }

theorem Told.turn (h : Told past m ts) (run : History may past m jobs)
    (traffic : Traffic m.probes.length m.stage j ts m'.stage ts') :
    Told (⟨m, jobs, j⟩ :: past) m' ts' := by
  have unmet (o) (new : Newcomer m.probes.length m.stage o) := h.newcomer run new
  exact {
    oneWatchEach := by
      refine traffic.forall_documents h.oneWatchEach (fun d ↦ .of_unwatched)
        (fun d d' ↦ .losesWatchesOnly)
        (fun d change ↦ .shift) ?_
      intro d member o ids band new old
      obtain ⟨k, found⟩ := List.getElem?_of_mem member
      exact old.observe (fun w watch owner ↦
        unmet o new m.stage (.head _) k _ _ ⟨d, w, found, watch, owner, rfl, rfl⟩) ids band
    pages := by
      intro s member k d found
      obtain rfl | member := List.mem_cons.1 member
      · exact ⟨d, found, rfl⟩
      · obtain ⟨d', found', same⟩ := h.pages s member found
        obtain ⟨d'', found'', same'⟩ := traffic.exists_document found'
        exact ⟨d'', found'', same'.trans same⟩
    probes := by
      intro s member probe k ids band watched
      obtain rfl | member := List.mem_cons.1 member
      · obtain old | ⟨⟨rfl⟩, rfl, name, setUp⟩ | ⟨n, spy, other, -⟩ := traffic.watched_cases watched
        · obtain ⟨e, he, setUp⟩ := h.probes m.stage (.head _) old
          exact ⟨e, .tail _ he, setUp⟩
        · exact ⟨_, .head _, name, Move.setsUp_iff.2 ⟨rfl, rfl, setUp⟩⟩
        · cases other
      · obtain ⟨e, he, setUp⟩ := h.probes s member watched
        exact ⟨e, .tail _ he, setUp⟩
    spies := by
      intro s member n k ids band watched
      have kept {s : Stage} (member : s ∈ stages m past) (watched : s.Watched (.spy n) k ids band) :
          ∃ spy, m'.stage.spies[n]? = some ⟨k, spy⟩ ∧ spy.observed = ids ∧ spy.band = band ∧
            spy.phase ≠ .idle := by
        obtain ⟨spy, found, rfl, rfl, busy⟩ := h.spies s member watched
        exact traffic.spy_busy found busy
      obtain rfl | member := List.mem_cons.1 member
      · obtain old | ⟨other, -⟩ | ⟨_, spy, ⟨rfl⟩, found, observed, band, observing⟩ :=
          traffic.watched_cases watched
        · exact kept (.head _) old
        · cases other
        · exact ⟨spy, found, observed, band, by simp [observing]⟩
      · exact kept member watched
    told := by
      intro o k ids band p distinct page sole
      -- pages never change, so what was told before the turn was told of the same page
      have page' (d) (found : m.stage.documents[k]? = some d) : d.page = p := by
        obtain ⟨d', found', same⟩ := traffic.exists_document found
        exact same.symm.trans (page d' found')
      rw [received_cons]
      exact traffic.told distinct page' h.oneWatchEach unmet sole
        (h.told distinct page' fun s member ↦ sole s (.tail _ member)) }

/-- While no listener takes a step, and no batch is made up, everyone is told what there is to
tell. -/
theorem History.told (run : History may past m jobs)
    (genuine : ∀ s step, may s step → step.isGenuine) (quiet : ∀ e ∈ past, e.atRest) :
    Told past m (errandsOf jobs) ∧ FramesLast (errandsOf jobs) := by
  induction run with
  | opened page => exact ⟨told_opened page, trivial⟩
  | @turn past m m' jobs jobs' j run turn ih =>
    obtain ⟨first, quiet⟩ := List.forall_mem_cons.1 quiet
    obtain ⟨told, framesLast⟩ := ih quiet
    obtain ⟨traffic, framesLast⟩ := turn.traffic genuine first framesLast
    exact ⟨told.turn run traffic, framesLast⟩

end Runs

end Wayfinder.Session
