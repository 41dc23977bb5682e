import Wayfinder.Proofs.Observations

namespace Wayfinder

namespace Spy

variable {σ : Type} {s : Spy σ} {p : Page} {band : Band} {y y' : Length} {trail : List Length}

theorem active_receive (observing : s.phase = .observing) (batch : List Entry) :
    ((s.receive? batch).getD s).active = (s.winner? batch).getD s.active := by
  rw [receive?, if_pos observing]
  cases s.winner? batch with
  | none => rfl
  | some id => by_cases same : id = s.active <;> simp [same]

def follow (s : Spy σ) (batches : List (List Entry)) : String :=
  batches.foldr (fun batch id ↦ (s.winner? batch).getD id) s.registry.first.id

theorem exists_active (s : Spy σ) (batch : List Entry) :
    ∃ id, (s.receive? batch).getD s = { s with active := id } := by
  cases moved : s.receive? batch with
  | none => exact ⟨s.active, rfl⟩
  | some s' =>
    obtain ⟨-, id, -, -, rfl⟩ := receive?_eq_some moved
    exact ⟨id, rfl⟩

theorem follow_congr {s' : Spy σ} {batches : List (List Entry)}
    (registry : s'.registry = s.registry) (observed : s'.observed = s.observed) :
    s'.follow batches = s.follow batches := by
  simp only [follow, winner?, registry, observed]

theorem winner?_anchors (as : List Anchor) (test : Anchor → Bool)
    (observed : ∀ a ∈ as, a.id ∈ s.observed) :
    s.winner? (as.map fun a ↦ ⟨a.id, test a⟩) = (as.filter test).getLast?.map Anchor.id := by
  rw [winner?, ← List.head?_filter, List.filter_reverse, List.head?_reverse, List.filter_map,
    List.getLast?_map, Option.map_map]
  have same : as.filter (fun a ↦ test a && s.observed.contains a.id) = as.filter test :=
    List.filter_congr fun a member ↦ by simp [observed a member]
  rw [← same]
  rfl

theorem winner?_entries :
    s.winner? (p.entries s.observed band y) =
      ((p.anchorsOf s.observed).filter (p.enters band · [y])).getLast?.map Anchor.id :=
  winner?_anchors _ _ fun _ member ↦ (p.mem_anchorsOf.1 member).2

theorem winner?_changes :
    s.winner? (p.changes s.observed band y y') =
      ((p.anchorsOf s.observed).filter (p.enters band · (y' :: y :: trail))).getLast?.map
        Anchor.id := by
  rw [Page.changes,
    winner?_anchors _ _ fun _ member ↦ (p.mem_anchorsOf.1 (List.mem_filter.1 member).1).2,
      List.filter_filter]
  congr 2
  refine List.filter_congr fun a _ ↦ ?_
  cases before : p.touches band y a <;> cases after : p.touches band y' a <;>
    simp [Page.enters, before, after]

/-- Along a trail, a spy that hears all there is to tell ends up on the section that came into the
band last. -/
theorem follow_told : s.follow (p.told s.observed band trail) =
    ((p.lastIn s.observed band trail).map Anchor.id).getD s.registry.first.id := by
  have next (batch : List Entry) (batches : List (List Entry)) :
      s.follow ([batch].filter (!·.isEmpty) ++ batches) =
        (s.winner? batch).getD (s.follow batches) := by
    cases batch <;> rfl
  have latest (a b : Option Anchor) (first : String) :
      ((a.or b).map Anchor.id).getD first =
        (a.map Anchor.id).getD ((b.map Anchor.id).getD first) := by
    cases a <;> rfl
  induction trail with
  | nil => rfl
  | cons y' trail ih =>
    rw [Page.lastIn, latest, ← ih]
    cases trail with
    | nil => rw [p.told_one, ← List.append_nil (List.filter _ _), next, winner?_entries, p.told_nil]
    | cons y trail => rw [p.told_cons, next, winner?_changes]

end Spy

namespace Session

/-- The step neither makes up a batch nor decides whether documents can be watched. -/
def Step.isReliable : Step → Bool
  | .page (.emit _) | .page (.failObserve _) => false
  | _ => true

theorem Step.isGenuine_of_isReliable {step : Step} (h : step.isReliable) : step.isGenuine := by
  unfold isGenuine
  split
  · exact h
  · rfl

/-- A spy is made or told to observe, or the page is scrolled. -/
def Step.observesOrScrolls : Step → Bool
  | .spy _ (.create _ _) | .spy _ .observe => true
  | .page (.userScroll _) | .page (.scrollTo _ _) | .page .frame | .page .settle => true
  | _ => false

theorem Step.isReliable_of_observesOrScrolls {step : Step} (h : step.observesOrScrolls) :
    step.isReliable := by
  unfold isReliable
  split
  · exact h
  · exact h
  · rfl

section Edits

variable {s s' : Stage} {ts ts' : List Errand} {n : Nat}

/-- Documents can be watched, and a spy that observes one has a watch or is about to be given
one. -/
structure ObserversWatching (s : Stage) (ts : List Errand) : Prop where
  able : s.faults.observe = false
  given : ∀ {n : Nat} {w : Option Nat}, .keepWatch n w ∈ ts → w.isSome
  live : ∀ {n : Nat} {p : Post}, s.post? n = some p → p.phase = .observing →
    p.watch.isSome ∨ ∃ w, .keepWatch n w ∈ ts

namespace ObserversWatching

theorem frame (h : ObserversWatching s ts) (faults : s'.faults = s.faults)
    (posts : ∀ n, s'.post? n = s.post? n)
    (pending : ∀ n w, .keepWatch n w ∈ ts' ↔ .keepWatch n w ∈ ts) : ObserversWatching s' ts' where
  able := by rw [faults, h.able]
  given member := h.given ((pending _ _).1 member)
  live post observing := by
    simp only [pending]
    exact h.live (posts _ ▸ post) observing

theorem setSpy {m : Mounted (Spy Hearer)} {spy : Spy Hearer} (h : ObserversWatching s ts)
    (found : s.spies[n]? = some m)
    (live : spy.phase = .observing → spy.watch.isSome ∨ ∃ w, .keepWatch n w ∈ ts) :
    ObserversWatching (s.setSpy n spy) ts where
  able := h.able
  given := h.given
  live {i p} post observing := by
    rw [Stage.post?_setSpy found] at post
    split at post
    · subst i
      cases post
      exact live observing
    · exact h.live post observing

theorem disconnect (h : ObserversWatching s ts) (link : Option Link) :
    ObserversWatching (s.disconnect link) ts := by
  refine h.frame ?_ (fun n ↦ ?_) fun _ _ ↦ .rfl
  · cases link <;> rfl
  · rw [Stage.post?, Stage.spies_disconnect, Stage.post?]

theorem disposeSpy (h : ObserversWatching s ts) (n : Nat) :
    ObserversWatching (s.disposeSpy n) ts := by
  cases found : s.spies[n]? with
  | none =>
    rw [Stage.disposeSpy, found]
    exact h
  | some m =>
    rw [Stage.disposeSpy_eq found]
    exact (h.setSpy found (by simp [Spy.dispose])).disconnect _

theorem addSpy {m : Mounted (Spy Hearer)} (h : ObserversWatching s ts)
    (idle : m.part.phase = .idle) :
    ObserversWatching { s with spies := s.spies ++ [m] } ts where
  able := h.able
  given := h.given
  live {i p} post observing := by
    rw [Stage.post?_addSpy] at post
    split at post
    · cases post
      cases idle.symm.trans observing
    · exact h.live post observing

theorem reclaimOld (h : ObserversWatching s ts) (o : Option Object) :
    ObserversWatching (s.reclaimOld o) ts :=
  Stage.reclaimOld_ind (P := fun s' ↦ ObserversWatching s' ts) h (fun h ↦ ⟨h.able, h.given, h.live⟩)
    (fun h ↦ ⟨h.able, h.given, h.live⟩) fun _ k _ _ _ ↦ h.disposeSpy k

theorem keepWatch {w : Option Nat} (h : ObserversWatching s (.keepWatch n w :: ts)) :
    ObserversWatching (s.keepWatch n w) ts := by
  have given {n : Nat} {w : Option Nat} (member : .keepWatch n w ∈ ts) : w.isSome :=
    h.given (.tail _ member)
  unfold Stage.keepWatch
  split
  · rename_i absent
    refine ⟨h.able, given, fun {i p} post observing ↦ (h.live post observing).imp_right ?_⟩
    rintro ⟨w', member⟩
    obtain ⟨⟨rfl, rfl⟩⟩ | member := List.mem_cons.1 member
    · rw [Stage.post?, absent] at post
      cases post
    · exact ⟨w', member⟩
  · rename_i m found
    refine ⟨h.able, given, fun {i p} post observing ↦ ?_⟩
    rw [Stage.post?_setSpy found] at post
    split at post
    · cases post
      exact .inl (h.given (.head _))
    · rename_i other
      refine (h.live post observing).imp_right ?_
      rintro ⟨w', member⟩
      obtain ⟨⟨rfl, rfl⟩⟩ | member := List.mem_cons.1 member
      · exact absurd rfl other
      · exact ⟨w', member⟩

theorem edit {may : Stage → Step → Prop} (h : ObserversWatching s ts)
    (e : Edit (Allows may) s ts s' ts') (reliable : ∀ s step, may s step → step.isReliable) :
    ObserversWatching s' ts' := by
  have still {s' : Stage} {ts' : List Errand} (faults : s'.faults = s.faults)
      (spies : s'.spies = s.spies)
      (pending : ∀ n w, .keepWatch n w ∈ ts' ↔ .keepWatch n w ∈ ts) : ObserversWatching s' ts' :=
    h.frame faults (fun n ↦ by rw [Stage.post?, spies, Stage.post?]) pending
  cases e with
  | @skip t _ idle => exact still rfl rfl (by cases t <;> simp_all [Errand.isIdle])
  | @push t _ free => exact still rfl rfl (by cases t <;> simp_all [Errand.isFree])
  | amend | openPage | createStore | subscribeStore | dropStore | createScroller | listenMenu =>
    exact still rfl rfl fun _ _ ↦ .rfl
  | animate | handOn | passOn | deaf | unseen | hold | tellMenu | redraw =>
    exact still rfl rfl (by simp)
  | inform | emit => exact still rfl rfl (by simp [handAll])
  | adopt => exact still rfl rfl (by simp [tellAll])
  | setOpen => exact still rfl rfl (by intros; split <;> simp)
  | watch => exact still rfl rfl (by intros; unfold handFirst; split <;> simp)
  | faults faults allowed =>
    have same : faults.observe = s.faults.observe := by
      obtain same | ⟨fails, allowed⟩ := allowed
      · exact same
      · exact absurd (reliable _ _ allowed) Bool.false_ne_true
    exact ⟨same.trans h.able, h.given, h.live⟩
  | keepHandle | freeHandle | dropHandle =>
    refine ObserversWatching.disconnect ?_ _
    exact still rfl rfl (by simp)
  | unsubscribeStore =>
    unfold Stage.unsubscribeStore
    split <;> exact still rfl rfl fun _ _ ↦ .rfl
  | createSpy | createMenu =>
    refine ObserversWatching.reclaimOld ?_ _
    exact (h.addSpy rfl).frame rfl (fun _ ↦ rfl) fun _ _ ↦ .rfl
  | @observe _ n m d found =>
    have waiting :
        ObserversWatching s (handFirst (.spy n) (d.firstBatch (m.part.present d) m.part.band) ++
        .keepWatch n (some d.nextToken) :: ts) := by
      have pending (i w) :
          .keepWatch i w ∈ handFirst (.spy n) (d.firstBatch (m.part.present d) m.part.band) ++
          .keepWatch n (some d.nextToken) :: ts ↔ i = n ∧ w = some d.nextToken ∨
          .keepWatch i w ∈ ts := by
        unfold handFirst
        split <;> simp
      refine ⟨h.able, fun member ↦ ?_, fun post observing ↦ (h.live post observing).imp_right ?_⟩
      · obtain ⟨-, rfl⟩ | member := (pending _ _).1 member
        · rfl
        · exact h.given member
      · rintro ⟨w, member⟩
        exact ⟨w, (pending _ _).2 (.inr member)⟩
    exact (waiting.setSpy found fun _ ↦ .inr ⟨_, List.mem_append_right _ (.head _)⟩).frame rfl
      (fun _ ↦ rfl) fun _ _ ↦ .rfl
  | observeNothing _ _ _ fails => exact absurd fails (by simp [h.able])
  | keepWatch => exact h.keepWatch
  | disposeSpy => exact h.disposeSpy _
  | subscribeSpy found | unsubscribeSpy found =>
    exact h.setSpy found (h.live (Stage.post?_of_found found))
  | @receive _ n m _ _ found moved =>
    obtain ⟨-, id, -, -, rfl⟩ := Spy.receive?_eq_some moved
    have told : ObserversWatching s (tellAll m.part.listeners.toList (.active id) ++ ts) :=
      still rfl rfl (by simp [tellAll])
    exact told.setSpy found (told.live (Stage.post?_of_found found))
  | createBare | shareMenu =>
    refine ObserversWatching.reclaimOld ?_ _
    exact still rfl rfl fun _ _ ↦ .rfl
  | dropSpy | dropMenu | letGo =>
    refine ObserversWatching.reclaimOld ?_ (some _)
    exact still rfl rfl (by simp)
  | disposeMenu =>
    exact Stage.releaseMenu_ind (P := fun s' ↦ ObserversWatching s' ts) h
      (fun h ↦ ⟨h.able, h.given, h.live⟩)
      (fun h ↦ ⟨h.able, h.given, h.live⟩) fun k _ ↦ h.disposeSpy k

end ObserversWatching

end Edits

section Runs

variable {may : Stage → Step → Prop} {past : List Move} {m : Machine} {jobs : List Job}
  {ts : List Errand}
    {o : Receiver} {n k : Nat} {spy : Spy Hearer}

theorem Told.received_of_newcomer (h : Told past m ts) (run : History may past m jobs)
    (new : Newcomer m.probes.length m.stage o) : received o past = [] := by
  have unmet := h.newcomer run new
  have blank : Page.Distinct { viewport := 0 } := List.nodup_nil
  have absent (d) (found : m.stage.documents[m.stage.documents.length]? = some d) :
    d.page = { viewport := 0 } := by
    simp at found
  have sole : Sole o m.stage.documents.length [] ⟨0, 0⟩ (stages m past) :=
    fun s member k ids band watched ↦ absurd watched (unmet s member k ids band)
  have told := h.told blank absent sole
  rw [trail_of_unmet unmet] at told
  exact (List.append_eq_nil_iff.1 told).2

/-- While no listener takes a step, a spy is where the batches that it got have led it, until it is
disposed. -/
theorem History.follows (run : History may past m jobs)
    (genuine : ∀ s step, may s step → step.isGenuine) (quiet : ∀ e ∈ past, e.atRest)
    (found : m.stage.spies[n]? = some ⟨k, spy⟩) (alive : spy.phase ≠ .disposed) :
    spy.active = spy.follow (received (.spy n) past) := by
  induction run generalizing k spy with
  | opened page => cases found
  | @turn past m m' jobs jobs' j run turn ih =>
    have told' := ((run.turn turn).told genuine quiet).1
    obtain ⟨first, calm⟩ := List.forall_mem_cons.1 quiet
    obtain ⟨told, framesLast⟩ := run.told genuine calm
    obtain ⟨traffic, -⟩ := turn.traffic genuine first framesLast
    -- only those who have had a watch get batches, and an idle spy has had none
    have unheard (idle : spy.phase = .idle) : received (.spy n) (⟨m, jobs, j⟩ :: past) = [] :=
      told'.received_of_newcomer (run.turn turn) (.inr ⟨n, _, rfl, found, idle⟩)
    cases before : m.stage.spies[n]? with
    | none =>
      obtain ⟨unseen, new⟩ := traffic.spy_new before found
      have idle : spy.phase = .idle := by cases phase : spy.phase <;> simp_all
      rw [unheard idle]
      exact new
    | some old =>
      obtain ⟨k₀, old⟩ := old
      obtain ⟨m', found', change⟩ := traffic.spy_old before
      obtain rfl := Option.some.inj (found.symm.trans found')
      rw [received_cons] at unheard ⊢
      cases change with
      | stays h mute =>
        have alive : old.phase ≠ .disposed := by
          obtain same | disposed := h.phase
          · exact fun gone ↦ alive (same.trans gone)
          · exact absurd disposed alive
        have same : spy.follow (received (.spy n) past) = old.follow (received (.spy n) past) :=
          Spy.follow_congr h.registry h.observed
        rw [mute, Option.toList_none, List.nil_append, same, ← ih calm before alive]
        exact h.active
      | @heard batch job =>
        have heard : j.receipt (.spy n) = some batch := by simp [job, Job.receipt]
        obtain ⟨id, same⟩ := old.exists_active batch
        have observing : old.phase = .observing := by
          rw [same] at unheard alive
          cases phase : old.phase with
          | observing => rfl
          | idle => simp [heard, phase] at unheard
          | disposed => exact absurd phase alive
        have follows :
            Spy.follow ((old.receive? batch).getD old) (batch :: received (.spy n) past) =
            (old.winner? batch).getD (old.follow (received (.spy n) past)) := by
          rw [same]
          rfl
        rw [heard, Option.toList_some, List.singleton_append, follows, Spy.active_receive observing,
          ih calm before (by simp [observing])]
      | begun idle mute =>
        have fresh : received (.spy n) past = [] :=
          told.received_of_newcomer run (.inr ⟨n, _, rfl, before, idle⟩)
        have undisposed : old.phase ≠ .disposed := by
          intro disposed
          cases idle.symm.trans disposed
        have start := ih calm before undisposed
        rw [fresh] at start
        rw [mute, fresh]
        exact start

theorem History.observersWatching (run : History may past m jobs)
    (reliable : ∀ s step, may s step → step.isReliable) :
    ObserversWatching m.stage (errandsOf jobs) :=
  run.keeps (I := ObserversWatching) (fun _ ↦ ⟨rfl, nofun, nofun⟩) fun e h ↦ h.edit e reliable

theorem History.watched (run : History may past m [])
    (reliable : ∀ s step, may s step → step.isReliable) (found : m.stage.spies[n]? = some ⟨k, spy⟩)
    (observing : spy.isObserving) :
    ∃ ids band, m.stage.Watched (.spy n) k ids band := by
  have post : m.stage.post? n = some ⟨k, spy.phase, spy.watch⟩ := Stage.post?_of_found found
  obtain watch | ⟨w, pending⟩ :=
    (run.observersWatching reliable).live post (of_decide_eq_true observing)
  · obtain ⟨token, watch⟩ := Option.isSome_iff_exists.1 watch
    have registered : m.stage.Registered k token n :=
      run.kept.exact.2 ((Stage.holds_of_found found).2 ⟨rfl, .inl watch⟩)
    exact Stage.stands_iff.1 ⟨token, registered⟩
  · cases pending

end Runs

/-- A spy that observes is on the section that came into its band last, or on the first of all if
none has; of several that came at the same time it is on the lowest. If any section is in the band
now, there is one that came in last, and it is in the band itself just if it has not left since. -/
theorem active_eq_lastIn {past : List Move} {m : Machine} {n k : Nat} {spy : Spy Hearer}
    (run : History (fun _ step ↦ step.isReliable) past m []) (quiet : ∀ e ∈ past, e.atRest)
    (found : m.stage.spies[n]? = some ⟨k, spy⟩) (observing : spy.isObserving) :
    ∃ d, m.stage.documents[k]? = some d ∧ (d.page.Distinct →
      spy.active = ((d.page.lastIn spy.observed spy.band
          (trail k (.spy n) (stages m past))).map Anchor.id).getD spy.registry.first.id ∧
      ∀ a ∈ d.page.anchorsOf spy.observed, d.page.touches spy.band d.scrollY a →
        ∃ b ∈ d.page.anchorsOf spy.observed, spy.active = b.id ∧
          ∃ recent older, trail k (.spy n) (stages m past) = recent ++ older ∧
            d.page.enters spy.band b older ∧
            (∀ c ∈ d.page.anchorsOf spy.observed, d.page.enters spy.band c older →
              c.rank ≤ b.rank) ∧
            (∀ c ∈ d.page.anchorsOf spy.observed, ∀ y newer, y :: newer <:+ recent →
              d.page.enters spy.band c (y :: newer ++ older) = false) ∧
            (d.page.touches spy.band d.scrollY b ↔ ∀ y ∈ recent, d.page.touches spy.band y b)) := by
  have reliable (_ : Stage) (step : Step) (allowed : step.isReliable) : step.isReliable := allowed
  have genuine (_ : Stage) (step : Step) (allowed : step.isReliable) :=
    Step.isGenuine_of_isReliable allowed
  obtain ⟨told, -⟩ := run.told genuine quiet
  obtain ⟨ids, band, d, w, document, watch, owner, -⟩ := run.watched reliable found observing
  refine ⟨d, document, fun distinct ↦ ?_⟩
  -- a spy that observes has had no watch but on these ids and this band
  have sole : Sole (.spy n) k spy.observed spy.band (stages m past) := by
    intro s member k' ids' band' watched
    obtain ⟨spy', found', rfl, rfl, -⟩ := told.spies s member watched
    cases found.symm.trans found'
    exact ⟨rfl, rfl, rfl⟩
  have heard : received (.spy n) past = d.page.told spy.observed spy.band
      (trail k (.spy n) (stages m past)) :=
    told.told distinct (fun d' document' ↦ by rw [Option.some.inj (document'.symm.trans document)])
      sole
  have alive : spy.phase ≠ .disposed := by simp [of_decide_eq_true observing]
  have active : spy.active = _ := run.follows genuine quiet found alive
  rw [heard, Spy.follow_told] at active
  refine ⟨active, fun a member touches ↦ ?_⟩
  have now : m.stage.offset? k (.spy n) = some d.scrollY := by
    rw [Stage.offset?_of_found document]
    exact offsetFor_eq_some.2 ⟨⟨w, watch, owner⟩, rfl⟩
  have latest : trail k (.spy n) (stages m past) = d.scrollY :: trail k (.spy n)
      (past.map (·.machine.stage)) :=
    trail_cons_some now
  have entered :
      (d.page.lastIn spy.observed spy.band (trail k (.spy n) (stages m past))).isSome := by
    rw [latest]
    exact d.page.isSome_lastIn member touches
  obtain ⟨b, last⟩ := Option.isSome_iff_exists.1 entered
  obtain ⟨recent, older, split, observed, enters, lowest, unentered⟩ := d.page.exists_recent last
  refine ⟨b, observed, by rw [active, last]; rfl, recent, older, split, enters, lowest,
    unentered, ?_⟩
  exact d.page.touches_recent enters (unentered b observed) (latest.symm.trans split)

def halfwayBack : List Step :=
  [.spy "s" (.create ["a", "b"] ⟨20, 80⟩), .spy "s" .observe, .page (.userScroll 80),
    .page (.userScroll 50)]

theorem exists_halfwayBack : ∃ (m : Machine) (past : List Move) (spy : Spy Hearer)
    (d : Document Receiver),
    Machine.journal? 50 halfwayBack (.opened twoSections) [] = some (m, past) ∧
    History (fun _ step ↦ step.observesOrScrolls) past m [] ∧ (∀ e ∈ past, e.atRest) ∧
    m.stage.spies[0]? = some ⟨0, spy⟩ ∧ spy.isObserving ∧ m.stage.documents[0]? = some d ∧
    d.page.Distinct ∧
    (∃ a ∈ d.page.anchorsOf spy.observed, d.page.touches spy.band d.scrollY a) ∧
    ∀ b ∈ d.page.anchorsOf spy.observed, d.page.touches spy.band d.scrollY b →
      spy.active ≠ b.id := by
  have checked :
      ∃ r : Machine × List Move, r ∈ Machine.journal? 50 halfwayBack (.opened twoSections) [] ∧
      (∀ e ∈ r.2, Allows (fun _ step ↦ step.observesOrScrolls) e.machine.stage e.job ∧ e.atRest) ∧
      ∃ c : Mounted (Spy Hearer), c ∈ r.1.stage.spies[0]? ∧ c.document = 0 ∧ c.part.isObserving ∧
      ∃ d : Document Receiver, d ∈ r.1.stage.documents[0]? ∧ (d.page.anchors.map Anchor.id).Nodup ∧
        (∃ a ∈ d.page.anchorsOf c.part.observed, d.page.touches c.part.band d.scrollY a) ∧
        ∀ b ∈ d.page.anchorsOf c.part.observed,
          d.page.touches c.part.band d.scrollY b → c.part.active ≠ b.id := by
    decide +kernel
  obtain ⟨⟨m, past⟩, kept, moves, ⟨_, spy⟩, found, rfl, observing, d, document, distinct,
      inside, apart⟩ :=
    checked
  have run := (History.opened twoSections).journal kept fun e h ↦ (moves e h).1
  exact ⟨m, past, spy, d, kept, run, fun e h ↦ (moves e h).2, found, observing, document,
    distinct, inside, apart⟩

theorem active_eq_lastIn_halfwayBack :
    ∃ m past spy d, Machine.journal? 50 halfwayBack (.opened twoSections) [] = some (m, past) ∧
      m.stage.spies[0]? = some ⟨0, spy⟩ ∧ spy.isObserving ∧ m.stage.documents[0]? = some d ∧
      d.page.Distinct ∧
      spy.active = ((d.page.lastIn spy.observed spy.band
          (trail 0 (.spy 0) (stages m past))).map Anchor.id).getD spy.registry.first.id ∧
      ∃ b ∈ d.page.anchorsOf spy.observed, spy.active = b.id ∧
        ∃ recent older, trail 0 (.spy 0) (stages m past) = recent ++ older ∧
          d.page.enters spy.band b older ∧
          ¬ ∀ y ∈ recent, d.page.touches spy.band y b := by
  obtain ⟨m, past, spy, d, kept, run, quiet, found, observing, document, distinct, inside, apart⟩ :=
    exists_halfwayBack
  obtain ⟨a, member, touches⟩ := inside
  have reliable := run.mono fun _ _ allowed ↦ Step.isReliable_of_observesOrScrolls allowed
  obtain ⟨d', document', last⟩ := active_eq_lastIn reliable quiet found observing
  obtain rfl := Option.some.inj (document'.symm.trans document)
  obtain ⟨active, entered⟩ := last distinct
  obtain ⟨b, observed, here, recent, older, split, enters, -, -, still⟩ := entered a member touches
  refine ⟨m, past, spy, d', kept, found, observing, document, distinct, active, b, observed,
    here, recent, older, split, enters, fun stayed ↦ ?_⟩
  exact apart b observed (still.2 stayed) here

/-- The section that came in last may have left the band while another one is still there, even if
the page is only scrolled once a spy observes it. -/
theorem not_forall_active_touches : ¬ ∀ {past : List Move} {m : Machine} {n k : Nat}
    {spy : Spy Hearer}
    {d : Document Receiver}, History (fun _ step ↦ step.observesOrScrolls) past m [] →
    (∀ e ∈ past, e.atRest) →
    m.stage.spies[n]? = some ⟨k, spy⟩ → spy.isObserving → m.stage.documents[k]? = some d →
    d.page.Distinct →
    (∃ a ∈ d.page.anchorsOf spy.observed, d.page.touches spy.band d.scrollY a) →
    ∃ b ∈ d.page.anchorsOf spy.observed, d.page.touches spy.band d.scrollY b ∧
      spy.active = b.id := by
  intro claimed
  obtain ⟨m, past, spy, d, -, run, quiet, found, observing, document, distinct, inside, apart⟩ :=
    exists_halfwayBack
  obtain ⟨b, member, touches, same⟩ := claimed run quiet found observing document distinct inside
  exact apart b member touches same

end Session

end Wayfinder
