import Wayfinder.Proofs.Watches

namespace Wayfinder

structure Document.LosesWatchesOnly {ω : Type} (d d' : Document ω) : Prop where
  page : d'.page = d.page
  offset : d'.scrollY = d.scrollY
  watches : d'.watches.Sublist d.watches

theorem Blueprint.watches_build {ω : Type} (page : Blueprint) :
    (page.build : Document ω).watches = [] :=
  List.map_eq_nil_iff.1 (congrArg Subscribers.entries page.registered_build)

namespace Session

section Grows

variable {α : Type} {R : α → α → Prop} {N : α → Prop} {l l' l'' : List α}

/-- Each entry goes on as `R` says, and those that are added are as `N` says. -/
structure Grows (R : α → α → Prop) (N : α → Prop) (l l' : List α) : Prop where
  old : ∀ {i : Nat} {a : α}, l[i]? = some a → ∃ a', l'[i]? = some a' ∧ R a a'
  new : ∀ {i : Nat} {a : α}, l[i]? = none → l'[i]? = some a → N a

theorem Grows.refl (refl : ∀ a, R a a) : Grows R N l l where
  old {_ a} found := ⟨a, found, refl a⟩
  new absent found := by cases absent.symm.trans found

theorem Grows.trans (first : Grows R N l l') (next : Grows R N l' l'')
    (trans : ∀ {a b c}, R a b → R b c → R a c) (keep : ∀ {a b}, N a → R a b → N b) :
    Grows R N l l'' where
  old found := by
    obtain ⟨b, found, ab⟩ := first.old found
    obtain ⟨c, found, bc⟩ := next.old found
    exact ⟨c, found, trans ab bc⟩
  new {i c} absent found := by
    cases middle : l'[i]? with
    | none => exact next.new middle found
    | some b =>
      obtain ⟨c', found', step⟩ := next.old middle
      obtain rfl := Option.some.inj (found.symm.trans found')
      exact keep (first.new absent middle) step

theorem Grows.modify {k : Nat} {f : α → α} (refl : ∀ a, R a a)
    (step : ∀ a, l[k]? = some a → R a (f a)) :
    Grows R N l (l.modify k f) where
  old {i a} found := by
    rw [List.getElem?_modify, found]
    by_cases same : k = i
    · exact ⟨f a, by simp [same], step a (same ▸ found)⟩
    · exact ⟨a, by simp [same], refl a⟩
  new {i a} absent found := by simp [List.getElem?_modify, absent] at found

theorem Grows.concat {a : α} (refl : ∀ a, R a a) (fresh : N a) : Grows R N l (l ++ [a]) where
  old {i b} found := ⟨b, getElem?_append_of_some found _, refl b⟩
  new absent found := by
    obtain found | ⟨-, rfl⟩ := getElem?_concat found
    · cases absent.symm.trans found
    · exact fresh

theorem Grows.mono {R' : α → α → Prop} {N' : α → Prop} (h : Grows R N l l')
    (step : ∀ {a b}, R a b → R' a b) (fresh : ∀ {a}, N a → N' a) : Grows R' N' l l' where
  old found := by
    obtain ⟨b, found, related⟩ := h.old found
    exact ⟨b, found, step related⟩
  new absent found := fresh (h.new absent found)

theorem Grows.length_le (h : Grows R N l l') : l.length ≤ l'.length := by
  by_contra shorter
  obtain ⟨b, found, -⟩ := h.old (List.getElem?_eq_getElem (Nat.not_le.1 shorter))
  have bound := (List.getElem?_eq_some_iff.1 found).1
  omega

end Grows

namespace Stage

section Release

variable {R : Document Receiver → Document Receiver → Prop} {N : Document Receiver → Prop}
  {s s' : Stage} {n k : Nat} {d d' : Document Receiver} (refl : ∀ d, R d d)
include refl

theorem grows_setDocument (found : s.documents[k]? = some d) (step : R d d') :
    Grows R N s.documents (s.setDocument k d').documents := by
  rw [setDocument, List.set_eq_modify]
  exact .modify refl fun a found' ↦ by rwa [Option.some.inj (found'.symm.trans found)]

variable (release : ∀ d token, R d (d.release token))
include release

theorem grows_disconnect {link : Option Link} (documents : s'.documents = s.documents) :
    Grows R N s.documents (s'.disconnect link).documents := by
  rw [← documents]
  cases link with
  | none => exact .refl refl
  | some link => exact .modify refl fun d _ ↦ release d link.token

theorem grows_disposeSpy : Grows R N s.documents (s.disposeSpy n).documents := by
  unfold disposeSpy
  split
  · exact .refl refl
  · exact grows_disconnect refl release rfl

theorem grows_releaseMenu : Grows R N s.documents (s.releaseMenu n).documents :=
  releaseMenu_ind (P := fun s' ↦ Grows R N s.documents s'.documents) (.refl refl)
    (fun h ↦ h) (fun h ↦ h)
    fun _ _ ↦ grows_disposeSpy refl release

theorem grows_reclaimOld {o : Option Object} (documents : s'.documents = s.documents) :
    Grows R N s.documents (s'.reclaimOld o).documents := by
  rw [← documents]
  exact reclaimOld_ind (P := fun s₁ ↦ Grows R N s'.documents s₁.documents) (.refl refl)
    (fun h ↦ h) (fun h ↦ h)
    fun _ _ _ _ _ ↦ grows_disposeSpy refl release

end Release

end Stage

section Documents

variable {s s' : Stage} {ts ts' : List Errand}

/-- Documents are opened, changed, scrolled, watched and left. What allows for all of these holds
between the documents before and after any edit. -/
theorem Edit.grows {may : Stage → Job → Prop} {R : Document Receiver → Document Receiver → Prop}
    {N : Document Receiver → Prop} (e : Edit may s ts s' ts') (refl : ∀ d, R d d)
    (build : ∀ page : Blueprint, N page.build)
    (amend : ∀ {k d d'}, d.Alike d' → d'.scrollY = d.scrollY →
      (d.DressedAlike d' ∨ ∃ s₀ j, s₀.Restyles j k ∧ may s₀ j) →
      (d.SteeredAlike d' ∨ ∃ s₀ j, j.steers ∧ may s₀ j) → R d d')
    (inform : ∀ {d d'}, d.Alike d' → d.DressedAlike d' → (∃ j, j.scrolls ∧ may s j) →
      R d d'.inform.1)
    (observe : ∀ d o ids band, R d (d.observe o ids band))
    (release : ∀ d token, R d (d.release token)) :
    Grows R N s.documents s'.documents := by
  cases e with
  | amend found alike offset dressed steered =>
    exact Stage.grows_setDocument refl found (amend alike offset dressed steered)
  | inform found alike scrolls allowed dressed =>
    exact Stage.grows_setDocument refl found (inform alike dressed ⟨_, scrolls, allowed⟩)
  | watch found => exact Stage.grows_setDocument refl found (observe _ _ _ _)
  | observe _ found => exact Stage.grows_setDocument refl found (observe _ _ _ _)
  | observeNothing _ found => exact Stage.grows_setDocument refl found (refl _)
  | openPage page => exact .concat refl (build page)
  | skip | push | animate | handOn | passOn | emit | faults | createStore | adopt | subscribeStore
  | dropStore | subscribeSpy | unsubscribeSpy | receive | createScroller | setOpen | listenMenu
  | tellMenu | deaf | redraw | unseen | hold => exact .refl refl
  | keepHandle | freeHandle | dropHandle => exact Stage.grows_disconnect refl release rfl
  | unsubscribeStore =>
    unfold Stage.unsubscribeStore
    split <;> exact .refl refl
  | keepWatch =>
    unfold Stage.keepWatch
    split <;> exact .refl refl
  | disposeSpy => exact Stage.grows_disposeSpy refl release
  | disposeMenu => exact Stage.grows_releaseMenu refl release
  | createSpy | createMenu | createBare | shareMenu => exact Stage.grows_reclaimOld refl release rfl
  | dropSpy | dropMenu | letGo => exact Stage.grows_reclaimOld refl release (o := some _) rfl

theorem History.forall_documents {may : Stage → Step → Prop} {past : List Move} {m : Machine}
    {jobs : List Job} {P : Document Receiver → Prop} (run : History may past m jobs)
    (build : ∀ page : Blueprint, P page.build)
    (amend : ∀ {d d'}, P d → d.Alike d' → d'.scrollY = d.scrollY → P d')
    (inform : ∀ {d d'}, P d → d.Alike d' → P d'.inform.1)
    (observe : ∀ {d} o ids band, P d → P (d.observe o ids band))
    (release : ∀ {d} token, P d → P (d.release token)) : ∀ d ∈ m.stage.documents, P d := by
  refine run.keeps (I := fun s _ ↦ ∀ d ∈ s.documents, P d) ?_ ?_
  · intro page d member
    rw [List.mem_singleton.1 member]
    exact build page
  · intro s s' ts ts' e old d' member
    have grows : Grows (fun d d' ↦ P d → P d') P s.documents s'.documents :=
      e.grows (fun _ ↦ id) build (fun alike offset _ _ h ↦ amend h alike offset)
        (fun alike _ _ h ↦ inform h alike)
        (fun _ o ids band ↦ observe o ids band) fun _ token ↦ release token
    obtain ⟨k, found'⟩ := List.getElem?_of_mem member
    cases found : s.documents[k]? with
    | none => exact grows.new found found'
    | some d =>
      obtain ⟨d'', found'', step⟩ := grows.old found
      obtain rfl := Option.some.inj (found'.symm.trans found'')
      exact step (old d (List.mem_of_getElem? found))

end Documents

structure Stays (m m' : Mounted (Spy Hearer)) : Prop where
  document : m'.document = m.document
  registry : m'.part.registry = m.part.registry
  band : m'.part.band = m.part.band
  active : m'.part.active = m.part.active
  observed : m'.part.observed = m.part.observed
  phase : m'.part.phase = m.part.phase ∨ m'.part.phase = .disposed

theorem Stays.refl (m : Mounted (Spy Hearer)) : Stays m m := ⟨rfl, rfl, rfl, rfl, rfl, .inl rfl⟩

theorem Stays.trans {m m' m'' : Mounted (Spy Hearer)} (h : Stays m m') (h' : Stays m' m'') :
    Stays m m'' where
  document := h'.document.trans h.document
  registry := h'.registry.trans h.registry
  band := h'.band.trans h.band
  active := h'.active.trans h.active
  observed := h'.observed.trans h.observed
  phase := by
    obtain same | disposed := h'.phase
    · rw [same]
      exact h.phase
    · exact .inr disposed

def IsNew (m : Mounted (Spy Hearer)) : Prop :=
  m.part.phase ≠ .observing ∧ m.part.active = m.part.registry.first.id

theorem IsNew.of_idle {m : Mounted (Spy Hearer)} (idle : m.part.phase = .idle)
    (first : m.part.active = m.part.registry.first.id) : IsNew m := ⟨by simp [idle], first⟩

theorem IsNew.stays {m m' : Mounted (Spy Hearer)} (new : IsNew m) (h : Stays m m') : IsNew m' := by
  refine ⟨?_, by rw [h.active, h.registry, new.2]⟩
  obtain same | disposed := h.phase
  · rw [same]
    exact new.1
  · simp [disposed]

def Errand.parcel (o : Receiver) : Errand → Option (List Entry)
  | .hand o' batch => if o' = o then some batch else none
  | .tell (.probe probe) (.batch batch) | .call probe (.batch batch) =>
    if .probe probe = o then some batch else none
  | _ => none

def parcels (o : Receiver) (ts : List Errand) : List (List Entry) := ts.filterMap (Errand.parcel o)

def Job.receipt (o : Receiver) : Job → Option (List Entry)
  | .errand (.hand (.spy n) batch) => if .spy n = o then some batch else none
  | .errand (.call probe (.batch batch)) => if .probe probe = o then some batch else none
  | _ => none

def Errand.isFrames : Errand → Bool
  | .frames _ _ => true
  | _ => false

/-- The frames of a smooth scroll wait behind all other errands. -/
def FramesLast : List Errand → Prop
  | [] => True
  | t :: ts => (t.isFrames → ts = []) ∧ FramesLast ts

section Parcels

variable {o : Receiver} {t : Errand} {ts ts' : List Errand}

@[simp] theorem parcels_nil : parcels o [] = [] := rfl

@[simp] theorem parcels_append : parcels o (ts ++ ts') = parcels o ts ++ parcels o ts' :=
  List.filterMap_append

theorem parcels_cons : parcels o (t :: ts) = (t.parcel o).toList ++ parcels o ts := by
  rw [parcels, List.filterMap_cons]
  cases t.parcel o <;> rfl

theorem parcels_cons_none (none : t.parcel o = none) : parcels o (t :: ts) = parcels o ts := by
  rw [parcels_cons, none, Option.toList_none, List.nil_append]

theorem parcels_tellAll {hearers : List Hearer} {news : Notice}
    (other : ∀ batch, news ≠ .batch batch) :
    parcels o (tellAll hearers news) = [] := by
  refine List.filterMap_eq_nil_iff.2 fun t member ↦ ?_
  obtain ⟨hearer, -, rfl⟩ := List.mem_map.1 member
  cases news with
  | batch batch => exact absurd rfl (other batch)
  | theme | active | menu => cases hearer <;> rfl

theorem FramesLast.append (h : FramesLast ts) (others : ∀ t ∈ ts', t.isFrames = false) :
    FramesLast (ts' ++ ts) := by
  induction ts' with
  | nil => exact h
  | cons t ts' ih =>
    obtain ⟨other, rest⟩ := List.forall_mem_cons.1 others
    exact ⟨by simp [other], ih rest⟩

theorem framesLast_of_not_frames (others : ∀ t ∈ ts, t.isFrames = false) : FramesLast ts := by
  rw [← List.append_nil ts]
  exact FramesLast.append trivial others

theorem isFrames_tellAll {hearers : List Hearer} {news : Notice} :
    ∀ t ∈ tellAll hearers news, t.isFrames = false := by
  simp [tellAll, Errand.isFrames]

theorem isFrames_handAll {ds : List (Delivery Receiver)} :
    ∀ t ∈ handAll ds, t.isFrames = false := by
  simp [handAll, Errand.isFrames]

theorem isFrames_handFirst {batch : List Entry} : ∀ t ∈ handFirst o batch, t.isFrames = false := by
  unfold handFirst
  split <;> simp [Errand.isFrames]

end Parcels

variable {s s' s'' : Stage} {ts ts' ts'' : List Errand}

/-- What is to see and what is on its way stays as it is; watches may be released, and spies
disposed. -/
structure KeepsTraffic (s : Stage) (ts : List Errand) (s' : Stage) (ts' : List Errand) : Prop where
  documents : Grows Document.LosesWatchesOnly (·.watches = []) s.documents s'.documents
  spies : Grows Stays IsNew s.spies s'.spies
  parcels : ∀ o, parcels o ts' = parcels o ts
  framesLast : FramesLast ts → FramesLast ts'

theorem losesWatchesOnly_refl (d : Document Receiver) : d.LosesWatchesOnly d := ⟨rfl, rfl, .refl _⟩

namespace KeepsTraffic

theorem of_same (documents : s'.documents = s.documents) (spies : s'.spies = s.spies)
    (parcels : ∀ o, Session.parcels o ts' = Session.parcels o ts)
    (framesLast : FramesLast ts → FramesLast ts') :
    KeepsTraffic s ts s' ts' :=
  ⟨documents ▸ .refl losesWatchesOnly_refl, spies ▸ .refl Stays.refl, parcels, framesLast⟩

theorem refl : KeepsTraffic s ts s ts := of_same rfl rfl (fun _ ↦ rfl) id

theorem trans (h : KeepsTraffic s ts s' ts') (h' : KeepsTraffic s' ts' s'' ts'') :
    KeepsTraffic s ts s'' ts'' where
  documents := h.documents.trans h'.documents
    (fun f f' ↦ ⟨f'.page.trans f.page, f'.offset.trans f.offset, f'.watches.trans f.watches⟩)
    fun none f ↦ List.sublist_nil.1 (none ▸ f.watches)
  spies := h.spies.trans h'.spies .trans .stays
  parcels o := (h'.parcels o).trans (h.parcels o)
  framesLast := h'.framesLast ∘ h.framesLast

theorem congr {s₁ : Stage} (h : KeepsTraffic s ts s' ts') (documents : s₁.documents = s'.documents)
    (spies : s₁.spies = s'.spies) : KeepsTraffic s ts s₁ ts' :=
  ⟨documents ▸ h.documents, spies ▸ h.spies, h.parcels, h.framesLast⟩

theorem amend {k : Nat} {d d' : Document Receiver} (found : s.documents[k]? = some d)
    (losesWatchesOnly : d.LosesWatchesOnly d') :
    KeepsTraffic s ts (s.setDocument k d') ts where
  documents := by
    rw [Stage.setDocument, List.set_eq_modify]
    refine .modify losesWatchesOnly_refl fun a found' ↦ ?_
    rwa [Option.some.inj (found'.symm.trans found)]
  spies := .refl Stays.refl
  parcels _ := rfl
  framesLast := id

theorem setSpy {n : Nat} {m : Mounted (Spy Hearer)} {spy : Spy Hearer}
    (found : s.spies[n]? = some m) (stays : Stays m { m with part := spy }) :
    KeepsTraffic s ts (s.setSpy n spy) ts where
  documents := .refl losesWatchesOnly_refl
  spies := .modify Stays.refl fun m' found' ↦ by rwa [Option.some.inj (found'.symm.trans found)]
  parcels _ := rfl
  framesLast := id

theorem addSpy {m : Mounted (Spy Hearer)} (new : IsNew m) :
    KeepsTraffic s ts { s with spies := s.spies ++ [m] } ts where
  documents := .refl losesWatchesOnly_refl
  spies := .concat Stays.refl new
  parcels _ := rfl
  framesLast := id

theorem disconnect (link : Option Link) : KeepsTraffic s ts (s.disconnect link) ts := by
  cases link with
  | none => exact .refl
  | some link =>
    exact ⟨.modify losesWatchesOnly_refl fun d _ ↦ ⟨rfl, rfl, List.filter_sublist⟩,
      .refl Stays.refl, fun _ ↦ rfl, id⟩

theorem disposeSpy (n : Nat) : KeepsTraffic s ts (s.disposeSpy n) ts := by
  cases found : s.spies[n]? with
  | none =>
    rw [Stage.disposeSpy, found]
    exact .refl
  | some m =>
    rw [Stage.disposeSpy_eq found]
    have disposed : Stays m { m with part := m.part.dispose } := ⟨rfl, rfl, rfl, rfl, rfl, .inr rfl⟩
    exact (setSpy found disposed).trans (disconnect _)

theorem reclaimOld (o : Option Object) : KeepsTraffic s ts (s.reclaimOld o) ts :=
  Stage.reclaimOld_ind (P := fun s' ↦ KeepsTraffic s ts s' ts) .refl (fun h ↦ h.congr rfl rfl)
    (fun h ↦ h.congr rfl rfl)
    fun _ k _ _ _ ↦ disposeSpy k

theorem releaseMenu (n : Nat) : KeepsTraffic s ts (s.releaseMenu n) ts :=
  Stage.releaseMenu_ind (P := fun s' ↦ KeepsTraffic s ts s' ts) .refl (fun h ↦ h.congr rfl rfl)
    (fun h ↦ h.congr rfl rfl)
    fun k _ ↦ disposeSpy k

end KeepsTraffic

def Job.keepsTraffic : Job → Bool
  | .act (.page .settle) | .act (.page (.emit _)) | .act (.listen (.watch _ _ _) _ _ _) => false
  | .errand (.hand _ _) | .errand (.call _ _) => false
  | j => !j.scrolls && !j.observes

theorem Job.keepsTraffic_of_scrolls {j : Job} (h : j.scrolls) : j.keepsTraffic = false := by
  unfold keepsTraffic
  split <;> simp [h]

theorem Job.keepsTraffic_of_observes {j : Job} (h : j.observes) : j.keepsTraffic = false := by
  unfold keepsTraffic
  split <;> simp [h]

theorem Edit.keepsTraffic {s₀ : Stage} {j : Job} (e : Edit (Only s₀ j) s ts s' ts')
    (keeps : j.keepsTraffic) :
    KeepsTraffic s ts s' ts' := by
  have busy {j' : Job} {C : Prop} (same : j' = j) (busy : j'.keepsTraffic = false) : C :=
    absurd keeps (by rw [← same, busy]; exact Bool.false_ne_true)
  have resume {s : Stage} {ts : List Errand} {t : Errand} (none : ∀ o, t.parcel o = none) :
      KeepsTraffic s (t :: ts) s ts :=
    .of_same rfl rfl (fun o ↦ (parcels_cons_none (none o)).symm) And.right
  have defer {s : Stage} {ts : List Errand} {t : Errand} (none : ∀ o, t.parcel o = none)
      (other : t.isFrames = false) : KeepsTraffic s ts s (t :: ts) :=
    .of_same rfl rfl (fun o ↦ parcels_cons_none (none o)) fun h ↦ ⟨by simp [other], h⟩
  cases e with
  | @skip t _ idle allowed =>
    cases t with
    | hand | call => exact busy allowed.2 rfl
    | tell => cases idle
    | _ => exact resume fun _ ↦ rfl
  | @push t _ free =>
    cases t with
    | observe | redraw => exact defer (fun _ ↦ rfl) rfl
    | _ => cases free
  | animate allowed =>
    obtain ⟨-, same⟩ | ⟨left, -, same⟩ := allowed
    · exact busy same rfl
    · exact busy same rfl
  | handOn allowed | emit _ allowed | watch _ _ _ _ _ allowed | receive _ _ allowed =>
    exact busy allowed.2 rfl
  | inform _ _ scrolls allowed => exact busy allowed.2 (Job.keepsTraffic_of_scrolls scrolls)
  | observe _ _ _ observes allowed | observeNothing _ _ _ _ observes allowed =>
    exact busy allowed.2 (Job.keepsTraffic_of_observes observes)
  | @passOn _ probe news =>
    have same (o : Receiver) :
        (Errand.call probe news).parcel o = (Errand.tell (.probe probe) news).parcel o := by
      cases news <;> rfl
    exact .of_same rfl rfl (fun o ↦ by rw [parcels_cons, parcels_cons, same]) fun h ↦ ⟨nofun, h.2⟩
  | amend found alike offset => exact .amend found ⟨alike.page, offset, alike.watches ▸ .refl _⟩
  | openPage page =>
    exact ⟨.concat losesWatchesOnly_refl page.watches_build, .refl Stays.refl, fun _ ↦ rfl, id⟩
  | faults | createStore | subscribeStore | dropStore | createScroller | listenMenu =>
    exact .of_same rfl rfl (fun _ ↦ rfl) id
  | keepHandle =>
    refine (resume fun _ ↦ rfl).trans (KeepsTraffic.trans ?_ (.disconnect _))
    exact .of_same rfl rfl (fun _ ↦ rfl) id
  | freeHandle | dropHandle =>
    refine KeepsTraffic.trans ?_ (.disconnect _)
    exact .of_same rfl rfl (fun _ ↦ rfl) id
  | unsubscribeStore =>
    unfold Stage.unsubscribeStore
    split <;> exact .of_same rfl rfl (fun _ ↦ rfl) id
  | adopt =>
    exact .of_same rfl rfl (fun o ↦ by simp [parcels_tellAll]) fun h ↦ h.append isFrames_tellAll
  | createSpy =>
    refine KeepsTraffic.trans ?_ (.reclaimOld _)
    exact (KeepsTraffic.addSpy (.of_idle rfl rfl)).congr rfl rfl
  | @keepWatch _ n watch =>
    refine (resume fun _ ↦ rfl).trans ?_
    unfold Stage.keepWatch
    split
    · exact .refl
    · exact .setSpy ‹_› ⟨rfl, rfl, rfl, rfl, rfl, .inl rfl⟩
  | disposeSpy => exact .disposeSpy _
  | subscribeSpy found | unsubscribeSpy found =>
    exact .setSpy found ⟨rfl, rfl, rfl, rfl, rfl, .inl rfl⟩
  | dropSpy | dropMenu =>
    refine KeepsTraffic.trans ?_ (.reclaimOld (some _))
    exact .of_same rfl rfl (fun _ ↦ rfl) id
  | createMenu =>
    refine KeepsTraffic.trans ?_ (.reclaimOld _)
    exact (KeepsTraffic.addSpy (.of_idle rfl rfl)).congr rfl rfl
  | createBare | shareMenu =>
    refine KeepsTraffic.trans ?_ (.reclaimOld _)
    exact .of_same rfl rfl (fun _ ↦ rfl) id
  | disposeMenu => exact .releaseMenu _
  | @setOpen _ n m _ isOpen =>
    split
    · exact .of_same rfl rfl (fun _ ↦ rfl) id
    · exact (defer (fun _ ↦ rfl) rfl).congr rfl rfl
  | tellMenu =>
    refine (resume fun _ ↦ rfl).trans (.trans ?_ (defer (fun _ ↦ rfl) rfl))
    exact (defer (fun _ ↦ rfl) rfl).congr rfl rfl
  | deaf => exact resume fun _ ↦ rfl
  | redraw =>
    refine (resume fun _ ↦ rfl).trans ?_
    exact (defer (fun _ ↦ rfl) rfl).congr rfl rfl
  | unseen => exact resume fun _ ↦ rfl
  | hold => exact (defer (fun _ ↦ rfl) rfl).congr rfl rfl
  | letGo =>
    refine (resume fun _ ↦ rfl).trans (KeepsTraffic.trans ?_ (.reclaimOld (some _)))
    exact .of_same rfl rfl (fun _ ↦ rfl) id

theorem Edits.keepsTraffic {s₀ : Stage} {j : Job} (es : Edits (Only s₀ j) s ts s' ts')
    (keeps : j.keepsTraffic) :
    KeepsTraffic s ts s' ts' := by
  induction es with
  | refl => exact .refl
  | cons e _ ih => exact (e.keepsTraffic keeps).trans ih

theorem Job.receipt_of_keepsTraffic {j : Job} (keeps : j.keepsTraffic) (o : Receiver) :
    j.receipt o = none := by
  unfold keepsTraffic at keeps
  split at keeps <;> first | cases keeps | (unfold receipt; split <;> simp_all)

/-- What a job does, as far as documents, spies and batches go. -/
inductive Traffic (probes : Nat) (s : Stage) (j : Job) (ts : List Errand) (s' : Stage)
    (ts' : List Errand) : Prop
  | kept (documents : Grows Document.LosesWatchesOnly (·.watches = []) s.documents s'.documents)
      (spies : Grows Stays IsNew s.spies s'.spies)
      (taken : ∀ o, parcels o ts = (j.receipt o).toList ++ parcels o ts')
      (mute : ∀ n, j.receipt (.spy n) = none)
  | received {n : Nat} {batch : List Entry} (job : j = .errand (.hand (.spy n) batch))
      (documents : s'.documents = s.documents)
      (spies : s'.spies = s.spies.modify n fun m ↦
        { m with part := (m.part.receive? batch).getD m.part })
      (taken : ∀ o, parcels o ts = (j.receipt o).toList ++ parcels o ts')
  | scrolled {k : Nat} {d : Document Receiver}
      {change : Document Receiver × List (Delivery Receiver)}
      (found : s.documents[k]? = some d) (shift : d.Shifts change)
        (stage : s' = s.setDocument k change.1)
      (alone : ∀ o, parcels o ts = []) (sent : ∀ o, parcels o ts' = parcels o (handAll change.2))
      (unread : ∀ o, j.receipt o = none)
  | watched {name label : String} {ids : List String} {band : Band} {script : List Step}
      {limit : Nat}
      {d : Document Receiver} (job : j = .act (.listen (.watch name ids band) label script limit))
      (found : s.documents[s.current]? = some d)
      (stage : s' = s.setDocument s.current (d.observe (.probe probes) ids band))
      (sent : ∀ o, parcels o ts' =
        parcels o (handFirst (.probe probes) (d.firstBatch ids band)) ++ parcels o ts)
  | observed {n : Nat} {m : Mounted (Spy Hearer)} {d : Document Receiver}
      (found : s.spies[n]? = some m)
      (document : s.documents[m.document]? = some d) (idle : m.part.phase = .idle)
      (documents : s'.documents =
        s.documents.set m.document (d.observe (.spy n) (m.part.present d) m.part.band))
      (spies : s'.spies = (s.setSpy n (beginObserving m.part d)).spies)
      (sent : ∀ o, parcels o ts' =
        parcels o (handFirst (.spy n) (d.firstBatch (m.part.present d) m.part.band)) ++
          parcels o ts)
      (unread : ∀ o, j.receipt o = none)
  | failed {n : Nat} {m : Mounted (Spy Hearer)} {d : Document Receiver} (fails : s.faults.observe)
      (found : s.spies[n]? = some m) (idle : m.part.phase = .idle)
        (documents : s'.documents = s.documents)
      (spies : s'.spies = (s.setSpy n (beginObserving m.part d)).spies)
      (still : ∀ o, parcels o ts' = parcels o ts) (unread : ∀ o, j.receipt o = none)

theorem Traffic.of_same {probes : Nat} {j : Job} (documents : s'.documents = s.documents)
    (spies : s'.spies = s.spies)
    (taken : ∀ o, parcels o ts = (j.receipt o).toList ++ parcels o ts')
    (mute : ∀ n, j.receipt (.spy n) = none) :
    Traffic probes s j ts s' ts' := .kept (documents ▸ .refl losesWatchesOnly_refl)
    (spies ▸ .refl Stays.refl) taken mute

theorem KeepsTraffic.traffic {probes : Nat} {j : Job} (keeps : KeepsTraffic s ts s' ts')
    (unread : ∀ o, j.receipt o = none) :
    Traffic probes s j ts s' ts' :=
  .kept keeps.documents keeps.spies
    (fun o ↦ by rw [keeps.parcels, unread, Option.toList_none, List.nil_append])
    fun _ ↦ unread _

namespace Stage

variable {probes : Nat}

theorem traffic_page {op : PageOp} (scrolls : Job.scrolls (.act (.page op))) :
    Traffic probes s (.act (.page op)) [] (s.performPage op).stage (s.performPage op).errands ∧
      FramesLast (s.performPage op).errands := by
  have delivered {f : Document Receiver → Document Receiver × List (Delivery Receiver)}
      {outcome : Document Receiver → Outcome} (shift : ∀ d, Document.Shifts d (f d)) :
      Traffic probes s (.act (.page op)) []
        (s.onDocument s.current fun d ↦ s.deliver s.current (f d) (outcome d)).stage
        (s.onDocument s.current fun d ↦ s.deliver s.current (f d) (outcome d)).errands ∧
      FramesLast (s.onDocument s.current fun d ↦
        s.deliver s.current (f d) (outcome d)).errands := by
    unfold onDocument
    split
    · rename_i d found
      refine ⟨.scrolled found (shift d) rfl (fun _ ↦ rfl) (fun _ ↦ rfl) (fun _ ↦ rfl), ?_⟩
      exact framesLast_of_not_frames isFrames_handAll
    · exact ⟨.of_same rfl rfl (fun _ ↦ rfl) fun _ ↦ rfl, trivial⟩
  cases op with
  | userScroll y => exact delivered fun d ↦ d.shifts_userScroll y
  | scrollTo y animated => exact delivered fun d ↦ d.shifts_scrollTo y animated
  | frame => exact delivered fun d ↦ d.shifts_advanceFrame
  | _ => cases scrolls

theorem traffic_frames {k left : Nat} :
    Traffic probes s (.errand (.frames k left)) [.frames k left] (s.carry (.frames k left)).stage
        (s.carry (.frames k left)).errands ∧ FramesLast (s.carry (.frames k left)).errands := by
  simp only [carry, advanceFrames]
  split
  · rename_i d left found
    have more :
        (∀ o, parcels o (if d.advanceFrame.1.isAnimating then [.frames k left] else []) = []) ∧
        FramesLast (if d.advanceFrame.1.isAnimating then [.frames k left] else []) := by
      split
      · exact ⟨fun _ ↦ rfl, fun _ ↦ rfl, trivial⟩
      · exact ⟨fun _ ↦ rfl, trivial⟩
    refine ⟨.scrolled found d.shifts_advanceFrame rfl (fun _ ↦ rfl) (fun o ↦ ?_) fun _ ↦ rfl, ?_⟩
    · rw [parcels_append, more.1, List.append_nil]
    · exact more.2.append isFrames_handAll
  · exact ⟨.of_same rfl rfl (fun _ ↦ rfl) fun _ ↦ rfl, trivial⟩

theorem performListen_watch (probes : Nat) (name : String) (ids : List String) (band : Band)
    {d : Document Receiver} (found : s.documents[s.current]? = some d) :
    (s.performListen probes (.watch name ids band)).stage =
      s.setDocument s.current (d.observe (.probe probes) ids band) ∧
      (s.performListen probes (.watch name ids band)).errands =
        handFirst (.probe probes)
        (d.firstBatch ids band) ++ [.keepHandle name ⟨s.current, d.nextToken⟩] := by
  simp only [performListen, onDocument, found]
  exact ⟨rfl, rfl⟩

theorem traffic_watch {name label : String} {ids : List String} {band : Band} {script : List Step}
    {limit : Nat} :
    Traffic probes s (.act (.listen (.watch name ids band) label script limit)) []
        (s.performListen probes (.watch name ids band)).stage
        (s.performListen probes (.watch name ids band)).errands ∧
      FramesLast (s.performListen probes (.watch name ids band)).errands := by
  cases found : s.documents[s.current]? with
  | some d =>
    obtain ⟨stage, errands⟩ := performListen_watch probes name ids band found
    rw [stage, errands]
    refine ⟨.watched rfl found rfl fun o ↦ ?_, ?_⟩
    · simp [parcels_cons_none (t := .keepHandle _ _) rfl]
    · exact framesLast_of_not_frames
        (List.forall_mem_append.2 ⟨isFrames_handFirst, by simp [Errand.isFrames]⟩)
  | none =>
    simp only [performListen, onDocument, found]
    exact ⟨.of_same rfl rfl (fun _ ↦ rfl) fun _ ↦ rfl, trivial⟩

theorem traffic_observe {s₀ : Stage} {j : Job} {n : Nat} {rest : List Errand}
    (documents : s.documents = s₀.documents)
    (spies : s.spies = s₀.spies) (faults : s.faults = s₀.faults) (unread : ∀ o, j.receipt o = none)
    (same : ∀ o, parcels o ts = parcels o rest) (framesLast : FramesLast rest) :
    Traffic probes s₀ j ts (s.observeSpy n).stage ((s.observeSpy n).errands ++ rest) ∧
      FramesLast ((s.observeSpy n).errands ++ rest) := by
  obtain ⟨stage, errands⟩ | ⟨m, d, found, document, idle,
      ⟨stage, errands⟩ | ⟨fails, stage, errands⟩⟩ :=
    s.observeSpy_cases n
  · rw [stage, errands]
    exact ⟨.of_same documents spies (fun o ↦ by simp [unread, same]) fun _ ↦ unread _, framesLast⟩
  · rw [stage, errands]
    refine ⟨.observed (spies ▸ found) (documents ▸ document) idle ?_ ?_ (fun o ↦ ?_) unread,
      framesLast.append ?_⟩
    · rw [← documents]
      rfl
    · simp only [setDocument, setSpy, spies]
    · simp [parcels_cons_none (t := .keepWatch _ _) rfl, same]
    · exact List.forall_mem_append.2 ⟨isFrames_handFirst, by simp [Errand.isFrames]⟩
  · rw [stage, errands]
    have behind : FramesLast (.keepWatch n none :: rest) := ⟨by simp [Errand.isFrames], framesLast⟩
    refine ⟨.failed (d := d) (faults ▸ fails) (spies ▸ found) idle ?_ ?_ (fun o ↦ ?_) unread,
      behind⟩
    · have kept : (s.setDocument m.document d).documents = s.documents := by
        rw [setDocument_self document]
      exact kept.trans documents
    · simp only [setDocument, setSpy, spies]
    · exact (parcels_cons_none rfl).trans (same o).symm

theorem traffic_performObserve {name : String} :
    Traffic probes s (.act (.spy name .observe)) [] (s.performSpy name .observe).stage
        (s.performSpy name .observe).errands ∧ FramesLast (s.performSpy name .observe).errands := by
  simp only [performSpy, onSpy]
  split
  · exact ⟨.of_same rfl rfl (fun _ ↦ rfl) fun _ ↦ rfl, trivial⟩
  · split
    · exact traffic_observe rfl rfl rfl (fun _ ↦ rfl) (fun _ ↦ rfl) ⟨by simp, trivial⟩
    · exact ⟨.of_same rfl rfl (fun _ ↦ rfl) fun _ ↦ rfl, trivial⟩

theorem traffic_hand {n : Nat} {batch : List Entry} {rest : List Errand}
    (framesLast : FramesLast rest) :
    Traffic probes s (.errand (.hand (.spy n) batch)) (.hand (.spy n) batch :: rest)
    (s.handSpy n batch).stage
        ((s.handSpy n batch).errands ++ rest) ∧
        FramesLast ((s.handSpy n batch).errands ++ rest) := by
  have taken (o : Receiver) : parcels o (.hand (.spy n) batch :: rest) =
      (Job.receipt o (.errand (.hand (.spy n) batch))).toList ++ parcels o rest := parcels_cons
  have heard : (s.handSpy n batch).stage.spies =
      s.spies.modify n fun m ↦ { m with part := (m.part.receive? batch).getD m.part } := by
    unfold handSpy
    refine List.ext_getElem? fun i ↦ ?_
    rw [List.getElem?_modify]
    by_cases here : n = i
    · subst i
      cases found : s.spies[n]? with
      | none => simp [found]
      | some m => cases moved : m.part.receive? batch <;> simp [found, moved, setSpy]
    · split <;> simp [here, setSpy]
  refine ⟨.received rfl ?_ heard fun o ↦ ?_, ?_⟩
  · unfold handSpy
    split <;> rfl
  · rw [taken, handSpy]
    split
    · rfl
    · simp [parcels_tellAll]
  · unfold handSpy
    split
    · exact framesLast
    · exact framesLast.append isFrames_tellAll

end Stage

variable {may : Stage → Step → Prop} {m m' : Machine} {jobs jobs' : List Job} {j : Job}

/-- Nothing was under way when a step was taken, so that no listener took it. -/
def Move.atRest (e : Move) : Bool :=
  match e.job with
  | .act _ => e.agenda.isEmpty
  | _ => true

theorem Move.atRest_iff {e : Move} : e.atRest ↔ ∀ step, e.job = .act step → e.agenda = [] := by
  unfold atRest
  split <;> simp_all

def Step.isGenuine : Step → Bool
  | .page (.emit _) => false
  | _ => true

/-- Every turn is one of these, where no listener takes steps and nothing but what documents send is
handed out. -/
theorem Turn.traffic (turn : Turn may m jobs j m' jobs')
    (genuine : ∀ s step, may s step → step.isGenuine) (quiet : Move.atRest ⟨m, jobs, j⟩)
    (framesLast : FramesLast (errandsOf jobs)) :
    Traffic m.probes.length m.stage j (errandsOf jobs) m'.stage (errandsOf jobs') ∧
      FramesLast (errandsOf jobs') := by
  -- what a job does that keeps the traffic is read off its edits, and the few other jobs are looked
  -- at one by one
  by_cases keeps : j.keepsTraffic
  · have same := turn.edits_only.keepsTraffic keeps
    exact ⟨same.traffic (Job.receipt_of_keepsTraffic keeps), same.framesLast framesLast⟩
  · obtain ⟨step, rfl, allowed, stage, errands⟩ | ⟨t, rest, rfl, pending, stage, errands⟩ |
      ⟨⟨_, _, rfl⟩, -⟩ := turn.effect
    · obtain rfl : jobs = [] := Move.atRest_iff.1 quiet step rfl
      rw [errandsOf_nil, List.append_nil] at errands
      rw [stage, errands, errandsOf_nil]
      cases step with
      | page op =>
        cases op with
        | userScroll | scrollTo | frame => exact Stage.traffic_page rfl
        | settle => exact ⟨.of_same rfl rfl (fun _ ↦ rfl) fun _ ↦ rfl, fun _ ↦ rfl, trivial⟩
        | emit batch => exact absurd (genuine _ _ allowed) Bool.false_ne_true
        | _ => exact absurd rfl keeps
      | spy name op =>
        cases op with
        | observe => exact Stage.traffic_performObserve
        | _ => exact absurd rfl keeps
      | listen spot label script limit =>
        cases spot with
        | watch name ids band => exact Stage.traffic_watch
        | _ => exact absurd rfl keeps
      | _ => exact absurd rfl keeps
    · rw [pending] at framesLast ⊢
      rw [stage, errands]
      cases t with
      | frames k left =>
        obtain rfl : rest = [] := framesLast.1 rfl
        rw [List.append_nil]
        exact Stage.traffic_frames
      | observe n =>
        exact Stage.traffic_observe rfl rfl rfl (fun _ ↦ rfl) (fun _ ↦ rfl) framesLast.2
      | hand receiver batch =>
        cases receiver with
        | probe probe => exact ⟨.of_same rfl rfl (fun _ ↦ rfl) fun _ ↦ rfl, nofun, framesLast.2⟩
        | spy n => exact Stage.traffic_hand framesLast.2
      | call probe notice =>
        have taken (o : Receiver) :
            (Errand.call probe notice).parcel o = Job.receipt o (.errand (.call probe notice)) := by
          cases notice <;> rfl
        exact ⟨.of_same rfl rfl (fun o ↦ taken o ▸ parcels_cons) fun _ ↦ by cases notice <;> rfl,
          framesLast.2⟩
      | _ => exact absurd rfl keeps
    · exact absurd rfl keeps

end Session

end Wayfinder
