import Wayfinder.Proofs.Glide
import Wayfinder.Proofs.Outset
import Wayfinder.Proofs.Registration

namespace Wayfinder

namespace Length

variable {x y z : Length}

/-- Adding the same length keeps the order. -/
theorem add_le_add (nonneg : 0 ≤ x) (le : x ≤ y) (number : (y + z).isNaN = false) :
    x + z ≤ y + z := by
  obtain ⟨hx, hy⟩ := number_of_le le
  obtain ⟨-, hz⟩ := number_of_add number
  have lower := value_nonneg nonneg
  have order := (le_iff hx hy).1 le
  obtain ⟨infinite, opposite, -⟩ | ⟨-, number', value⟩ := add_spec hx hz
  · -- then `y` is infinite as well, and there is no sum
    exfalso
    have same : y.value = x.value := by
      rw [abs_of_nonneg lower] at infinite
      exact le_antisymm (infinite ▸ value_le_excess hy) order
    obtain ⟨-, -, nan⟩ | ⟨apart, -⟩ := add_spec hy hz
    · rw [number] at nan
      cases nan
    · rw [same] at apart
      exact apart infinite opposite
  · rw [le_iff number' number, value, value_add number]
    exact fitted_mono (by linarith)

end Length

namespace Page

variable {p : Page} {band : Band} {u v y : Length} {a b : Anchor}

def foot (p : Page) (band : Band) (y : Length) : Length := (band.edges y p.viewport).2

theorem touches_iff : p.touches band y a ↔ a.top ≤ p.foot band y ∧
    (band.edges y p.viewport).1 ≤ a.top + a.height.nonneg ∧ 0 < a.height := by
  simp only [touches, Band.intersects, foot, Bool.and_eq_true, decide_eq_true_eq, and_assoc]

theorem foot_le (nonneg : 0 ≤ u) (le : u ≤ v) (number : (p.foot band v).isNaN = false) :
    p.foot band u ≤ p.foot band v := Length.add_le_add nonneg le number

/-- What comes into the band on the way down has had its top below the band. -/
theorem foot_lt_top (nonneg : 0 ≤ u) (le : u ≤ v) (before : ¬ p.touches band u a)
    (after : p.touches band v a) :
    p.foot band u < a.top := by
  obtain ⟨above, below, positive⟩ := touches_iff.1 after
  have number := (Length.number_of_le above)
  have foot := Length.number_of_le (foot_le nonneg le number.2)
  have inside : (band.edges u p.viewport).1 ≤ a.top + a.height.nonneg :=
    Length.le_trans (Length.add_le_add nonneg le (Length.number_of_le below).1) below
  by_contra higher
  rw [Length.not_lt foot.1 number.1] at higher
  exact before (touches_iff.2 ⟨higher, inside, positive⟩)

/-- The top of the anchor is not below the band, and will not be as the page is scrolled down. -/
def Reached (p : Page) (band : Band) (y : Length) (a : Anchor) : Prop :=
  ∀ v, y ≤ v → (p.foot band v).isNaN = false → a.top ≤ p.foot band v

theorem reached_of_touches (nonneg : 0 ≤ y) (touches : p.touches band y a) :
    p.Reached band y a := by
  intro v le number
  exact Length.le_trans (touches_iff.1 touches).1 (foot_le nonneg le number)

theorem Reached.later (h : p.Reached band u a) (le : u ≤ v) : p.Reached band v a :=
  fun w le' number ↦ h w (Length.le_trans le le') number

theorem Reached.lt_top (h : p.Reached band u a) (nonneg : 0 ≤ u) (le : u ≤ v)
    (before : ¬ p.touches band u b) (after : p.touches band v b) : a.top < b.top := by
  have below := foot_lt_top nonneg le before after
  have above := h u (Length.le_refl (Length.number_of_le le).1) (Length.number_of_lt below).1
  exact Length.lt_of_le_of_lt above below

theorem Distinct.anchorTop? (distinct : p.Distinct) (member : a ∈ p.anchors) :
    p.anchorTop? a.id = some a.top := by
  rw [Page.anchorTop?]
  cases found : p.anchors.find? (·.id = a.id) with
  | none =>
    have other := List.find?_eq_none.1 found a member
    simp at other
  | some b =>
    have same : b.id = a.id := by simpa using List.find?_some found
    rw [distinct.eq_of_id (List.mem_of_find?_eq_some found) member same]
    rfl

/-- A place on the page that is further down than another one is still so if the page ends between
the two. -/
theorem le_clampScroll (low : 0 ≤ u) (high : u ≤ p.maxScroll) (le : u ≤ y) :
    u ≤ p.clampScroll y ∧ p.clampScroll y ≤ y := by
  obtain ⟨hu, hy⟩ := Length.number_of_le le
  obtain ⟨number, value⟩ := p.value_clampScroll hy
  have nonneg : 0 ≤ y.value := Length.value_nonneg (Length.le_trans low le)
  rw [max_eq_left nonneg] at value
  rw [Length.le_iff hu p.number_maxScroll] at high
  rw [Length.le_iff hu hy] at le
  rw [Length.le_iff hu number, Length.le_iff number hy, value]
  exact ⟨le_min le high, min_le_left _ _⟩

end Page

namespace Registry

variable {r : Registry} {p : Page} {id id' : String} {i j : Nat}

/-- If the sections lie on the page in reading order, then one further down comes later. -/
theorem position_lt {top top' : Length} (order : (r.ids.filterMap p.anchorTop?).Pairwise (· ≤ ·))
    (position : r.position? id = some i) (position' : r.position? id' = some j)
    (anchor : p.anchorTop? id = some top) (anchor' : p.anchorTop? id' = some top')
    (less : top < top') : i < j := by
  rw [position?_eq_some] at position position'
  obtain ⟨bound, here⟩ := List.getElem?_eq_some_iff.1 position
  obtain ⟨bound', here'⟩ := List.getElem?_eq_some_iff.1 position'
  obtain ⟨number, number'⟩ := Length.number_of_lt less
  rw [← here] at anchor
  rw [← here'] at anchor'
  by_contra before
  have higher : ¬ top' ≤ top := by
    rw [← Length.not_lt number number']
    exact not_not.2 less
  obtain same | earlier := (Nat.le_of_not_lt before).eq_or_lt
  · subst same
    obtain rfl := Option.some.inj (anchor.symm.trans anchor')
    exact higher (Length.le_refl number)
  · rw [List.pairwise_filterMap, List.pairwise_iff_getElem] at order
    exact higher (order j i bound' bound earlier top' anchor' top anchor)

end Registry

namespace Spy

variable {σ : Type} {spy : Spy σ} {p : Page} {u v : Length}

def ActiveNotBelow (spy : Spy σ) (p : Page) (y : Length) : Prop :=
  spy.active = spy.registry.first.id ∨
    spy.active ∈ spy.registry.ids ∧ ∃ a ∈ p.anchors, a.id = spy.active ∧ p.Reached spy.band y a

theorem ActiveNotBelow.exists_position (h : spy.ActiveNotBelow p u) :
    ∃ i, spy.registry.position? spy.active = some i := by
  obtain first | ⟨member, -⟩ := h
  · rw [first]
    exact ⟨0, spy.registry.position?_first⟩
  · exact Registry.exists_position member

theorem exists_of_winner? {id : String}
    (winner : spy.winner? (p.changes spy.observed spy.band u v) = some id) :
    id ∈ spy.observed ∧ ∃ a ∈ p.anchors, a.id = id ∧ ¬ p.touches spy.band u a ∧
      p.touches spy.band v a := by
  refine ⟨mem_observed_of_winner? winner, ?_⟩
  obtain ⟨e, found, rfl⟩ := Option.map_eq_some_iff.1 winner
  have wins := List.find?_some found
  obtain ⟨a, member, rfl⟩ := List.mem_map.1 (List.mem_reverse.1 (List.mem_of_find?_eq_some found))
  obtain ⟨member, changed⟩ := List.mem_filter.1 member
  have after : p.touches spy.band v a := (Bool.and_eq_true_iff.1 wins).1
  refine ⟨a, (p.mem_anchorsOf.1 member).1, rfl, ?_, after⟩
  intro before
  rw [before, after] at changed
  simp at changed

def moved (spy : Spy σ) (batch : List Entry) : Spy σ :=
  { spy with active := (spy.winner? batch).getD spy.active }

theorem getD_receive? (observing : spy.phase = .observing) (batch : List Entry) :
    (spy.receive? batch).getD spy = spy.moved batch := by
  obtain ⟨id, same⟩ := spy.exists_active batch
  have active := active_receive observing batch
  rw [same] at active
  rw [same, moved, ← active]

/-- On the way down the spy moves on in reading order, or stays where it is. -/
theorem ActiveNotBelow.changes (h : spy.ActiveNotBelow p u) (distinct : p.Distinct)
    (observed : ∀ id ∈ spy.observed, id ∈ spy.registry.ids)
    (order : (spy.registry.ids.filterMap p.anchorTop?).Pairwise (· ≤ ·)) (nonneg : 0 ≤ u)
    (le : u ≤ v) :
    (spy.moved (p.changes spy.observed spy.band u v)).ActiveNotBelow p v ∧
      ∃ i j, spy.registry.position? spy.active = some i ∧
        spy.registry.position? (spy.moved (p.changes spy.observed spy.band u v)).active = some j ∧
        i ≤ j := by
  obtain ⟨i, position⟩ := h.exists_position
  cases winner : spy.winner? (p.changes spy.observed spy.band u v) with
  | none =>
    have same : spy.moved (p.changes spy.observed spy.band u v) = spy := by
      rw [moved, winner, Option.getD_none]
    rw [same]
    refine ⟨?_, i, i, position, position, le_rfl⟩
    obtain first | ⟨member, a, anchor, id, reached⟩ := h
    · exact .inl first
    · exact .inr ⟨member, a, anchor, id, reached.later le⟩
  | some id =>
    have same : (spy.moved (p.changes spy.observed spy.band u v)).active = id := by
      rw [moved, winner, Option.getD_some]
    obtain ⟨member, b, anchor', rfl, before, after⟩ := exists_of_winner? winner
    obtain ⟨j, position'⟩ := Registry.exists_position (observed _ member)
    constructor
    · rw [ActiveNotBelow, same]
      exact .inr ⟨observed _ member, b, anchor', rfl,
        Page.reached_of_touches (Length.le_trans nonneg le) after⟩
    · rw [same]
      refine ⟨i, j, position, position', ?_⟩
      obtain first | ⟨-, a, anchor, id, reached⟩ := h
      · rw [first, spy.registry.position?_first] at position
        cases position
        exact j.zero_le
      · have less := reached.lt_top nonneg le before after
        rw [← id] at position
        exact (Registry.position_lt order position position' (distinct.anchorTop? anchor)
          (distinct.anchorTop? anchor') less).le

end Spy

namespace Session

variable {m : Machine} {n : Nat} {spy : Spy Hearer} {d : Document Receiver}

theorem foldl_handAll (ds : List (Delivery Receiver)) : (handAll ds).foldl (Errand.upon n) spy =
    (parcels (.spy n) (handAll ds)).foldl (fun spy batch ↦ (spy.receive? batch).getD spy) spy := by
  induction ds generalizing spy with
  | nil => rfl
  | cons delivery ds ih =>
    have cons : handAll (delivery :: ds) = .hand delivery.owner delivery.batch :: handAll ds := rfl
    rw [cons, List.foldl_cons, ih, parcels_cons]
    cases owner : delivery.owner with
    | probe p => rfl
    | spy k => by_cases same : k = n <;> simp [Errand.upon, Errand.parcel, same]

structure ObservesAtRest (m : Machine) (n : Nat) (spy : Spy Hearer) (d : Document Receiver) :
    Prop where
  inert : m.Inert
  menusNamed : m.stage.MenusNamed
  found : m.stage.spies[n]? = some ⟨m.stage.current, spy⟩
  document : m.stage.documents[m.stage.current]? = some d
  observing : spy.phase = .observing
  watch : (d.watches.filter (·.owner = .spy n)).map (fun w ↦ (w.ids, w.band)) =
    [(spy.observed, spy.band)]
  current : d.Current

theorem Machine.reply_userScroll (document : m.stage.documents[m.stage.current]? = some d)
    (y : Length) :
    m.reply (.page (.userScroll y)) =
      { stage := m.stage.setDocument m.stage.current (d.userScroll y).1, errands :=
        handAll (d.userScroll y).2 } := by
  simp only [Machine.reply, Stage.perform, Stage.performPage, Stage.onDocument, document,
    Stage.deliver]

/-- What the spy is handed as the page is scrolled. -/
theorem ObservesAtRest.parcels (h : ObservesAtRest m n spy d) (distinct : d.page.Distinct)
    (y : Length) :
    parcels (.spy n) (handAll (d.userScroll y).2) =
      [d.page.changes spy.observed spy.band d.scrollY (d.page.clampScroll y)].filter
        (!·.isEmpty) := by
  rw [(d.shifts_userScroll y).batches distinct h.current, parcels_deltas]
  have each : (d.watches.filter (·.owner = .spy n)).map
      (fun w ↦ d.page.changes w.ids w.band d.scrollY (d.userScroll y).1.scrollY) =
      ((d.watches.filter (·.owner = .spy n)).map fun w ↦ (w.ids, w.band)).map
        fun w ↦ d.page.changes w.1 w.2 d.scrollY (d.userScroll y).1.scrollY := by
    rw [List.map_map]
    rfl
  rw [each, h.watch]
  rfl

theorem ObservesAtRest.scroll (h : ObservesAtRest m n spy d) (distinct : d.page.Distinct)
    (y : Length) :
    ObservesAtRest (m.step (.page (.userScroll y))) n
      (spy.moved (d.page.changes spy.observed spy.band d.scrollY (d.page.clampScroll y)))
      (d.userScroll y).1 := by
  have replied := Machine.reply_userScroll h.document y
  have stage : (m.take (.page (.userScroll y))).stage =
      m.stage.setDocument m.stage.current (d.userScroll y).1 := by
    rw [Machine.take, replied]
    rfl
  have light : ∀ t ∈ handAll (d.userScroll y).2,
      (m.take (.page (.userScroll y))).stage.isLight t := by
    simp [handAll, Stage.isLight]
  have menusNamed : (m.take (.page (.userScroll y))).stage.MenusNamed := by
    rw [stage]
    exact h.menusNamed.congr rfl rfl
  obtain ⟨carries, menusNamed, inert⟩ := (h.inert.take rfl).carries menusNamed light
  have rest : m.step (.page (.userScroll y)) =
      (m.take (.page (.userScroll y))).run ((handAll (d.userScroll y).2).map .errand) := by
    rw [Machine.step, replied]
  rw [← rest] at carries menusNamed inert
  have place : (m.step (.page (.userScroll y))).stage.current = m.stage.current := by
    rw [carries.current, stage]
    rfl
  have moves : (handAll (d.userScroll y).2).foldl (Errand.upon n) spy =
      spy.moved (d.page.changes spy.observed spy.band d.scrollY (d.page.clampScroll y)) := by
    rw [foldl_handAll, h.parcels distinct]
    cases d.page.changes spy.observed spy.band d.scrollY (d.page.clampScroll y) with
    | nil => rfl
    | cons e es => exact Spy.getD_receive? h.observing (e :: es)
  have shift := d.shifts_userScroll y
  constructor
  · exact inert
  · exact menusNamed
  · have before :
        (m.take (.page (.userScroll y))).stage.spies[n]? = some ⟨m.stage.current, spy⟩ := by
      rw [stage]
      exact h.found
    rw [carries.spies, before, Option.map_some, Mounted.carried, moves, place]
  · rw [carries.documents, place, stage, Stage.getElem?_setDocument h.document, if_pos rfl]
  · exact h.observing
  · simp only [Document.userScroll, Document.inform, List.filter_map, List.map_map,
      Function.comp_def]
    exact h.watch
  · exact shift.current distinct h.current

/-- Once it has begun to observe, the spy reads. -/
theorem Begun.observesAtRest {m' : Machine} (begun : Begun m m' n m.stage.current spy d)
    (document : m.stage.documents[m.stage.current]? = some d) (current : d.Current)
    (distinct : d.page.Distinct) (unwatched : ∀ w ∈ d.watches, w.owner ≠ .spy n) :
    ObservesAtRest m' n (underWay spy d) (d.observe (.spy n) (spy.present d) spy.band) where
  inert := begun.inert
  menusNamed := begun.menusNamed
  found := by rw [begun.spies, begun.current]
  document := by
    have bound := (List.getElem?_eq_some_iff.1 document).1
    rw [begun.documents, begun.current, List.getElem?_set_self bound]
  observing := rfl
  watch := by
    have none : d.watches.filter (·.owner = .spy n) = [] :=
      List.filter_eq_nil_iff.2 fun w member same ↦ unwatched w member (of_decide_eq_true same)
    simp only [Document.observe, List.filter_append, none, List.nil_append]
    simp [underWay, beginObserving]
  current := current.observe distinct _ _ _

theorem activeNotBelow_underWay (first : spy.active = spy.registry.first.id)
    (nonneg : 0 ≤ d.scrollY) :
    (underWay spy d).ActiveNotBelow d.page d.scrollY := by
  cases hit : ((d.page.hits spy.band d.scrollY).filter spy.registry.ids.contains).getLast? with
  | none =>
    refine .inl ?_
    rw [underWay, hit, Option.getD_none]
    exact first
  | some id =>
    have active : (underWay spy d).active = id := by rw [underWay, hit, Option.getD_some]
    obtain ⟨hit, registered⟩ := List.mem_filter.1 (List.mem_of_getLast? hit)
    obtain ⟨a, anchor, same, touches⟩ := d.page.exists_of_mem_hits _ _ hit
    refine .inr ?_
    rw [active]
    exact ⟨List.contains_iff_mem.1 registered, a, anchor, same,
      Page.reached_of_touches nonneg touches⟩

/-- The place in reading order of the section that spy `n` is on. -/
def Stage.position? (s : Stage) (n : Nat) : Option Nat :=
  s.spies[n]?.bind fun m ↦ m.part.registry.position? m.part.active

def Machine.along (m : Machine) : List Step → List Machine
  | [] => [m]
  | step :: steps => m :: (m.step step).along steps

/-- All the way down the spy moves on in reading order. -/
theorem ObservesAtRest.descends (h : ObservesAtRest m n spy d) (distinct : d.page.Distinct)
    (observed : ∀ id ∈ spy.observed, id ∈ spy.registry.ids)
    (order : (spy.registry.ids.filterMap d.page.anchorTop?).Pairwise (· ≤ ·))
    (activeNotBelow : spy.ActiveNotBelow d.page d.scrollY) (low : 0 ≤ d.scrollY)
    (high : d.scrollY ≤ d.page.maxScroll) {ys : List Length}
    (down : (d.scrollY :: ys).Pairwise (· ≤ ·)) :
    ∃ (i : Nat) (places : List Nat), spy.registry.position? spy.active = some i ∧
      (m.along (ys.map fun y ↦ .page (.userScroll y))).map (·.stage.position? n) =
        (i :: places).map some ∧
      (i :: places).IsChain (· ≤ ·) := by
  induction ys generalizing m spy d with
  | nil =>
    obtain ⟨i, position⟩ := activeNotBelow.exists_position
    refine ⟨i, [], position, ?_, .singleton i⟩
    simp [Machine.along, Stage.position?, h.found, position]
  | cons y ys ih =>
    obtain ⟨below, later⟩ := List.pairwise_cons.1 down
    obtain ⟨next, rest⟩ := List.pairwise_cons.1 later
    obtain ⟨above, under⟩ := Page.le_clampScroll low high (below y (.head _))
    obtain ⟨activeNotBelow, i, j, position, position', le⟩ :=
      activeNotBelow.changes distinct observed order low above
    obtain ⟨low, high⟩ := d.page.inRange_clampScroll y (Length.number_of_le under).1
    have down : ((d.userScroll y).1.scrollY :: ys).Pairwise (· ≤ ·) :=
      .cons (fun y' member ↦ Length.le_trans under (next y' member)) rest
    obtain ⟨i', places, start, along, chain⟩ :=
      ih (h.scroll distinct y) distinct observed order activeNotBelow low high down
    obtain rfl : j = i' := Option.some.inj (position'.symm.trans start)
    refine ⟨i, j :: places, position, ?_, .cons_cons le chain⟩
    rw [List.map_cons, Machine.along, List.map_cons, along]
    simp [Stage.position?, h.found, position]

/-- On a page whose anchors have different ids, every watch is up to date. -/
theorem History.current {may : Stage → Step → Prop} {past : List Move} {jobs : List Job}
    (run : History may past m jobs) : ∀ d ∈ m.stage.documents, d.page.Distinct → d.Current := by
  refine run.forall_documents ?_ ?_ ?_ ?_ ?_
  · intro page _ w member
    rw [page.watches_build] at member
    cases member
  · intro d d' h alike offset distinct
    have current := h (alike.page ▸ distinct)
    rwa [Document.Current, alike.page, alike.watches, offset]
  · intro d d' _ alike distinct
    exact Document.current_inform distinct
  · intro d o ids band h distinct
    exact (h distinct).observe distinct o ids band
  · intro d token h distinct w member
    exact h distinct w (List.mem_filter.1 member).1

/-- The spy has no watch on the document before it begins to observe. -/
theorem History.unwatched {may : Stage → Step → Prop} {past : List Move} {jobs : List Job} {k : Nat}
    (run : History may past m jobs) (found : m.stage.spies[n]? = some ⟨k, spy⟩)
    (idle : spy.phase = .idle) (document : m.stage.documents[k]? = some d) :
    ∀ w ∈ d.watches, w.owner ≠ .spy n := by
  intro w member owner
  have fresh : m.stage.Fresh n := by
    intro m' found'
    rw [← Option.some.inj (found.symm.trans found')]
    exact idle
  obtain ⟨token, stands⟩ :=
    Stage.stands_iff.2 ⟨w.ids, w.band, d, w, document, member, owner, rfl, rfl⟩
  exact run.kept.not_stands fresh stands

/-- Scrolling down never moves the highlight back. On a page whose anchors have different ids and
which has the anchors of the sections in reading order, a spy begins to observe at some offset and
the page is scrolled down from there: the place in reading order of the section that the spy is on
never decreases, from before it observes to the end. -/
theorem highlight_only_advances {may : Stage → Step → Prop} {past : List Move} {name : String}
    (run : History may past m []) (inert : m.Inert) (named : m.stage.names.spies.get? name = some n)
    (found : m.stage.spies[n]? = some ⟨m.stage.current, spy⟩)
    (document : m.stage.documents[m.stage.current]? = some d) (idle : spy.phase = .idle)
    (sound : m.stage.faults.observe = false) (distinct : d.page.Distinct)
    (order : (spy.registry.ids.filterMap d.page.anchorTop?).Pairwise (· ≤ ·))
    (start : d.scrollY.isNaN = false) {ys : List Length}
    (down : (d.scrollY :: ys).Pairwise (· ≤ ·)) :
    ∃ places : List Nat, (m.along (.spy name .observe :: ys.map fun y ↦ .page (.userScroll y))).map
        (·.stage.position? n) = places.map some ∧ places.Pairwise (· ≤ ·) := by
  have member := List.mem_of_getElem? document
  obtain ⟨low, high⟩ := (run.inRange d member).offset start
  have first := run.active_of_idle found idle
  have begun := inert.observe run.menusNamed named found document idle sound
  have observesAtRest :=
    begun.observesAtRest document (run.current d member distinct) distinct
      (run.unwatched found idle document)
  have observed : ∀ id ∈ (underWay spy d).observed, id ∈ (underWay spy d).registry.ids :=
    fun id member ↦ (List.mem_filter.1 member).1
  obtain ⟨i, places, -, along, chain⟩ :=
    observesAtRest.descends distinct observed order (activeNotBelow_underWay first low)
      low high down
  refine ⟨0 :: i :: places, ?_, List.isChain_iff_pairwise.1 (.cons_cons i.zero_le chain)⟩
  rw [Machine.along, List.map_cons, along]
  simp [Stage.position?, found, first, Registry.position?_first]

def nested : Blueprint where
  viewport := 100
  furnishings :=
    [.anchor "c" 300 20, .anchor "b" 50 40, .anchor "d" 300 500, .anchor "a" 0 200, .height 1000]

def midway : List Step :=
  [.page (.scrollTo 120 true), .page .frame, .spy "s" (.create ["a", "x", "b", "c", "d"] ⟨20, 80⟩),
    .listen (.spy "s") "l" [] 3]

theorem highlight_only_advances_nested : ∃ m past, ∃ (d : Document Receiver) (places : List Nat),
    Machine.journal? 50 midway (.opened nested) [] = some (m, past) ∧
    m.stage.documents[0]? = some d ∧
      d.scrollY = 42 ∧ (d.scrollY :: [60, 60, 290, 5000]).Pairwise (· ≤ ·) ∧
      (m.along (.spy "s" .observe :: [60, 60, 290, 5000].map fun y ↦ .page (.userScroll y))).map
        (·.stage.position? 0) = places.map some ∧ places.Pairwise (· ≤ ·) := by
  have checked : ∃ r ∈ Machine.journal? 50 midway (.opened nested) [],
      (∀ e ∈ r.2, Allows (fun _ _ ↦ True) e.machine.stage e.job) ∧
      (∀ p ∈ r.1.probes, p.left = 0 ∨ p.script.isEmpty) ∧ r.1.stage.names.spies.get? "s" = some 0 ∧
      r.1.stage.faults.observe = false ∧ r.1.stage.current = 0 ∧
      ∃ c ∈ r.1.stage.spies[0]?, c.document = 0 ∧ c.part.phase = .idle ∧
      ∃ d ∈ r.1.stage.documents[0]?, (d.page.anchors.map Anchor.id).Nodup ∧
        (c.part.registry.ids.filterMap d.page.anchorTop?).Pairwise (· ≤ ·) ∧ d.scrollY = 42 ∧
        (d.scrollY :: [60, 60, 290, 5000]).Pairwise (· ≤ ·) := by
    decide +kernel
  obtain ⟨⟨m, past⟩, kept, moves, quiet, named, sound, current, ⟨_, spy⟩, found, rfl, idle, d,
      document, distinct,
    order, offset, down⟩ := checked
  have current : m.stage.current = 0 := current
  have run := (History.opened nested).journal kept moves
  have inert : m.Inert := fun p member ↦ (quiet p member).imp_right List.isEmpty_iff.1
  have start : d.scrollY.isNaN = false := by
    rw [offset]
    decide +kernel
  have found' : m.stage.spies[0]? = some ⟨m.stage.current, spy⟩ := by
    rw [current]
    exact found
  have document' : m.stage.documents[m.stage.current]? = some d := by
    rw [current]
    exact document
  obtain ⟨places, along, advances⟩ :=
    highlight_only_advances run inert named found' document' idle sound distinct order start down
  exact ⟨m, past, d, places, kept, document, offset, down, along, advances⟩

end Session

end Wayfinder
