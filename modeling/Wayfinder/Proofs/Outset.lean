import Wayfinder.Proofs.Handover
import Wayfinder.Proofs.Highlight

namespace Wayfinder

namespace Page

variable (p : Page) (ids : List String) (band : Band) (y : Length)

theorem isSome_anchorTop? {a : Anchor} (member : a ∈ p.anchors) : (p.anchorTop? a.id).isSome := by
  rw [anchorTop?, Option.isSome_map, List.find?_isSome]
  exact ⟨a, member, decide_eq_true rfl⟩

theorem exists_of_mem_hits {id : String} (hit : id ∈ p.hits band y) :
    ∃ a ∈ p.anchors, a.id = id ∧ p.touches band y a := by
  obtain ⟨a, member, same⟩ := List.mem_map.1 hit
  obtain ⟨member, touches⟩ := List.mem_filter.1 (mem_sortBy.1 member)
  exact ⟨a, member, same, touches⟩

/-- The entries that say an anchor is in the band name the hits among the ids. -/
theorem entries_hits : ((p.entries ids band y).filter (·.intersecting)).map Entry.id =
    (p.hits band y).filter ids.contains := by
  have sections : p.anchorsOf ids = (sortBy Anchor.rank p.anchors).filter fun a ↦
      ids.contains a.id := sortBy_filter _
  have inside : sortBy Anchor.rank (p.anchors.filter (p.touches band y)) =
      (sortBy Anchor.rank p.anchors).filter (p.touches band y) := sortBy_filter _
  rw [entries, sections, hits, inside, List.filter_map, List.filter_map, List.map_map,
    List.filter_filter, List.filter_filter]
  congr 1
  refine List.filter_congr fun a _ ↦ ?_
  exact Bool.and_comm _ _

end Page

namespace Spy

variable {σ ω : Type} (s : Spy σ) (d : Document ω)

theorem present_hits : (d.page.hits s.band d.scrollY).filter (s.present d).contains =
    (d.page.hits s.band d.scrollY).filter s.registry.ids.contains := by
  refine List.filter_congr fun id hit ↦ ?_
  obtain ⟨a, member, rfl, -⟩ := d.page.exists_of_mem_hits _ _ hit
  simp [present, d.page.isSome_anchorTop? member]

theorem winner?_eq_getLast? (batch : List Entry) : s.winner? batch =
    (batch.filter fun e ↦ e.intersecting && s.observed.contains e.id).getLast?.map Entry.id := by
  rw [winner?, ← List.head?_filter, List.filter_reverse, List.head?_reverse]

/-- A spy that observes what is on the page is moved by its first batch to the last hit. -/
theorem winner?_first (observed : s.observed = s.present d) :
    s.winner? (d.firstBatch (s.present d) s.band) =
      ((d.page.hits s.band d.scrollY).filter s.registry.ids.contains).getLast? := by
  have known : (d.firstBatch (s.present d) s.band).filter
      (fun e ↦ e.intersecting && s.observed.contains e.id) =
      (d.firstBatch (s.present d) s.band).filter (·.intersecting) := by
    refine List.filter_congr fun e member ↦ ?_
    obtain ⟨a, there, rfl⟩ := List.mem_map.1 member
    simp [observed, (d.page.mem_anchorsOf.1 there).2]
  rw [winner?_eq_getLast?, known, ← List.getLast?_map, Document.firstBatch, Page.entries_hits,
    present_hits]

end Spy

namespace Session

variable {m : Machine} {name : String} {n k : Nat} {spy : Spy Hearer} {d : Document Receiver}

theorem foldl_handFirst (batch : List Entry) :
    (handFirst (.spy n) batch).foldl (Errand.upon n) spy = (spy.receive? batch).getD spy := by
  cases batch with
  | nil => simp [handFirst, Spy.receive?, Spy.winner?]
  | cons e batch => simp [handFirst, Errand.upon]

/-- The spy as it is when it has begun to observe and has got its first batch. -/
def underWay (spy : Spy Hearer) (d : Document Receiver) : Spy Hearer :=
  { beginObserving spy d with
    active :=
      ((d.page.hits spy.band d.scrollY).filter spy.registry.ids.contains).getLast?.getD spy.active
    watch := some d.nextToken }

theorem upon_underWay (o : Object) : (handFirst (.spy n) (d.firstBatch (spy.present d) spy.band) ++
      [Errand.keepWatch n (some d.nextToken), .letGo o]).foldl (Errand.upon n)
      (beginObserving spy d) =
    underWay spy d := by
  rw [List.foldl_append, foldl_handFirst]
  obtain ⟨id, moved⟩ := (beginObserving spy d).exists_active (d.firstBatch (spy.present d) spy.band)
  have active :=
    Spy.active_receive (s := beginObserving spy d) rfl (d.firstBatch (spy.present d) spy.band)
  have winner : (beginObserving spy d).winner? (d.firstBatch (spy.present d) spy.band) = _ :=
    (beginObserving spy d).winner?_first d rfl
  rw [winner, moved] at active
  rw [moved, underWay]
  have same : id = _ := active
  rw [same]
  simp [Errand.upon, beginObserving]

structure Begun (m m' : Machine) (n k : Nat) (spy : Spy Hearer) (d : Document Receiver) : Prop where
  spies : m'.stage.spies[n]? = some ⟨k, underWay spy d⟩
  documents : m'.stage.documents =
    m.stage.documents.set k (d.observe (.spy n) (spy.present d) spy.band)
  current : m'.stage.current = m.stage.current
  menusNamed : m'.stage.MenusNamed
  inert : m'.Inert

theorem Stage.observeSpy_of_idle {s : Stage} (found : s.spies[n]? = some ⟨k, spy⟩)
    (document : s.documents[k]? = some d) (idle : spy.phase = .idle)
    (sound : s.faults.observe = false) : s.observeSpy n =
      { stage :=
          (s.setSpy n (beginObserving spy d)).setDocument k
            (d.observe (.spy n) (spy.present d) spy.band)
        notes := spy.search d ++ [.asked (.observe (spy.present d) spy.band)]
        errands := handFirst (.spy n) (d.firstBatch (spy.present d) spy.band) ++
          [.keepWatch n (some d.nextToken)] } := by
  simp only [observeSpy, found, document, Option.bind_some, Spy.start?, if_pos idle, sound]
  rfl

theorem Machine.Inert.observe (inert : m.Inert) (menusNamed : m.stage.MenusNamed)
    (named : m.stage.names.spies.get? name = some n) (found : m.stage.spies[n]? = some ⟨k, spy⟩)
    (document : m.stage.documents[k]? = some d) (idle : spy.phase = .idle)
    (sound : m.stage.faults.observe = false) : Begun m (m.step (.spy name .observe)) n k spy d := by
  have begins : (m.stage.hold (.spy n)).observeSpy n = _ :=
    Stage.observeSpy_of_idle (s := m.stage.hold (.spy n)) found document idle sound
  have replied : m.reply (.spy name .observe) =
      ((m.stage.holding (.spy n) (·.observeSpy n)).reply .nothing) := by
    simp only [Machine.reply, Stage.perform, Stage.performSpy, Stage.onSpy, named, found]
  have called : m.stage.names.spies.any (· = n) := Table.any_of_get? named (decide_eq_true rfl)
  have stage : (m.take (.spy name .observe)).stage = ((m.stage.hold (.spy n)).setSpy n
      (beginObserving spy d)).setDocument k (d.observe (.spy n) (spy.present d) spy.band) := by
    rw [Machine.take, replied, Stage.holding, begins]
    rfl
  have errands :
      (m.reply (.spy name .observe)).errands =
        handFirst (.spy n) (d.firstBatch (spy.present d) spy.band) ++
      [.keepWatch n (some d.nextToken), .letGo (.spy n)] := by
    rw [replied, Stage.holding, begins]
    exact List.append_assoc _ _ _
  have light : ∀ t ∈ (m.reply (.spy name .observe)).errands,
      (m.take (.spy name .observe)).stage.isLight t := by
    rw [errands, stage]
    unfold handFirst
    split <;> simp [Stage.isLight] <;> exact called
  have menusNamed' : (m.take (.spy name .observe)).stage.MenusNamed := by
    rw [stage]
    exact menusNamed.congr rfl rfl
  obtain ⟨carries, menusNamed, inert⟩ := (inert.take rfl).carries menusNamed' light
  have mine : (m.take (.spy name .observe)).stage.spies[n]? = some ⟨k, beginObserving spy d⟩ := by
    rw [stage]
    refine (Stage.getElem?_setSpy (s := m.stage.hold (.spy n)) found n).trans ?_
    rw [if_pos rfl]
  refine ⟨?_, ?_, ?_, menusNamed, inert⟩
  · rw [Machine.step, carries.spies, mine, Option.map_some, Mounted.carried, errands, upon_underWay]
  · rw [Machine.step, carries.documents, stage]
    rfl
  · rw [Machine.step, carries.current, stage]
    rfl

/-- An idle spy has not left the first section. -/
theorem History.active_of_idle {may : Stage → Step → Prop} {past : List Move} {jobs : List Job}
    (run : History may past m jobs) (found : m.stage.spies[n]? = some ⟨k, spy⟩)
    (idle : spy.phase = .idle) :
    spy.active = spy.registry.first.id := by
  obtain ⟨d, -, placed⟩ := run.placed.2 found
  have unbegun := placed.idle idle
  have unobserved := placed.observed
  rw [unbegun, if_neg Bool.false_ne_true] at unobserved
  obtain first | observed := placed.active
  · exact first
  · rw [unobserved] at observed
    cases observed

/-- The first batch of a watch has the hits of its band among the watched ids as its intersecting
entries, in their order. A spy that begins to observe is on the last hit that is one of its
sections, or on the first of all if there is none. -/
theorem starts_on_last_hit :
    (∀ {ω : Type} (d : Document ω) (ids : List String) (band : Band),
      ((d.firstBatch ids band).filter (·.intersecting)).map Entry.id =
        (d.page.hits band d.scrollY).filter ids.contains) ∧
    ∀ {may : Stage → Step → Prop} {past : List Move} {m : Machine} {name : String} {n k : Nat}
    {spy : Spy Hearer}
      {d : Document Receiver}, History may past m [] → m.Inert →
      m.stage.names.spies.get? name = some n →
      m.stage.spies[n]? = some ⟨k, spy⟩ → m.stage.documents[k]? = some d → spy.phase = .idle →
      m.stage.faults.observe = false →
      ∃ spy', (m.step (.spy name .observe)).stage.spies[n]? = some ⟨k, spy'⟩ ∧ spy'.isObserving ∧
        spy'.active =
          ((d.page.hits spy.band d.scrollY).filter spy.registry.ids.contains).getLast?.getD
          spy.registry.first.id := by
  refine ⟨fun d ids band ↦ d.page.entries_hits ids band d.scrollY, ?_⟩
  intro may past m name n k spy d run inert named found document idle sound
  refine ⟨underWay spy d, (inert.observe run.menusNamed named found document idle sound).spies, rfl,
    ?_⟩
  rw [underWay, run.active_of_idle found idle]

def tangled : Blueprint where
  viewport := 100
  furnishings := [.anchor "b" 90 100, .anchor "a" 0 100, .anchor "x" 95 100, .anchor "b" 20 80,
    .anchor "c" (0 / 0) 10, .anchor "d" 85 (1 / 0), .height 1000]

def deepLink : List Step :=
  [.page (.userScroll 75), .spy "s" (.create ["d", "b", "c", "e", "a"] ⟨20, 80⟩),
    .listen (.spy "s") "l" [] 3]

theorem starts_on_last_hit_tangled : ∃ m past spy d,
    Machine.journal? 50 deepLink (.opened tangled) [] = some (m, past) ∧
    m.stage.spies[0]? = some ⟨0, spy⟩ ∧
      m.stage.documents[0]? = some d ∧ d.page.hits spy.band d.scrollY = ["a", "b", "d", "b", "x"] ∧
      ∃ spy', (m.step (.spy "s" .observe)).stage.spies[0]? = some ⟨0, spy'⟩ ∧
        spy'.active = "b" := by
  have checked : ∃ r ∈ Machine.journal? 50 deepLink (.opened tangled) [],
      (∀ e ∈ r.2, Allows (fun _ _ ↦ True) e.machine.stage e.job) ∧
      (∀ p ∈ r.1.probes, p.left = 0 ∨ p.script.isEmpty) ∧ r.1.stage.names.spies.get? "s" = some 0 ∧
      r.1.stage.faults.observe = false ∧ ∃ c ∈ r.1.stage.spies[0]?, c.document = 0 ∧
        c.part.phase = .idle ∧
      ∃ d ∈ r.1.stage.documents[0]?, d.page.hits c.part.band d.scrollY = ["a", "b", "d", "b", "x"] ∧
        (d.page.hits c.part.band d.scrollY).filter c.part.registry.ids.contains =
          ["a", "b", "d", "b"] := by
    decide +kernel
  obtain ⟨⟨m, past⟩, kept, moves, inert, named, sound, ⟨_, spy⟩, found, rfl, idle, d, document,
      hits, ours⟩ := checked
  have run := (History.opened tangled).journal kept moves
  have quiet : m.Inert := fun p member ↦ (inert p member).imp_right List.isEmpty_iff.1
  obtain ⟨spy', begun, -, active⟩ := starts_on_last_hit.2 run quiet named found document idle sound
  rw [ours] at active
  exact ⟨m, past, spy, d, kept, found, document, hits, spy', begun, active⟩

end Session

end Wayfinder
