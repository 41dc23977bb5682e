import Wayfinder.Proofs.Enrolments
import Wayfinder.Proofs.Notices

namespace Wayfinder.Session

def Notice.concerns : Notice → Source → Bool
  | .theme _, .preference _ | .active _, .spy _ => true
  | _, _ => false

def Event.heard? : Event → Option (String × Notice)
  | .heard label news => some (label, news)
  | _ => none

/-- What the source tells its subscribers when it has just changed: its theme or its section. -/
def Stage.value? (s : Stage) : Source → Option Notice
  | .preference k => s.stores[k]?.map fun m ↦ .theme m.part.theme
  | .spy n => s.spies[n]?.map fun m ↦ .active m.part.active

/-- The job sets the value of the source: it loads or toggles the preference, or hands a batch to
the spy. -/
def Stage.Sets (s : Stage) (j : Job) : Source → Prop
  | .preference k => ∃ use, s.use? j = some (k, use)
  | .spy n => ∃ batch, j = .errand (.hand (.spy n) batch)

namespace Machine

def hearing (m : Machine) : Job → Option (Hearer × Notice)
  | .errand (.call p news) => m.probes[p]?.map fun _ ↦ (.probe p, news)
  | .errand (.tell (.menu n) news) => some (.menu n, news)
  | _ => none

def heard (m : Machine) (jobs : List Job) : List (Hearer × Notice) := m.collect hearing jobs

def noting (m : Machine) : Hearer × Notice → Option (String × Notice)
  | (.probe p, news) => m.probes[p]?.map fun probe ↦ (probe.label, news)
  | (.menu _, _) => none

/-- Who hears of the source as the job is done and all that follows. -/
def audience (m : Machine) (source : Source) (j : Job) : List (Hearer × Notice) :=
  (m.heard [j]).filter (·.2.concerns source)

end Machine

def Errand.owing (source : Source) : Errand → Option (Hearer × Notice)
  | .tell hearer news => if news.concerns source then some (hearer, news) else none
  | .call p news => if news.concerns source then some (.probe p, news) else none
  | _ => none

def Errand.spares : Source → Errand → Bool
  | .preference _, _ => true
  | .spy _, t => t.sparesSpies

variable {m : Machine} {t : Errand} {ts : List Errand} {source : Source} {n k : Nat}

theorem owing_tellAll (hearers : List Hearer) {news : Notice} (concerns : news.concerns source) :
    (tellAll hearers news).filterMap (Errand.owing source) = hearers.map (·, news) := by
  simp [tellAll, Errand.owing, concerns, List.filterMap_map, Function.comp_def]

theorem Stage.spares_of_carry {s : Stage} (spares : t.spares source) :
    ∀ t' ∈ (s.carry t).errands, t'.spares source := by
  cases source with
  | preference _ => exact fun _ _ ↦ rfl
  | spy _ => exact s.spares_carry spares

/-- Only those who are told of something lead to calls with news of the source. -/
theorem Stage.owing_carry_of_untold {s : Stage} (spares : t.spares source)
    (untold : ∀ hearer news, t ≠ .tell hearer news) :
    (s.carry t).errands.filterMap (Errand.owing source) = [] := by
  cases t with
  | tell hearer news => exact absurd rfl (untold hearer news)
  | redraw n =>
    simp only [carry, redrawMenu]
    split
    · rfl
    · split
      · rfl
      · cases source <;> rfl
  | hand receiver batch =>
    cases receiver with
    | probe p => cases source <;> rfl
    | spy n =>
      cases source with
      | spy _ => cases spares
      | preference k =>
        simp only [carry, handSpy]
        split
        · rfl
        · simp [tellAll, Errand.owing, Notice.concerns]
  | frames number left =>
    simp only [carry, advanceFrames]
    split
    · simp only [List.filterMap_append, handAll, List.filterMap_map]
      split <;> simp [Errand.owing, Function.comp_def]
    · rfl
  | observe n =>
    simp only [carry, observeSpy]
    split
    · rfl
    · split
      · rfl
      · simp only [List.filterMap_append]
        split <;> rfl
  | call | keepWatch | keepHandle | letGo => rfl

namespace Machine

theorem label_advance (j : Job) {p : Nat} {probe : Probe} (found : m.probes[p]? = some probe) :
    ∃ probe', (m.advance j).1.probes[p]? = some probe' ∧ probe'.label = probe.label := by
  cases j with
  | act step => exact ⟨probe, getElem?_append_of_some found _, rfl⟩
  | report => exact ⟨probe, found, rfl⟩
  | errand t =>
    by_cases called : ∃ i notice, t = .call i notice
    · obtain ⟨i, notice, rfl⟩ := called
      simp only [advance, call]
      split
      · exact ⟨probe, found, rfl⟩
      · rename_i q here
        split
        · exact ⟨probe, found, rfl⟩
        · rw [List.getElem?_set]
          split
          · rename_i same
            subst same
            cases here.symm.trans found
            rw [if_pos (List.getElem?_eq_some_iff.1 found).1]
            exact ⟨_, rfl, rfl⟩
          · exact ⟨probe, found, rfl⟩
    · rw [m.advance_errand fun i notice same ↦ called ⟨i, notice, same⟩]
      exact ⟨probe, found, rfl⟩

theorem label_run (jobs : List Job) {p : Nat} {probe : Probe} (found : m.probes[p]? = some probe) :
    ∃ probe', (m.run jobs).probes[p]? = some probe' ∧ probe'.label = probe.label := by
  induction m, jobs using run.induct generalizing probe with
  | case1 m => exact ⟨probe, m.run_nil.symm ▸ found, rfl⟩
  | case2 m j jobs ih =>
    obtain ⟨between, found, label⟩ := m.label_advance j found
    obtain ⟨last, found, same⟩ := ih found
    rw [run_cons]
    exact ⟨last, found, same.trans label⟩

theorem trace_advance (m : Machine) (j : Job) : (m.advance j).1.trace.filterMap Event.heard? =
    m.trace.filterMap Event.heard? ++ (m.hearing j).toList.filterMap m.noting := by
  have noted (notes : List Note) : (m.trace ++ notes.map Event.noted).filterMap Event.heard? =
      m.trace.filterMap Event.heard? := by
    rw [List.filterMap_append, List.filterMap_map]
    simp [Function.comp_def, Event.heard?]
  have unheard (none : (m.hearing j).toList.filterMap m.noting = []) :
      m.trace.filterMap Event.heard? ++ (m.hearing j).toList.filterMap m.noting =
        m.trace.filterMap Event.heard? := by
    rw [none, List.append_nil]
  cases j with
  | act step =>
    rw [unheard rfl]
    exact noted _
  | report step outcome =>
    rw [unheard rfl, advance, record, List.filterMap_append]
    exact List.append_nil _
  | errand t =>
    cases t with
    | call p news =>
      simp only [advance, call, hearing]
      cases found : m.probes[p]? with
      | none => simp
      | some probe =>
        have note : [(Hearer.probe p, news)].filterMap m.noting = [(probe.label, news)] := by
          simp [noting, found]
        dsimp only [Option.map_some, Option.toList_some]
        rw [note]
        split <;> simp [record, Event.heard?]
    | tell hearer news =>
      refine (noted _).trans (unheard ?_).symm
      cases hearer <;> rfl
    | _ => exact (noted _).trans (unheard rfl).symm

theorem trace_run (m : Machine) (jobs : List Job) : (m.run jobs).trace.filterMap Event.heard? =
    m.trace.filterMap Event.heard? ++ (m.heard jobs).filterMap (m.run jobs).noting := by
  induction m, jobs using run.induct with
  | case1 m => simp [heard]
  | case2 m j jobs ih =>
    rw [run_cons, ih, heard, heard, collect_cons, trace_advance, List.filterMap_append,
      List.append_assoc]
    congr 2
    refine List.filterMap_congr fun call member ↦ ?_
    have calling := Option.mem_toList.1 member
    obtain ⟨hearer, news⟩ := call
    cases hearer with
    | menu n => rfl
    | probe p =>
      obtain ⟨probe, found⟩ : ∃ probe, m.probes[p]? = some probe := by
        unfold hearing at calling
        split at calling
        · obtain ⟨probe, found, ⟨⟩⟩ := Option.map_eq_some_iff.1 calling
          exact ⟨probe, found⟩
        · cases calling
        · cases calling
      obtain ⟨between, found', label⟩ := m.label_advance j found
      obtain ⟨last, found'', label'⟩ := (m.advance j).1.label_run ((m.advance j).2 ++ jobs) found'
      rw [noting, noting, found, found'', Option.map_some, Option.map_some, label', label]

theorem length_probes_advance (m : Machine) (t : Errand) :
    (m.advance (.errand t)).1.probes.length = m.probes.length := by
  by_cases called : ∃ probe notice, t = .call probe notice
  · obtain ⟨probe, notice, rfl⟩ := called
    exact m.probes_call probe notice
  · rw [m.advance_errand fun probe notice same ↦ called ⟨probe, notice, same⟩]
    rfl

/-- An errand makes the call that it owes, or leaves it to the errands that follow from it. -/
theorem owing_carry (spares : t.spares source)
    (present : ∀ p news, t.owing source = some (.probe p, news) → p < m.probes.length) :
    ((m.hearing (.errand t)).toList.filter (·.2.concerns source)) ++
      (m.stage.carry t).errands.filterMap (Errand.owing source) = (t.owing source).toList := by
  cases t with
  | tell hearer news =>
    cases hearer with
    | probe p =>
      simp only [hearing, Stage.carry, Errand.owing]
      split <;> simp [*, Errand.owing]
    | menu n =>
      have silent : (m.stage.tellMenu n).errands.filterMap (Errand.owing source) = [] := by
        unfold Stage.tellMenu
        split
        · rfl
        · split <;> rfl
      rw [Stage.carry, silent]
      simp only [hearing, Errand.owing]
      split <;> simp [*]
  | call p news =>
    simp only [Errand.owing] at present ⊢
    split
    · rename_i concerns
      have there := List.getElem?_eq_getElem (present p news (by rw [if_pos concerns]))
      simp [hearing, there, Stage.carry, concerns]
    · rename_i other
      simp only [hearing, Stage.carry]
      cases m.probes[p]? <;> simp [other]
  | redraw | frames | observe | hand | keepWatch | keepHandle | letGo =>
    rw [Stage.owing_carry_of_untold spares (by simp)]
    rfl

/-- The calls that are owed are made, in order, and no others with news of the source. -/
theorem Inert.heard_errands (inert : m.Inert) (spares : ∀ t ∈ ts, t.spares source)
    (present : ∀ t ∈ ts, ∀ p news, t.owing source = some (.probe p, news) → p < m.probes.length) :
    (m.heard (ts.map .errand)).filter (·.2.concerns source) =
      ts.filterMap (Errand.owing source) := by
  -- along the run: what an errand owes is called at once, or is owed by the errands that it puts in
  -- front of the rest
  generalize same : ts.map Job.errand = jobs
  induction m, jobs using run.induct generalizing ts with
  | case1 m =>
    obtain rfl := List.map_eq_nil_iff.1 same
    rw [heard, collect_nil]
    rfl
  | case2 m j jobs ih =>
    obtain ⟨t, ts, rfl, rfl, rfl⟩ := List.map_eq_cons_iff.1 same
    obtain ⟨-, follow, inert⟩ := inert.advance t
    have owed := owing_carry (spares t (.head _)) (present t (.head _))
    have later : ∀ t' ∈ (m.stage.carry t).errands ++ ts, t'.spares source := by
      intro t' member
      obtain member | member := List.mem_append.1 member
      · exact Stage.spares_of_carry (spares t (.head _)) t' member
      · exact spares t' (.tail _ member)
    have still : ∀ t' ∈ (m.stage.carry t).errands ++ ts, ∀ p news, t'.owing source =
        some (.probe p, news) →
        p < (m.advance (.errand t)).1.probes.length := by
      intro t' member p news owes
      rw [m.length_probes_advance]
      obtain member | member := List.mem_append.1 member
      · have passed : (.probe p, news) ∈ (t.owing source).toList := by
          rw [← owed]
          exact List.mem_append_right _ (List.mem_filterMap.2 ⟨t', member, owes⟩)
        exact present t (.head _) p news (Option.mem_toList.1 passed)
      · exact present t' (.tail _ member) p news owes
    rw [heard, collect_cons, List.filter_append, ← heard,
      ih inert later still (by rw [follow, List.map_append]), List.filterMap_append,
        ← List.append_assoc, owed, List.filterMap_cons]
    cases t.owing source <;> rfl

theorem heard_reports {reports : List Job}
    (closing : ∀ x ∈ reports, ∃ step outcome, x = .report step outcome) :
    m.heard reports = [] := by
  induction reports generalizing m with
  | nil => exact collect_nil _
  | cons x reports ih =>
    obtain ⟨step, outcome, rfl⟩ := closing x (.head _)
    rw [heard, collect_cons]
    exact ih fun x member ↦ closing x (.tail _ member)

/-- Those who are told of the source are called, in order, and nobody else is with news of it. -/
theorem audience_of_told {j : Job} {hearers : List Hearer} {news : Notice} {others : List Errand}
    {reports : List Job} (silent : m.hearing j = none) (inert : (m.advance j).1.Inert)
    (agenda : (m.advance j).2 = (tellAll hearers news ++ others).map .errand ++ reports)
    (closing : ∀ x ∈ reports, ∃ step outcome, x = .report step outcome)
    (concerns : news.concerns source)
    (plain : ∀ t ∈ others, t.spares source ∧ t.owing source = none)
    (present : ∀ p, .probe p ∈ hearers → p < (m.advance j).1.probes.length) :
    m.audience source j = hearers.map (·, news) := by
  have owed : (tellAll hearers news ++ others).filterMap (Errand.owing source) =
      hearers.map (·, news) := by
    rw [List.filterMap_append, owing_tellAll hearers concerns,
      List.filterMap_eq_nil_iff.2 fun t member ↦ (plain t member).2, List.append_nil]
  have spares : ∀ t ∈ tellAll hearers news ++ others, t.spares source := by
    intro t member
    obtain member | member := List.mem_append.1 member
    · obtain ⟨hearer, -, rfl⟩ := List.mem_map.1 member
      cases source <;> rfl
    · exact (plain t member).1
  have known : ∀ t ∈ tellAll hearers news ++ others, ∀ p told, t.owing source =
      some (.probe p, told) →
      p < (m.advance j).1.probes.length := by
    intro t member p told owes
    have called : (.probe p, told) ∈ hearers.map (·, news) :=
      owed ▸ List.mem_filterMap.2 ⟨t, member, owes⟩
    obtain ⟨hearer, listed, ⟨⟩⟩ := List.mem_map.1 called
    exact present p listed
  rw [audience, heard, collect_cons, silent, Option.toList_none, List.nil_append,
    List.append_nil, agenda, collect_append, ← heard, ← heard, heard_reports closing,
      List.append_nil, inert.heard_errands spares known, owed]

end Machine

theorem Stage.concerns_of_value? {s : Stage} {news : Notice} (value : s.value? source = some news) :
    news.concerns source := by
  cases source with
  | preference k | spy n =>
    obtain ⟨_, -, rfl⟩ := Option.map_eq_some_iff.1 value
    rfl

/-- The job that sets the source calls nobody itself and sets up no listener. -/
theorem Stage.Sets.quiet {j : Job} (sets : m.stage.Sets j source) (inert : m.Inert) :
    m.hearing j = none ∧ (m.advance j).1.Inert ∧
    (m.advance j).1.probes.length = m.probes.length := by
  cases source with
  | spy n =>
    obtain ⟨batch, rfl⟩ := sets
    exact ⟨rfl, (inert.advance _).2.2, m.length_probes_advance _⟩
  | preference k =>
    obtain ⟨use, used⟩ := sets
    cases j with
    | errand | report => cases used
    | act step =>
      have none : Machine.newProbe step = [] := by
        cases step with
        | listen => cases used
        | _ => rfl
      refine ⟨rfl, inert.take none, ?_⟩
      rw [Machine.advance, Machine.take, none, List.append_nil]

/-- What the job that sets the source puts on the agenda: its subscribers are told, if the value has
changed. -/
theorem Stage.Sets.agenda {j : Job} {before after : Notice} (sets : m.stage.Sets j source)
    (preferencesExist : PreferencesExist m.stage) (was : m.stage.value? source = some before)
    (is : (m.advance j).1.stage.value? source = some after) :
    ∃ hearers others reports, (m.advance j).2 =
      (tellAll hearers after ++ others).map .errand ++ reports ∧
      (after = before → hearers = []) ∧ (after ≠ before → hearers = m.stage.hearers source) ∧
      (∀ t ∈ others, t.spares source ∧ t.owing source = none) ∧
      ∀ x ∈ reports, ∃ step outcome, x = .report step outcome := by
  cases source with
  | spy n =>
    obtain ⟨batch, rfl⟩ := sets
    obtain ⟨spy, found, rfl⟩ := Option.map_eq_some_iff.1 was
    have agenda : (m.advance (.errand (.hand (.spy n) batch))).2 =
        (m.stage.handSpy n batch).errands.map .errand := rfl
    have stage : (m.advance (.errand (.hand (.spy n) batch))).1.stage =
        (m.stage.handSpy n batch).stage := rfl
    rw [stage, Stage.handSpy, found, Option.bind_some] at is
    rw [agenda, Stage.handSpy, found, Option.bind_some]
    cases received : spy.part.receive? batch with
    | none =>
      simp only [received, value?, found, Option.map_some, Option.some.injEq] at is
      refine ⟨[], [], [], rfl, fun _ ↦ rfl, fun changed ↦ absurd is.symm changed, by simp, by simp⟩
    | some spy' =>
      obtain ⟨-, id, -, differs, rfl⟩ := Spy.receive?_eq_some received
      simp only [received, value?, getElem?_setSpy found, if_pos, Option.map_some,
        Option.some.injEq] at is
      subst is
      refine ⟨spy.part.listeners.toList, [], [], by simp, fun same ↦ ?_,
        fun _ ↦ (hearers_spy found).symm, by simp, by simp⟩
      exact absurd (Notice.active.inj same) differs
  | preference k =>
    obtain ⟨use, used⟩ := sets
    obtain ⟨step, rfl⟩ : ∃ step, j = .act step := by
      cases j with
      | act step => exact ⟨step, rfl⟩
      | errand | report => cases used
    obtain ⟨store, d, found, document⟩ := preferencesExist.use used
    obtain ⟨stores, -, others, errands, free⟩ := m.stage.perform_use m.probes.length used
    have agenda : (m.advance (.act step)).2 =
        (m.stage.perform m.probes.length step).errands.map .errand ++
        [.report step.name (m.reply step).outcome] := rfl
    have stage : (m.advance (.act step)).1.stage = (m.stage.perform m.probes.length step).stage :=
      rfl
    rw [value?, found, Option.map_some, Option.some.injEq] at was
    have stored : (m.advance (.act step)).1.stage.stores[k]? =
        some { store with part := (use.change store.part d m.stage.faults).preference } := by
      rw [stage, stores, changeStore_of_found found document]
      exact (getElem?_setStore found k).trans (if_pos rfl)
    rw [value?, stored, Option.map_some, Option.some.injEq] at is
    subst was is
    refine ⟨_, others,
      _, by rw [agenda, errands, errands_changeStore found document, use.told_change],
        fun same ↦ ?_,
      fun changed ↦ ?_, fun t member ↦ ⟨rfl, ?_⟩, by simp⟩
    · rw [if_pos (Notice.theme.inj same).symm]
    · rw [if_neg fun same ↦ changed (congrArg Notice.theme same.symm), hearers_preference found]
    · obtain free | ⟨o, rfl⟩ := free t member
      · cases t <;> first | rfl | cases free
      · rfl

/-- A spy stays where it is, unless it is handed a batch. -/
theorem Edit.outline? {may : Stage → Job → Prop} {s s' : Stage} {ts ts' : List Errand}
    {a : Registry × String} (e : Edit may s ts s' ts')
    (unhanded : ∀ batch, ¬ may s (.errand (.hand (.spy n) batch))) (old : s.outline? n = some a) :
    s'.outline? n = some a := by
  have same {s' : Stage} (spies : s'.spies = s.spies) : s'.outline? n = some a := by
    rw [Stage.outline?, spies]
    exact old
  have kept {s' : Stage} {i : Nat} {m : Mounted (Spy Hearer)} {spy : Spy Hearer}
      (found : s.spies[i]? = some m)
      (spies : s'.spies = (s.setSpy i spy).spies)
      (outline : n = i →
        (spy.registry, spy.active) = (m.part.registry, m.part.active)) : s'.outline? n =
          some a := by
    rw [Stage.outline?, spies, Stage.getElem?_setSpy found]
    split
    · rename_i here
      rw [← old, Stage.outline?, here, found, Option.map_some, outline here, Option.map_some]
    · exact old
  have added {s' : Stage} {m : Mounted (Spy Hearer)} (spies : s'.spies = s.spies ++ [m]) :
      s'.outline? n = some a := by
    obtain ⟨spy, found, outline⟩ := Option.map_eq_some_iff.1 old
    rw [Stage.outline?, spies, getElem?_append_of_some found, Option.map_some, outline]
  have reclaimed {s₁ : Stage} (o : Option Object) (before : s₁.outline? n = some a) :
      (s₁.reclaimOld o).outline? n = some a := by
    cases o with
    | none => exact before
    | some o => exact (Stage.outline?_reclaim o n).trans before
  cases e with
  | skip | push | animate | handOn | passOn | amend | inform | emit | openPage | faults | watch
  | createStore | adopt | subscribeStore | dropStore | createScroller | setOpen | listenMenu
  | tellMenu | deaf | redraw | unseen | hold => exact same rfl
  | keepHandle | freeHandle | dropHandle => exact same (Stage.spies_disconnect _)
  | unsubscribeStore =>
    unfold Stage.unsubscribeStore
    split <;> exact same rfl
  | keepWatch =>
    unfold Stage.keepWatch
    split
    · exact same rfl
    · exact kept ‹_› rfl fun _ ↦ rfl
  | subscribeSpy found | unsubscribeSpy found | observe found | observeNothing found =>
    exact kept found rfl fun _ ↦ rfl
  | @receive _ i _ batch _ found moved allowed =>
    refine kept found rfl fun here ↦ ?_
    exact absurd (here ▸ allowed) (unhanded batch)
  | disposeSpy => exact (Stage.outline?_disposeSpy _ n).trans old
  | disposeMenu => exact (Stage.outline?_releaseMenu _ n).trans old
  | createBare | shareMenu => exact reclaimed _ (same rfl)
  | dropSpy | dropMenu | letGo => exact reclaimed (some _) (same rfl)
  | createSpy | createMenu => exact reclaimed _ (added rfl)

section Runs

variable {may : Stage → Step → Prop} {past : List Move} {m' : Machine}
  {jobs jobs' : List Job} {j : Job} {before after : Notice}

/-- The value of a source changes only where it is set. -/
theorem Turn.sets_of_changed (turn : Turn may m jobs j m' jobs')
    (preferencesExist : PreferencesExist m.stage) (was : m.stage.value? source = some before)
    (is : m'.stage.value? source = some after) (changed : after ≠ before) :
    m.stage.Sets j source := by
  by_contra unset
  cases source with
  | preference k =>
    obtain ⟨store, found, rfl⟩ := Option.map_eq_some_iff.1 was
    obtain ⟨-, grows⟩ | ⟨i, use, other, d, used, found', -, stores, -⟩ :=
      turn.stores preferencesExist
    · obtain ⟨store', present, same⟩ := grows.old found
      rw [Stage.value?, present, Option.map_some, same.theme] at is
      exact changed (Option.some.inj is).symm
    · have elsewhere : k ≠ i := by
        rintro rfl
        exact unset ⟨use, used⟩
      rw [Stage.value?, stores, Stage.getElem?_setStore found', if_neg elsewhere, found] at is
      exact changed (Option.some.inj is).symm
  | spy n =>
    obtain ⟨spy, found, rfl⟩ := Option.map_eq_some_iff.1 was
    have stays : m'.stage.outline? n = some (spy.part.registry, spy.part.active) := by
      refine turn.edits_only.keep (I :=
        fun s _ ↦ s.outline? n = some (spy.part.registry, spy.part.active))
        (fun e old ↦ e.outline? ?_ old) (by rw [Stage.outline?, found, Option.map_some])
      rintro batch ⟨-, rfl⟩
      exact unset ⟨batch, rfl⟩
    obtain ⟨spy', found', outline⟩ := Option.map_eq_some_iff.1 stays
    rw [Stage.value?, found', Option.map_some, (Prod.mk.inj outline).2] at is
    exact changed (Option.some.inj is).symm

theorem History.hearers_eq (run : History may past m jobs) (source : Source) :
    m.stage.hearers source = (inForce source past).map Prod.snd := by
  rw [← m.stage.toList_ledger, Subscribers.toList, run.entries_ledger]

/-- Subscriptions are exact. In any run, whatever tokens subscriptions are ended by, the tokens of a
preference or of a spy are the numbers from 0 on, so that none is given out twice, and each listener
gets to know its own. Where the listeners take no steps, each change of the theme or of the section
calls those whose subscription has been made and not ended, each of them once, in the order in which
they subscribed and with the new value; and setting it to what it was already calls no one. Of the
calls that are made, listeners note down each. -/
theorem audience_of_change (run : History may past m jobs) (inert : m.Inert) (source : Source) :
    (enrolments source past).map Prod.fst = List.range (enrolments source past).length ∧
    (∀ (e : Move) (step : Step) (token p : Nat), e ∈ past → e.job = .act step →
      e.enrols source = some (token, .probe p) → e.machine.outcome step = .token token) ∧
    (∀ j : Job, (m.run [j]).trace.filterMap Event.heard? =
      m.trace.filterMap Event.heard? ++ (m.heard [j]).filterMap (m.run [j]).noting) ∧
    ∀ (j : Job) (before after : Notice), m.stage.value? source = some before →
      (m.advance j).1.stage.value? source = some after →
      (after ≠ before → m.stage.Sets j source ∧
        m.audience source j = (inForce source past).map fun subscription ↦
          (subscription.2, after)) ∧
      (after = before → m.stage.Sets j source → m.audience source j = []) := by
  refine ⟨run.map_fst_enrolments source,
    fun e step token p made job enrols ↦ run.outcome_listen made job enrols,
    fun j ↦ m.trace_run [j], ?_⟩
  intro j before after was is
  have turn : Turn (fun _ _ ↦ True) m [j] j _ _ := .advance (by cases j <;> trivial)
  have told (sets : m.stage.Sets j source) :
      ∃ hearers, m.audience source j = hearers.map (·, after) ∧
      (after = before → hearers = []) ∧
      (after ≠ before → hearers = (inForce source past).map Prod.snd) := by
    obtain ⟨silent, quiet, probes⟩ := sets.quiet inert
    obtain ⟨hearers, others, reports, agenda, same, changed, plain, closing⟩ :=
      sets.agenda run.preferencesExist was is
    rw [run.hearers_eq source] at changed
    refine ⟨hearers, ?_, same, changed⟩
    refine Machine.audience_of_told silent quiet agenda closing (Stage.concerns_of_value? is) plain
      fun p listed ↦ ?_
    rw [probes]
    by_cases still : after = before
    · rw [same still] at listed
      cases listed
    · rw [changed still] at listed
      obtain ⟨⟨token, _⟩, stands, rfl⟩ := List.mem_map.1 listed
      exact run.lt_probes (List.mem_of_mem_filter stands)
  constructor
  · intro changed
    have sets := turn.sets_of_changed run.preferencesExist was is changed
    obtain ⟨hearers, audience, -, all⟩ := told sets
    refine ⟨sets, ?_⟩
    rw [audience, all changed, List.map_map]
    rfl
  · intro same sets
    obtain ⟨hearers, audience, none, -⟩ := told sets
    rw [audience, none same, List.map_nil]

end Runs

def cameAndWent : List Step :=
  [.store "p" (.create "theme"),
    .listen (.store "p") "a" [] 0, .store "p" (.unsubscribe 7), .listen (.store "p") "b" [] 0,
    .menu "v" (.create "p" [⟨"a", "A"⟩, ⟨"b", "B"⟩] 0 ⟨20, 80⟩),
    .store "p" (.unsubscribe 0), .store "p" (.unsubscribe 0), .listen (.store "p") "c" [] 0,
    .menu "w" (.createBare "p"), .menu "v" .dispose,
    .spy "s" (.create ["a", "b"] ⟨20, 80⟩),
    .spy "s" (.unsubscribe 0), .listen (.spy "s") "x" [] 0, .listen (.spy "s") "y" [] 0,
    .spy "s" (.unsubscribe 0), .spy "s" (.unsubscribe 0), .listen (.spy "s") "z" [] 0,
    .spy "s" .observe]

theorem audience_of_change_cameAndWent :
    ∃ (m : Machine) (past : List Move),
      Machine.journal? 50 cameAndWent (.opened twoSections) [] = some (m, past) ∧ m.Inert ∧
      (enrolments (.preference 0) past).map Prod.fst = [0, 1, 2, 3, 4] ∧
      m.audience (.preference 0) (.act (.store "p" .toggle)) =
        [(.probe 1, .theme .dark), (.probe 2, .theme .dark), (.menu 1, .theme .dark)] ∧
      m.audience (.preference 0) (.act (.store "p" .load)) = [] ∧
      (enrolments (.spy 1) past).map Prod.fst = [0, 1, 2] ∧
      m.audience (.spy 1) (.errand (.hand (.spy 1) [⟨"b", true⟩])) =
        [(.probe 4, .active "b"), (.probe 5, .active "b")] ∧
      m.audience (.spy 1) (.errand (.hand (.spy 1) [⟨"a", true⟩])) = [] := by
  have checked :
      ∃ r : Machine × List Move, r ∈ Machine.journal? 50 cameAndWent (.opened twoSections) [] ∧
      r.1.Inert ∧
      ((enrolments (.preference 0) r.2).length = 5 ∧
        inForce (.preference 0) r.2 = [(1, .probe 1), (3, .probe 2), (4, .menu 1)]) ∧
      ((enrolments (.spy 1) r.2).length = 3 ∧
        inForce (.spy 1) r.2 = [(1, .probe 4), (2, .probe 5)]) ∧
      (r.1.stage.stores[0]?.map (·.part.theme) = some .light ∧
        (r.1.advance (.act (.store "p" .toggle))).1.stage.stores[0]?.map (·.part.theme) =
          some .dark ∧
        (r.1.advance (.act (.store "p" .load))).1.stage.stores[0]?.map (·.part.theme) =
          some .light ∧
        r.1.stage.names.stores.get? "p" = some 0) ∧
      r.1.stage.spies[1]?.map (·.part.active) = some "a" ∧
      (r.1.advance (.errand (.hand (.spy 1) [⟨"b", true⟩]))).1.stage.spies[1]?.map (·.part.active) =
        some "b" ∧
      (r.1.advance (.errand (.hand (.spy 1) [⟨"a", true⟩]))).1.stage.spies[1]?.map (·.part.active) =
        some "a" := by
    decide +kernel
  obtain ⟨⟨m, past⟩, kept, inert, ⟨five, themed⟩, ⟨three, placed⟩, ⟨light, dark, still, named⟩,
      first, second, stays⟩ :=
    checked
  have run : History (fun _ _ ↦ True) past m [] :=
    (History.opened twoSections).journal kept fun e _ ↦ by cases e.job <;> trivial
  have theme {s : Stage} {t : Theme} (shown : s.stores[0]?.map (·.part.theme) = some t) :
      s.value? (.preference 0) = some (.theme t) := by
    rw [Stage.value?, ← Option.map_some (f := Notice.theme), ← shown, Option.map_map]
    rfl
  have active {s : Stage} {id : String} (shown : s.spies[1]?.map (·.part.active) = some id) :
      s.value? (.spy 1) = some (.active id) := by
    rw [Stage.value?, ← Option.map_some (f := Notice.active), ← shown, Option.map_map]
    rfl
  obtain ⟨tokens, -, -, change⟩ := audience_of_change run inert (.preference 0)
  obtain ⟨tokens', -, -, change'⟩ := audience_of_change run inert (.spy 1)
  refine ⟨m, past, kept, inert, ?_, ?_, ?_, ?_, ?_, ?_⟩
  · rw [tokens, five]
    rfl
  · rw [((change _ _ _ (theme light) (theme dark)).1 (by simp)).2, themed]
    rfl
  · exact (change _ _ _ (theme light) (theme still)).2 rfl ⟨.load, by simp [Stage.use?, named]⟩
  · rw [tokens', three]
    rfl
  · rw [((change' _ _ _ (active first) (active second)).1 (by simp)).2, placed]
    rfl
  · exact (change' _ _ _ (active first) (active stays)).2 rfl ⟨_, rfl⟩

end Wayfinder.Session
