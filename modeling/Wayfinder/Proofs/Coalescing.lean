import Wayfinder.Proofs.Outset

namespace Wayfinder

theorem Spy.winner?_append {σ : Type} (s : Spy σ) (batch later : List Entry) :
    s.winner? (batch ++ later) = (s.winner? later).or (s.winner? batch) := by
  simp only [winner?_eq_getLast?, List.filter_append, List.getLast?_append, Option.map_or]

namespace Session

def Errand.telling : Errand → Option (Hearer × Notice)
  | .tell hearer news => some (hearer, news)
  | _ => none

def Job.telling : Job → Option (Hearer × Notice)
  | .errand t => t.telling
  | _ => none

def Errand.isSequel : Errand → Bool
  | .tell _ _ | .redraw _ | .call _ _ | .letGo _ => true
  | _ => false

/-- The sequels of a sequel tell no one. -/
theorem Stage.sequels_carry {s : Stage} {t : Errand} (sequel : t.isSequel) :
    ∀ t' ∈ (s.carry t).errands, t'.isSequel ∧ t'.telling = none := by
  cases t with
  | frames | observe | hand | keepWatch | keepHandle => cases sequel
  | tell hearer news =>
    cases hearer with
    | probe p => simp [carry, Errand.isSequel, Errand.telling]
    | menu i =>
      simp only [carry, tellMenu]
      split
      · simp
      · split <;> simp [Errand.isSequel, Errand.telling]
  | redraw i =>
    simp only [carry, redrawMenu]
    split
    · simp
    · split <;> simp [Errand.isSequel, Errand.telling]
  | call | letGo => simp [carry]

namespace Machine

/-- Who is told what while the jobs of an agenda are done and all that follows. -/
def told (m : Machine) (jobs : List Job) : List (Hearer × Notice) :=
  m.collect (fun _ j ↦ j.telling) jobs

def send (n : Nat) (m : Machine) (batch : List Entry) : Machine :=
  m.run [.errand (.hand (.spy n) batch)]

def rounds (n : Nat) (m : Machine) : List (List Entry) → List (List (Hearer × Notice))
  | [] => []
  | batch :: batches => m.told [.errand (.hand (.spy n) batch)] :: rounds n (m.send n batch) batches

variable {m : Machine} {n : Nat} {spy : Spy Hearer}

/-- What follows from telling someone tells no one else. -/
theorem Inert.told_sequels {ts : List Errand} (inert : m.Inert) (sequels : ∀ t ∈ ts, t.isSequel) :
    m.told (ts.map .errand) = ts.filterMap Errand.telling := by
  generalize same : ts.map Job.errand = jobs
  induction m, jobs using Machine.run.induct generalizing ts with
  | case1 m =>
    obtain rfl := List.map_eq_nil_iff.1 same
    exact collect_nil _
  | case2 m j jobs ih =>
    obtain ⟨t, ts, rfl, rfl, rfl⟩ := List.map_eq_cons_iff.1 same
    obtain ⟨-, follow, inert⟩ := inert.advance t
    have next := m.stage.sequels_carry (sequels t (.head _))
    have later : ∀ t' ∈ (m.stage.carry t).errands ++ ts, t'.isSequel := by
      intro t' member
      obtain member | member := List.mem_append.1 member
      · exact (next t' member).1
      · exact sequels t' (.tail _ member)
    have quiet : (m.stage.carry t).errands.filterMap Errand.telling = [] :=
      List.filterMap_eq_nil_iff.2 fun t' member ↦ (next t' member).2
    rw [told, collect_cons, ← told, ih inert later (by rw [follow, List.map_append]),
      List.filterMap_append, quiet, List.nil_append, List.filterMap_cons]
    cases heard : t.telling <;> simp [Job.telling, heard]

/-- Everyone in the list is told once if the spy moves, and else no one is. -/
theorem Inert.told_hand (inert : m.Inert) (n : Nat) (batch : List Entry) :
    m.told [.errand (.hand (.spy n) batch)] =
      (m.stage.handSpy n batch).errands.filterMap Errand.telling := by
  obtain ⟨-, follow, inert⟩ := inert.advance (.hand (.spy n) batch)
  have sequels : ∀ t ∈ (m.stage.handSpy n batch).errands, t.isSequel := by
    unfold Stage.handSpy
    split
    · simp
    · simp [tellAll, Errand.isSequel]
  rw [told, collect_cons, follow, List.append_nil]
  exact inert.told_sequels sequels

end Machine

/-- Every subscriber is told of the section once, if there is one to tell of. -/
def tellings (listeners : Subscribers Hearer) : Option String → List (Hearer × Notice)
  | some id => listeners.toList.map (·, .active id)
  | none => []

variable {m : Machine} {n k : Nat} {spy : Spy Hearer}

/-- One batch: the spy moves to where the batch says, and if that is elsewhere then everyone is
told. -/
theorem Machine.Inert.send (inert : m.Inert) (menusNamed : m.stage.MenusNamed)
    (found : m.stage.spies[n]? = some ⟨k, spy⟩) (observing : spy.phase = .observing)
    (batch : List Entry) :
    (m.send n batch).Inert ∧ (m.send n batch).stage.MenusNamed ∧
      (m.send n batch).stage.spies[n]? =
        some ⟨k, { spy with active := (spy.winner? batch).getD spy.active }⟩ ∧
      m.told [.errand (.hand (.spy n) batch)] = tellings spy.listeners
        (if (spy.winner? batch).getD spy.active = spy.active then none
          else (spy.winner? batch).getD spy.active) := by
  have light : ∀ t ∈ [Errand.hand (.spy n) batch], m.stage.isLight t := by simp [Stage.isLight]
  obtain ⟨carries, menusNamed, still⟩ := inert.carries menusNamed light
  have moved := Spy.active_receive observing batch
  obtain ⟨id, same⟩ := spy.exists_active batch
  refine ⟨still, menusNamed, ?_, ?_⟩
  · refine (carries.spies n).trans ?_
    rw [found, Option.map_some, ← moved, same]
    simp [Mounted.carried, Errand.upon, same]
  · rw [inert.told_hand, Stage.handSpy, found, Option.bind_some]
    cases received : spy.receive? batch with
    | none =>
      rw [received, Option.getD_none] at moved
      rw [if_pos moved.symm]
      rfl
    | some spy' =>
      obtain ⟨-, id, winner, differs, rfl⟩ := Spy.receive?_eq_some received
      rw [winner, Option.getD_some, if_neg differs]
      simp [tellAll, tellings, Errand.telling, List.filterMap_map, Function.comp_def]

/-- All batches: the spy moves at those that say so, each time to another section than before. -/
theorem Machine.Inert.sends (inert : m.Inert) (menusNamed : m.stage.MenusNamed)
    (found : m.stage.spies[n]? = some ⟨k, spy⟩) (observing : spy.phase = .observing)
    (batches : List (List Entry)) :
    (batches.foldl (Machine.send n) m).stage.spies[n]? =
        some ⟨k, { spy with active := (spy.winner? batches.flatten).getD spy.active }⟩ ∧
      ∃ moves : List (Option String), m.rounds n batches = moves.map (tellings spy.listeners) ∧
        (spy.active :: moves.filterMap id).IsChain (· ≠ ·) ∧
        (moves.filterMap id).getLast?.getD spy.active =
          (spy.winner? batches.flatten).getD spy.active := by
  induction batches generalizing m spy with
  | nil => exact ⟨found, [], rfl, .singleton _, rfl⟩
  | cons batch batches ih =>
    obtain ⟨inert, menusNamed, found, told⟩ := inert.send menusNamed found observing batch
    obtain ⟨last, moves, rounds, chain, final⟩ := ih inert menusNamed found observing
    have cut : (spy.winner? (batch :: batches).flatten).getD spy.active =
        (spy.winner? batches.flatten).getD ((spy.winner? batch).getD spy.active) := by
      rw [List.flatten_cons, Spy.winner?_append, Option.getD_or]
    rw [cut]
    refine ⟨last, ?_⟩
    rw [Machine.rounds, told]
    split
    · rename_i same
      rw [same] at chain final
      exact ⟨none :: moves, by rw [rounds]; rfl, chain, by rw [same]; exact final⟩
    · rename_i differs
      refine ⟨some ((spy.winner? batch).getD spy.active) :: moves, by rw [rounds]; rfl, ?_, ?_⟩
      · exact .cons_cons (Ne.symm differs) chain
      · rw [List.filterMap_cons, id, List.getLast?_cons, Option.getD_some]
        exact final

/-- Cut into any batches, entries lead a spy to the section that the last of them names which is
about an observed section in the band. A batch that moves the spy has each subscriber told once, and
other batches no one; each move is to another section than the one before, and the last one is to
where the spy ends up. -/
theorem cut_irrelevant {may : Stage → Step → Prop} {past : List Move} (run : History may past m [])
    (inert : m.Inert) (found : m.stage.spies[n]? = some ⟨k, spy⟩) (observing : spy.isObserving)
    (batches : List (List Entry)) :
    ∃ (spy' : Spy Hearer) (moves : List (Option String)),
      (batches.foldl (Machine.send n) m).stage.spies[n]? = some ⟨k, spy'⟩ ∧
      spy'.active =
        ((batches.flatten.filter fun e ↦ e.intersecting && spy.observed.contains e.id).getLast?.map
        Entry.id).getD spy.active ∧
      m.rounds n batches = moves.map (tellings spy.listeners) ∧
      (spy.active :: moves.filterMap id).IsChain (· ≠ ·) ∧
      (moves.filterMap id).getLast?.getD spy.active = spy'.active := by
  obtain ⟨last, moves, rounds, chain, final⟩ :=
    inert.sends run.menusNamed found (of_decide_eq_true observing) batches
  refine ⟨_, moves, last, ?_, rounds, chain, final⟩
  rw [Spy.winner?_eq_getLast?]

/-- What a page makes up is handed to everyone who watches it. -/
theorem Machine.step_emit {d : Document Receiver}
    (document : m.stage.documents[m.stage.current]? = some d) (batch : List Entry) :
    m.step (.page (.emit batch)) = m.run ((handAll (d.emit batch)).map .errand) := by
  have replied : m.reply (.page (.emit batch)) =
      { stage := m.stage, errands := handAll (d.emit batch) } := by
    simp only [Machine.reply, Stage.perform, Stage.performPage, Stage.onDocument, document,
      Stage.deliver, Stage.setDocument_self document]
  have taken : m.take (.page (.emit batch)) = m := by
    rw [Machine.take, replied]
    simp [Machine.apply, Machine.newProbe]
  rw [Machine.step, taken, replied]

/-- Batches made up on a page that only the spy watches are handed to the spy. -/
theorem Machine.Inert.emits {d : Document Receiver} (inert : m.Inert)
    (menusNamed : m.stage.MenusNamed) (document : m.stage.documents[m.stage.current]? = some d)
    (sole : d.watches.map Watch.owner = [.spy n]) (batches : List (List Entry)) :
    m.steps (batches.map fun batch ↦ .page (.emit batch)) = batches.foldl (Machine.send n) m := by
  have handed (batch : List Entry) : handAll (d.emit batch) = [.hand (.spy n) batch] := by
    have each : handAll (d.emit batch) = (d.watches.map Watch.owner).map (.hand · batch) := by
      simp [handAll, Document.emit]
    rw [each, sole]
    rfl
  induction batches generalizing m with
  | nil => rfl
  | cons batch batches ih =>
    have light : ∀ t ∈ [Errand.hand (.spy n) batch], m.stage.isLight t := by simp [Stage.isLight]
    obtain ⟨carries, menusNamed, inert⟩ := inert.carries menusNamed light
    have next := ih inert menusNamed (by rw [carries.documents, carries.current, document])
    rw [List.map_cons, Machine.steps, List.foldl_cons, List.foldl_cons,
      Machine.step_emit document, handed]
    exact next

def attended : List Step :=
  [.spy "s" (.create ["a", "b"] ⟨20, 80⟩), .listen (.spy "s") "l" [] 0, .listen (.spy "s") "k" [] 2,
    .spy "s" .observe]

def madeUp : List (List Entry) :=
  [[⟨"b", true⟩], [⟨"b", true⟩, ⟨"a", false⟩], [], [⟨"a", true⟩, ⟨"c", true⟩],
    [⟨"a", true⟩, ⟨"b", true⟩, ⟨"b", false⟩]]

theorem cut_irrelevant_madeUp : ∃ m past, ∃ (spy spy' : Spy Hearer) (moves : List (Option String)),
    Machine.journal? 50 attended (.opened twoSections) [] = some (m, past) ∧
      m.stage.spies[0]? = some ⟨0, spy⟩ ∧ spy.isObserving ∧ spy.active = "a" ∧
      spy.observed = ["a", "b"] ∧
      spy.listeners.toList = [.probe 0, .probe 1] ∧
      (m.steps (madeUp.map fun batch ↦ .page (.emit batch))).stage.spies[0]? = some ⟨0, spy'⟩ ∧
      spy'.active = "b" ∧
      m.rounds 0 madeUp = moves.map (tellings spy.listeners) ∧
      (spy.active :: moves.filterMap id).IsChain (· ≠ ·) ∧
      (moves.filterMap id).getLast?.getD spy.active = spy'.active := by
  have checked : ∃ r ∈ Machine.journal? 50 attended (.opened twoSections) [],
      (∀ e ∈ r.2, Allows (fun _ _ ↦ True) e.machine.stage e.job) ∧
      (∀ p ∈ r.1.probes, p.left = 0 ∨ p.script.isEmpty) ∧
      (∃ d ∈ r.1.stage.documents[r.1.stage.current]?, d.watches.map Watch.owner = [.spy 0]) ∧
      ∃ c ∈ r.1.stage.spies[0]?, c.document = 0 ∧ c.part.isObserving ∧ c.part.active = "a" ∧
        c.part.observed = ["a", "b"] ∧ c.part.listeners.toList = [.probe 0, .probe 1] := by
    decide +kernel
  obtain ⟨⟨m, past⟩, kept, moves, quiet, ⟨d, document, sole⟩, ⟨_, spy⟩, found, rfl, observing,
      first, observed,
    listeners⟩ := checked
  have run := (History.opened twoSections).journal kept moves
  have inert : m.Inert := fun p member ↦ (quiet p member).imp_right List.isEmpty_iff.1
  obtain ⟨spy', moves, last, active, rounds, chain, final⟩ :=
    cut_irrelevant run inert found observing madeUp
  refine ⟨m, past, spy, spy', moves, kept, found, observing, first, observed, listeners, ?_, ?_,
    rounds, chain, final⟩
  · rw [inert.emits run.menusNamed document sole]
    exact last
  · have observed : spy.observed = ["a", "b"] := observed
    have first : spy.active = "a" := first
    rw [active, observed, first]
    decide

end Session

end Wayfinder
