import Wayfinder.Proofs.Redraw

namespace Wayfinder.Session

variable {s s' : Stage} {may : Stage → Job → Prop} {ts ts' : List Errand} {n : Nat}

def Stage.viewer? (s : Stage) (n : Nat) : Option Viewer := s.menus[n]?.bind Menu.viewer

theorem Stage.viewer?_eq_some {v : Viewer} :
    s.viewer? n = some v ↔ ∃ menu, s.menus[n]? = some menu ∧ menu.viewer = some v :=
  Option.bind_eq_some_iff

theorem Stage.viewer?_setMenu {menu menu' : Menu} (found : s.menus[n]? = some menu) (i : Nat) :
    (s.setMenu n menu').viewer? i = if i = n then menu'.viewer else s.viewer? i := by
  rw [viewer?, getElem?_setMenu found]
  split <;> rfl

theorem Stage.viewer?_listen {probe : Nat} {name : String} {v : Viewer}
    (seen : (s.performListen probe (.menu name)).stage.viewer? n = some v) :
    s.viewer? n = some v ∨ s.names.menus.get? name = some n ∧
      ∃ menu, s.menus[n]? = some menu ∧ v = ⟨probe, s.snapshot menu⟩ := by
  simp only [performListen, onMenu] at seen
  split at seen
  · exact .inl seen
  · rename_i i named
    split at seen
    · rename_i menu found
      rw [listenMenu, viewer?_setMenu found] at seen
      split at seen
      · subst n
        exact .inr ⟨named, menu, found, (Option.some.inj seen).symm⟩
      · exact .inl seen
    · exact .inl seen

theorem Stage.errands_listen {probe : Nat} {name : String} :
    (s.performListen probe (.menu name)).errands = [] := by
  simp only [performListen, onMenu]
  split
  · rfl
  · split <;> rfl

def Errand.bringsSnapshot : Errand → Bool
  | .call _ (.menu _) | .tell _ (.menu _) => true
  | _ => false

def NoSnapshots (ts : List Errand) : Prop := ∀ t ∈ ts, t.bringsSnapshot = false

theorem noSnapshots_cons {t : Errand} :
    NoSnapshots (t :: ts) ↔ t.bringsSnapshot = false ∧ NoSnapshots ts :=
  List.forall_mem_cons

theorem noSnapshots_append : NoSnapshots (ts ++ ts') ↔ NoSnapshots ts ∧ NoSnapshots ts' :=
  List.forall_mem_append

theorem noSnapshots_handAll (ds : List (Delivery Receiver)) : NoSnapshots (handAll ds) := by
  simp [NoSnapshots, handAll, Errand.bringsSnapshot]

theorem noSnapshots_handFirst (receiver : Receiver) (batch : List Entry) :
    NoSnapshots (handFirst receiver batch) := by
  unfold handFirst
  split <;> simp [NoSnapshots, Errand.bringsSnapshot]

theorem noSnapshots_tellAll (hearers : List Hearer) {news : Notice}
    (other : ∀ shown, news ≠ .menu shown) :
    NoSnapshots (tellAll hearers news) := by
  cases news <;> simp_all [NoSnapshots, tellAll, Errand.bringsSnapshot]

section Quiet

variable (redraws : ∀ s n, ¬ may s (.errand (.redraw n)))
include redraws

/-- Snapshots come from redraws only. -/
theorem Edit.noSnapshots (e : Edit may s ts s' ts') (quiet : NoSnapshots ts) : NoSnapshots ts' := by
  cases e with
  | skip | keepHandle | keepWatch | deaf | unseen | letGo => exact (noSnapshots_cons.1 quiet).2
  | @push t _ free =>
    refine noSnapshots_cons.2 ⟨?_, quiet⟩
    cases t <;> simp_all [Errand.isFree, Errand.bringsSnapshot]
  | handOn => exact noSnapshots_cons.2 ⟨rfl, (noSnapshots_cons.1 quiet).2⟩
  | @passOn ts probe news =>
    obtain ⟨other, quiet⟩ := noSnapshots_cons.1 quiet
    refine noSnapshots_cons.2 ⟨?_, quiet⟩
    cases news <;> simp_all [Errand.bringsSnapshot]
  | amend | openPage | faults | freeHandle | dropHandle | createStore | subscribeStore
  | unsubscribeStore | dropStore | createSpy | disposeSpy | subscribeSpy | unsubscribeSpy | dropSpy
  | createScroller | createMenu | createBare | shareMenu | disposeMenu | dropMenu | listenMenu =>
    exact quiet
  | inform | emit => exact noSnapshots_append.2 ⟨noSnapshots_handAll _, quiet⟩
  | watch | observe =>
    exact noSnapshots_append.2 ⟨noSnapshots_handFirst _ _, noSnapshots_cons.2 ⟨rfl, quiet⟩⟩
  | adopt | receive => exact noSnapshots_append.2 ⟨noSnapshots_tellAll _ (by simp), quiet⟩
  | animate | observeNothing | hold => exact noSnapshots_cons.2 ⟨rfl, quiet⟩
  | setOpen =>
    refine noSnapshots_append.2 ⟨?_, quiet⟩
    split <;> simp [NoSnapshots, Errand.bringsSnapshot]
  | tellMenu =>
    exact noSnapshots_cons.2 ⟨rfl, noSnapshots_cons.2 ⟨rfl, (noSnapshots_cons.1 quiet).2⟩⟩
  | redraw allowed => exact absurd allowed (redraws _ _)

theorem Edit.viewer? (e : Edit may s ts s' ts')
    (listens : ∀ s name label script limit,
      ¬ may s (.act (.listen (.menu name) label script limit)))
    {v : Viewer} (seen : s'.viewer? n = some v) : s.viewer? n = some v := by
  obtain ⟨menu, found, viewer⟩ := Stage.viewer?_eq_some.1 seen
  have change := e.menu found
  cases before : s.menus[n]? with
  | none =>
    rw [before] at change
    cases change with
    | made none => simp [none] at viewer
  | some menu' =>
    rw [before] at change
    refine Stage.viewer?_eq_some.2 ⟨menu', before, ?_⟩
    cases change with
    | kept _ same | retired _ same | disposed _ same => rw [← same, viewer]
    | redrawn _ allowed => exact absurd allowed (redraws _ _)
    | heard _ allowed => exact absurd allowed (listens _ _ _ _ _)

end Quiet

def Move.disposesMenu (e : Move) (n : Nat) : Bool :=
  match e.job with
  | .act (.menu name .dispose) => e.machine.stage.names.menus.get? name = some n
  | _ => false

/-- The snapshot that the move gives a listener to copy: the one it is called with, or the one that
its menu shows when it is set up. -/
def Move.shows (probe : Nat) (e : Move) : Option Snapshot :=
  match e.job with
  | .errand (.call p (.menu shown)) => if p = probe then some shown else none
  | .act (.listen (.menu name) _ _ _) =>
    if e.machine.probes.length = probe then
      ((e.machine.stage.names.menus.get? name).bind fun n ↦
        e.machine.stage.menus[n]?).map e.machine.stage.snapshot
    else none
  | _ => none

/-- The listener's copy after the moves of the past. -/
def mirror (probe : Nat) (past : List Move) : Option Snapshot := past.findSome? (Move.shows probe)

theorem mirror_of_shows {probe : Nat} {e : Move} {past : List Move} {shown : Snapshot}
    (h : e.shows probe = some shown) : mirror probe (e :: past) = some shown := by simp [mirror, h]

theorem mirror_of_shows_none {probe : Nat} {e : Move} {past : List Move}
    (h : e.shows probe = none) :
    mirror probe (e :: past) = mirror probe past := by simp [mirror, h]

section Runs

variable {may : Stage → Step → Prop} {past : List Move} {m m' : Machine}
  {jobs jobs' : List Job} {j : Job}

/-- Only a disposed menu stands without a subscription. -/
theorem History.exists_disposesMenu (run : History may past m jobs) {menu : Menu}
    (found : m.stage.menus[n]? = some menu) (alive : menu.alive) (token : menu.themeToken = none) :
    ∃ e ∈ past, e.disposesMenu n := by
  induction run generalizing n menu with
  | opened page => cases found
  | @turn past m m' jobs jobs' j run turn ih =>
    refine turn.edits_only.keep (I := fun s _ ↦ ∀ {n : Nat} {menu : Menu},
      s.menus[n]? = some menu → menu.alive →
      menu.themeToken = none → ∃ e ∈ ⟨m, jobs, j⟩ :: past, e.disposesMenu n) ?_ ?_ found alive token
    · intro s s' ts ts' e ih n menu found alive token
      have change := e.menu found
      cases before : s.menus[n]? with
      | none =>
        rw [before] at change
        cases change with
        | made _ subscribed =>
          have subscribed := subscribed alive
          simp [token] at subscribed
      | some menu' =>
        rw [before] at change
        cases change with
        | kept _ _ alive' token' => exact ih before (alive' ▸ alive) (token' ▸ token)
        | redrawn _ _ alive' token' => exact ih before (alive' ▸ alive) (token' ▸ token)
        | heard _ _ alive' token' => exact ih before (alive' ▸ alive) (token' ▸ token)
        | retired _ _ gone => simp [gone] at alive
        | disposed _ _ allowed named =>
          obtain ⟨rfl, rfl⟩ := allowed
          exact ⟨_, .head _, by simpa [Move.disposesMenu] using named⟩
    · intro n menu found alive token
      obtain ⟨e, h, disposes⟩ := ih found alive token
      exact ⟨e, .tail _ h, disposes⟩

structure Machine.Apart (m : Machine) : Prop where
  below : ∀ {n : Nat} {v : Viewer}, m.stage.viewer? n = some v → v.probe < m.probes.length
  apart : ∀ {i k : Nat} {v w : Viewer}, m.stage.viewer? i = some v → m.stage.viewer? k = some w →
    v.probe = w.probe → i = k

theorem Machine.Apart.mono (apart : m.Apart) (probes : m.probes.length ≤ m'.probes.length)
    (viewers : ∀ {n : Nat} {v : Viewer}, m'.stage.viewer? n = some v →
      ∃ w, m.stage.viewer? n = some w ∧ w.probe = v.probe) : m'.Apart where
  below seen := by
    obtain ⟨w, seen, same⟩ := viewers seen
    exact same ▸ Nat.lt_of_lt_of_le (apart.below seen) probes
  apart seen seen' same := by
    obtain ⟨w, seen, h⟩ := viewers seen
    obtain ⟨w', seen', h'⟩ := viewers seen'
    exact apart.apart seen seen' (by rw [h, h', same])

/-- Every listener of a menu has copied what it has seen, except that one may just be about to be
called. -/
inductive CopiesMatch (past : List Move) : Machine → List Job → Prop
  | told {m : Machine} {jobs : List Job} (apart : m.Apart) (quiet : NoSnapshots (errandsOf jobs))
      (told : ∀ {n : Nat} {v : Viewer}, m.stage.viewer? n = some v →
        mirror v.probe past = some v.seen) :
      CopiesMatch past m jobs
  | telling {m : Machine} {rest : List Job} {n : Nat} {v : Viewer} (apart : m.Apart)
      (quiet : NoSnapshots (errandsOf rest)) (seen : m.stage.viewer? n = some v)
      (told : ∀ {i : Nat} {w : Viewer}, m.stage.viewer? i = some w → i ≠ n →
        mirror w.probe past = some w.seen) :
        CopiesMatch past m (.errand (.call v.probe (.menu v.seen)) :: rest)

theorem Turn.copiesMatch_telling {rest : List Job} {v : Viewer}
    (turn : Turn may m (.errand (.call v.probe (.menu v.seen)) :: rest) j m' jobs')
    (apart : m.Apart) (quiet : NoSnapshots (errandsOf rest)) (seen : m.stage.viewer? n = some v)
    (told : ∀ {i : Nat} {w : Viewer}, m.stage.viewer? i = some w → i ≠ n →
      mirror w.probe past = some w.seen) :
    CopiesMatch (⟨m, .errand (.call v.probe (.menu v.seen)) :: rest, j⟩ :: past) m' jobs' := by
  cases turn with
  | errand silent => exact absurd rfl (silent _ _)
  | call script =>
    have stage := m.call_stage v.probe (.menu v.seen)
    refine .told (apart.mono (Nat.le_of_eq (m.probes_call _ _).symm) fun seen ↦
      ⟨_, stage ▸ seen, rfl⟩) ?_ ?_
    · simpa using quiet
    · intro i w seen'
      rw [stage] at seen'
      by_cases same : i = n
      · subst same
        obtain rfl : v = w := Option.some.inj (seen.symm.trans seen')
        exact mirror_of_shows (by simp [Move.shows])
      · have other : v.probe ≠ w.probe := fun h ↦ same (apart.apart seen' seen h.symm)
        rw [mirror_of_shows_none (by simp [Move.shows, other])]
        exact told seen' same

theorem Turn.copiesMatch_other (turn : Turn may m jobs j m' jobs') (apart : m.Apart)
    (quiet : NoSnapshots (errandsOf jobs))
    (told : ∀ {n : Nat} {v : Viewer}, m.stage.viewer? n = some v →
      mirror v.probe past = some v.seen)
    (redraws : ∀ n, j ≠ .errand (.redraw n))
    (listens : ∀ name label script limit, j ≠ .act (.listen (.menu name) label script limit)) :
    CopiesMatch (⟨m, jobs, j⟩ :: past) m' jobs' := by
  have redraws' (s : Stage) (n : Nat) (only : Only m.stage j s (.errand (.redraw n))) : False :=
    redraws n only.2.symm
  have listens' (s : Stage) (name label : String) (script : List Step) (limit : Nat)
      (only : Only m.stage j s (.act (.listen (.menu name) label script limit))) : False :=
    listens name label script limit only.2.symm
  have viewers : ∀ n v, m'.stage.viewer? n = some v → m.stage.viewer? n = some v :=
    turn.edits_only.keep (I := fun s _ ↦ ∀ n v, s.viewer? n = some v → m.stage.viewer? n = some v)
      (fun e ih n v seen ↦ ih n v (e.viewer? redraws' listens' seen)) fun _ _ seen ↦ seen
  have unshown (probe : Nat) : Move.shows probe ⟨m, jobs, j⟩ = none := by
    obtain ⟨s, rfl, -⟩ | ⟨t, rest, rfl, pending, -⟩ | ⟨⟨step, outcome, rfl⟩, -⟩ := turn.effect
    · cases s with
      | listen spot label script limit =>
        cases spot with
        | menu name => exact absurd rfl (listens name label script limit)
        | watch | store | spy => rfl
      | _ => rfl
    · cases t with
      | call probe notice =>
        cases notice with
        | menu shown =>
          rw [pending] at quiet
          cases (noSnapshots_cons.1 quiet).1
        | batch | theme | active => rfl
      | _ => rfl
    · rfl
  refine .told (apart.mono turn.length_probes fun seen ↦ ⟨_, viewers _ _ seen, rfl⟩) ?_ ?_
  · exact turn.edits_only.keep (I := fun _ ts ↦ NoSnapshots ts)
      (fun e quiet ↦ e.noSnapshots redraws' quiet) quiet
  · intro n v seen
    rw [mirror_of_shows_none (unshown v.probe)]
    exact told (viewers n v seen)

/-- A redraw changes what is seen, and the listener is called with it next. -/
theorem Turn.copiesMatch_redraw (turn : Turn may m jobs (.errand (.redraw n)) m' jobs')
    (apart : m.Apart) (quiet : NoSnapshots (errandsOf jobs))
    (told : ∀ {n : Nat} {v : Viewer}, m.stage.viewer? n = some v →
      mirror v.probe past = some v.seen) :
    CopiesMatch (⟨m, jobs, .errand (.redraw n)⟩ :: past) m' jobs' := by
  cases turn with
  | @errand _ rest silent =>
    have quiet := (noSnapshots_cons.1 quiet).2
    have done : m.advance (.errand (.redraw n)) =
      (m.apply (m.stage.redrawMenu n), (m.stage.redrawMenu n).errands.map .errand) := rfl
    rw [done, Stage.redrawMenu]
    split
    · exact .told ⟨apart.below, apart.apart⟩ quiet told
    · rename_i menu found
      split
      · exact .told ⟨apart.below, apart.apart⟩ quiet told
      · rename_i v viewer
        have seen : m.stage.viewer? n = some v := Stage.viewer?_eq_some.2 ⟨menu, found, viewer⟩
        have after (i : Nat) : (m.stage.setMenu n
            { menu with viewer := some { v with seen := m.stage.snapshot menu } }).viewer? i = _ :=
          Stage.viewer?_setMenu found i
        refine .telling (v := { v with seen := m.stage.snapshot menu })
          (apart.mono (Nat.le_refl _) ?_) quiet
          ((after n).trans (if_pos rfl)) ?_
        · intro i w seen'
          rw [Machine.apply, after] at seen'
          split at seen'
          · cases seen'
            subst i
            exact ⟨v, seen, rfl⟩
          · exact ⟨w, seen', rfl⟩
        · intro i w seen' other
          rw [Machine.apply, after, if_neg other] at seen'
          exact told seen'

theorem Turn.probes_listen {spot : Spot} {label : String} {script : List Step} {limit : Nat}
    (turn : Turn may m jobs (.act (.listen spot label script limit)) m' jobs') :
    m'.probes.length = m.probes.length + 1 := by
  cases turn with
  | step => simp [Machine.take, Machine.newProbe]
  | act => simp [Machine.advance, Machine.take, Machine.newProbe]

theorem Turn.copiesMatch_listen {name label : String} {script : List Step} {limit : Nat}
    (turn : Turn may m jobs (.act (.listen (.menu name) label script limit)) m' jobs')
    (apart : m.Apart) (quiet : NoSnapshots (errandsOf jobs))
    (told : ∀ {n : Nat} {v : Viewer}, m.stage.viewer? n = some v →
      mirror v.probe past = some v.seen) :
    CopiesMatch (⟨m, jobs, .act (.listen (.menu name) label script limit)⟩ :: past) m' jobs' := by
  have probes := turn.probes_listen
  obtain ⟨stage, errands⟩ := turn.effect_act
  have viewer {n : Nat} {v : Viewer} (seen : m'.stage.viewer? n = some v) :=
    Stage.viewer?_listen (stage ▸ seen)
  have errands' : errandsOf jobs' = errandsOf jobs := by
    rw [errands, Stage.perform, Stage.errands_listen, List.nil_append]
  refine .told ⟨fun seen ↦ ?_, fun seen seen' same ↦ ?_⟩ (errands' ▸ quiet) fun {n v} seen ↦ ?_
  · obtain seen | ⟨-, menu, -, rfl⟩ := viewer seen
    · have := apart.below seen
      omega
    · simp [probes]
  · obtain seen | ⟨named, menu, -, rfl⟩ := viewer seen <;>
      obtain seen' | ⟨named', menu', -, rfl⟩ := viewer seen'
    · exact apart.apart seen seen' same
    · have := apart.below seen
      simp [same] at this
    · have := apart.below seen'
      simp [← same] at this
    · exact Option.some.inj (named.symm.trans named')
  · obtain seen | ⟨named, menu, found, rfl⟩ := viewer seen
    · have other : m.probes.length ≠ v.probe := Nat.ne_of_gt (apart.below seen)
      rw [mirror_of_shows_none (by simp [Move.shows, other])]
      exact told seen
    · exact mirror_of_shows (by simp [Move.shows, named, found])

theorem Turn.copiesMatch (turn : Turn may m jobs j m' jobs') (h : CopiesMatch past m jobs) :
    CopiesMatch (⟨m, jobs, j⟩ :: past) m' jobs' := by
  cases h with
  | telling apart quiet seen told => exact turn.copiesMatch_telling apart quiet seen told
  | told apart quiet told =>
    by_cases redraws : ∃ n, j = .errand (.redraw n)
    · obtain ⟨n, rfl⟩ := redraws
      exact turn.copiesMatch_redraw apart quiet told
    · by_cases listens : ∃ name label script limit,
        j = .act (.listen (.menu name) label script limit)
      · obtain ⟨name, label, script, limit, rfl⟩ := listens
        exact turn.copiesMatch_listen apart quiet told
      · exact turn.copiesMatch_other apart quiet told (fun n h ↦ redraws ⟨n, h⟩)
          fun name label script limit h ↦ listens ⟨name, label, script, limit, h⟩

theorem History.copiesMatch (run : History may past m jobs) : CopiesMatch past m jobs := by
  induction run with
  | opened page =>
    refine .told ⟨?_, ?_⟩ (by simp [NoSnapshots]) ?_
    all_goals intros; contradiction
  | turn _ turn ih => exact turn.copiesMatch ih

/-- Whenever nothing is under way, the listener of every menu that is referred to and has not been
disposed has a true copy of what the menu shows. -/
theorem mirror_eq_snapshot {menu : Menu} {v : Viewer}
    (run : History (fun _ step ↦ step.keepsTokens) past m [])
    (found : m.stage.menus[n]? = some menu) (alive : menu.alive)
    (kept : ∀ e ∈ past, e.disposesMenu n = false) (viewer : menu.viewer = some v) :
    mirror v.probe past = some (m.stage.snapshot menu) := by
  have mirrored : Private m.stage ∧ Mirrored m.stage (Awaited []) :=
    run.keeps (I := fun s ts ↦ Private s ∧ Mirrored s (Awaited ts))
      (fun page ↦ ⟨private_opened page.build, mirrored_opened page.build⟩)
      fun e h ↦ ⟨h.1.edit e, h.2.edit h.1 (fun _ _ allowed ↦ allowed) e⟩
  have token : menu.themeToken.isSome := by
    refine Option.isSome_iff_ne_none.2 fun none ↦ ?_
    obtain ⟨e, h, disposes⟩ := run.exists_disposesMenu found alive none
    simp [kept e h] at disposes
  have shown : v.seen = m.stage.snapshot menu :=
    (mirrored.2.shown found alive token viewer).resolve_right (by simp [Awaited])
  cases run.copiesMatch with
  | told apart quiet told => rw [told (Stage.viewer?_eq_some.2 ⟨menu, found, viewer⟩), shown]

end Runs

def crossfire : List Step :=
  [.store "theme" (.create "theme"),
    .menu "contents" (.create "theme" [⟨"a", "A"⟩, ⟨"b", "B"⟩] 0 ⟨20, 80⟩),
    .menu "bar" (.createBare "theme"),
    .listen (.menu "contents") "reader" [.menu "bar" .toggle, .page (.userScroll 100),
      .store "theme" .toggle] 3,
    .listen (.menu "bar") "writer" [.menu "contents" .toggle, .menu "contents" .toggleTheme] 2,
    .menu "contents" .start,
    .menu "bar" .toggleTheme]

theorem mirror_eq_snapshot_crossfire :
    ∃ m past menu v, Machine.journal? 200 crossfire (.opened twoSections) [] = some (m, past) ∧
      m.stage.menus[0]? = some menu ∧ menu.alive ∧ (∀ e ∈ past, e.disposesMenu 0 = false) ∧
        menu.viewer = some v ∧ mirror v.probe past = some (m.stage.snapshot menu) := by
  have checked : ∃ r ∈ Machine.journal? 200 crossfire (.opened twoSections) [],
      (∀ e ∈ r.2, Allows (fun _ step ↦ step.keepsTokens) e.machine.stage e.job ∧
        e.disposesMenu 0 = false) ∧
      ∃ menu ∈ r.1.stage.menus[0]?, menu.alive ∧ menu.viewer.isSome := by decide +kernel
  obtain ⟨⟨m, past⟩, kept, moves, menu, found, alive, listened⟩ := checked
  obtain ⟨v, viewer⟩ := Option.isSome_iff_exists.1 listened
  have run := (History.opened twoSections).journal kept fun e h ↦ (moves e h).1
  refine ⟨m, past, menu, v, kept, found, alive, fun e h ↦ (moves e h).2, viewer, ?_⟩
  exact mirror_eq_snapshot run found alive (fun e h ↦ (moves e h).2) viewer

end Wayfinder.Session
