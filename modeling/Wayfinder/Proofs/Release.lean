import Wayfinder.Proofs.Ownership
import Wayfinder.Proofs.Watches

namespace Wayfinder

theorem Table.any_of_get? {α : Type} {t : Table α} {key : String} {a : α} {p : α → Bool}
    (given : t.get? key = some a) (holds : p a) : t.any p := by
  obtain ⟨entries⟩ := t
  simp only [get?, any] at given ⊢
  induction entries with
  | nil => simp at given
  | cons e entries ih =>
    obtain ⟨name, value⟩ := e
    rw [List.lookup_cons] at given
    split at given
    · cases given
      simp [holds]
    · simp [ih given]

namespace Session

def Errand.givesWatch (n : Nat) : Errand → Bool
  | .keepWatch k (some _) => k = n
  | _ => false

theorem Errand.givesWatch_keepWatch (n k : Nat) (w : Option Nat) :
    givesWatch n (.keepWatch k w) = (decide (k = n) && w.isSome) := by cases w <;> simp [givesWatch]

theorem any_keepings (ts : List Errand) (n : Nat) :
    (keepings ts).any (Errand.givesWatch n) = ts.any (Errand.givesWatch n) := by
  rw [keepings, List.any_filter]
  congr 1
  funext t
  cases t <;> simp [Errand.isKeeping, Errand.givesWatch]

theorem any_givesWatch {ts : List Errand} {n : Nat} :
    ts.any (Errand.givesWatch n) ↔ ∃ t, .keepWatch n (some t) ∈ ts := by
  rw [List.any_eq_true]
  constructor
  · rintro ⟨t, member, gives⟩
    cases t with
    | keepWatch k w =>
      cases w with
      | none => cases gives
      | some t =>
        obtain rfl : k = n := by simpa [Errand.givesWatch] using gives
        exact ⟨t, member⟩
    | _ => cases gives
  · rintro ⟨t, member⟩
    exact ⟨_, member, by simp [Errand.givesWatch]⟩

namespace Stage

variable {s s' : Stage} {ts ts' : List Errand} {k n : Nat} {name : String}

/-- What a spy is about, and whether it has a watch or is about to be given one. -/
def phaseAndWatch (s : Stage) (ts : List Errand) (n : Nat) : Option (Spy.Phase × Bool) :=
  (s.post? n).map fun p ↦ (p.phase, p.watch.isSome || (keepings ts).any (Errand.givesWatch n))

theorem phaseAndWatch_congr (post : s'.post? n = s.post? n)
    (pending : (keepings ts').any (Errand.givesWatch n) = (keepings ts).any (Errand.givesWatch n)) :
    s'.phaseAndWatch ts' n = s.phaseAndWatch ts n := by
  rw [phaseAndWatch, phaseAndWatch, post, pending]

theorem post?_disconnect (link : Option Link) : (s.disconnect link).post? n = s.post? n := by
  rw [post?, spies_disconnect, post?]

theorem post?_disposeSpy_of_ne (other : n ≠ k) : (s.disposeSpy k).post? n = s.post? n := by
  unfold disposeSpy
  split
  · rfl
  · rename_i m found
    rw [post?_disconnect, post?_setSpy found, if_neg other]

theorem post?_reclaimOld {o : Option Object} (named : s.names.spies.get? name = some n)
    (apart : ∀ {i : Nat} {m : Menu} {c : Contents}, s.menus[i]? = some m → m.contents = some c →
      c.spy ≠ n) :
    (s.reclaimOld o).post? n = s.post? n := by
  refine reclaimOld_ind (P := fun s' ↦ s'.post? n = s.post? n) rfl (fun h ↦ h) (fun h ↦ h) ?_
  intro o' k _ unheld owns
  refine post?_disposeSpy_of_ne ?_
  rintro rfl
  cases o' with
  | spy k =>
    subst owns
    simp [isHeld, isNamed, Table.any_of_get? named] at unheld
  | menu i =>
    obtain ⟨m, c, found, contents, same⟩ := owns
    exact apart found contents same

theorem post?_releaseMenu {i : Nat}
    (apart : ∀ {i : Nat} {m : Menu} {c : Contents}, s.menus[i]? = some m → m.contents = some c →
      c.spy ≠ n) :
    (s.releaseMenu i).post? n = s.post? n := by
  refine releaseMenu_ind (P := fun s' ↦ s'.post? n = s.post? n) rfl (fun h ↦ h) (fun h ↦ h)
    fun k owns ↦ ?_
  obtain ⟨m, c, found, contents, rfl⟩ := owns
  exact post?_disposeSpy_of_ne (Ne.symm (apart found contents))

theorem post?_setSpy_same {m : Mounted (Spy Hearer)} {spy : Spy Hearer}
    (found : s.spies[k]? = some m) (phase : spy.phase = m.part.phase)
    (watch : spy.watch = m.part.watch) :
    (s.setSpy k spy).post? n = s.post? n := by
  rw [post?_setSpy found]
  split
  · subst n
    rw [post?_of_found found, phase, watch, Mounted.post]
  · rfl

end Stage

inductive PhaseAndWatchChange : Option (Spy.Phase × Bool) → Option (Spy.Phase × Bool) → Prop
  | same {l : Option (Spy.Phase × Bool)} : PhaseAndWatchChange l l
  | made : PhaseAndWatchChange none (some (.idle, false))
  | begun {live : Bool} : PhaseAndWatchChange (some (.idle, false)) (some (.observing, live))

variable {may : Stage → Job → Prop} {s s' : Stage} {ts ts' : List Errand} {n : Nat} {name : String}

theorem PhaseAndWatchChange.of_post (post : s'.post? n = s.post? n)
    (pending : (keepings ts').any (Errand.givesWatch n) = (keepings ts).any (Errand.givesWatch n)) :
    PhaseAndWatchChange (s.phaseAndWatch ts n) (s'.phaseAndWatch ts' n) :=
  Stage.phaseAndWatch_congr post pending ▸ .same

theorem PhaseAndWatchChange.reclaimOld {l : Option (Spy.Phase × Bool)} {o : Option Object}
    (change : PhaseAndWatchChange l (s.phaseAndWatch ts n))
    (named : (s.reclaimOld o).names.spies.get? name = some n)
    (apart : ∀ {i : Nat} {m : Menu} {c : Contents}, s.menus[i]? = some m → m.contents = some c →
      c.spy ≠ n) :
    PhaseAndWatchChange l ((s.reclaimOld o).phaseAndWatch ts n) := by
  rw [Stage.names_reclaimOld] at named
  rwa [Stage.phaseAndWatch_congr (Stage.post?_reclaimOld named apart) rfl]

/-- A spy that begins to observe was idle without a watch; no other spy is touched. -/
theorem PhaseAndWatchChange.beginObserving {k : Nat} {m : Mounted (Spy Hearer)}
    {d : Document Receiver} {w : Option Nat} (kept : Kept s (keepings ts))
    (found : s.spies[k]? = some m) (idle : m.part.phase = .idle)
    (spies : s'.spies = (s.setSpy k (beginObserving m.part d)).spies)
    (pending : keepings ts' = .keepWatch k w :: keepings ts) :
    PhaseAndWatchChange (s.phaseAndWatch ts n) (s'.phaseAndWatch ts' n) := by
  have post : s'.post? n = (s.setSpy k (Session.beginObserving m.part d)).post? n := by
    rw [Stage.post?, spies, Stage.post?]
  by_cases same : n = k
  · subst n
    have none : m.part.watch = none := kept.idle (Stage.post?_of_found found) idle
    have free : (keepings ts).any (Errand.givesWatch k) = false := by
      rw [← Bool.not_eq_true, any_givesWatch]
      rintro ⟨t, pending⟩
      exact kept.not_waiting found (.inl idle) pending
    have before : s.phaseAndWatch ts k = some (.idle, false) := by
      simp [Stage.phaseAndWatch, Stage.post?_of_found found, Mounted.post, idle, none, free]
    have after : s'.phaseAndWatch ts' k =
        some (.observing, (keepings ts').any (Errand.givesWatch k)) := by
      simp [Stage.phaseAndWatch, post, Stage.post?_setSpy found, Session.beginObserving, none]
    rw [before, after]
    exact .begun
  · refine .of_post ?_ ?_
    · rw [post, Stage.post?_setSpy found, if_neg same]
    · simp [pending, Errand.givesWatch_keepWatch, Ne.symm same]

theorem PhaseAndWatchChange.addSpy {m : Mounted (Spy Hearer)} {names : Names}
    (kept : Kept s (keepings ts)) (idle : m.part.phase = .idle) (none : m.part.watch = none) :
    PhaseAndWatchChange (s.phaseAndWatch ts n)
    (Stage.phaseAndWatch { s with spies := s.spies ++ [m], names } ts n) := by
  have post : Stage.post? { s with spies := s.spies ++ [m], names } n = _ := Stage.post?_addSpy m n
  by_cases last : n = s.spies.length
  · subst last
    have absent : s.post? s.spies.length = Option.none := by simp [Stage.post?]
    have free : (keepings ts).any (Errand.givesWatch s.spies.length) = false := by
      rw [← Bool.not_eq_true, any_givesWatch]
      rintro ⟨t, pending⟩
      obtain ⟨p, present, -⟩ := kept.waiting pending
      simp [absent] at present
    have after :
        Stage.phaseAndWatch { s with spies := s.spies ++ [m], names } ts s.spies.length =
          some (.idle, false) := by
      rw [Stage.phaseAndWatch, post, if_pos rfl]
      simp [Mounted.post, idle, none, free]
    rw [after, Stage.phaseAndWatch, absent]
    exact .made
  · exact .of_post (post.trans (if_neg last)) rfl

theorem Edit.phaseAndWatch (e : Edit may s ts s' ts') (kept : Kept s (keepings ts))
    (owned : Private s) (named : s'.names.spies.get? name = some n)
    (spares : ∀ s name, ¬ may s (.act (.spy name .dispose))) :
    PhaseAndWatchChange (s.phaseAndWatch ts n) (s'.phaseAndWatch ts' n) := by
  have apart {i : Nat} {m : Menu} {c : Contents} (found : s.menus[i]? = some m)
      (contents : m.contents = some c) : c.spy ≠ n := by
    obtain given | ⟨rfl, -⟩ := e.enrolls.named named
    · exact owned.apart given found contents
    · exact Nat.ne_of_lt (owned.bound found contents)
  cases e with
  | @skip t _ idle =>
    have other : t.isKeeping = false := by cases t <;> simp_all [Errand.isIdle, Errand.isKeeping]
    exact .of_post rfl (by rw [keepings_cons other])
  | @push t _ free =>
    have other : t.isKeeping = false := by cases t <;> simp_all [Errand.isFree, Errand.isKeeping]
    exact .of_post rfl (by rw [keepings_cons other])
  | animate | handOn | passOn | deaf | unseen | amend | openPage | faults | createStore
  | subscribeStore | dropStore | createScroller | listenMenu | hold | tellMenu | redraw =>
    exact .of_post rfl rfl
  | inform | emit => exact .of_post rfl (by rw [keepings_handAll])
  | adopt => exact .of_post rfl (by rw [keepings_tellAll])
  | setOpen => exact .of_post rfl (by rw [keepings_append (by split <;> simp [Errand.isKeeping])])
  | watch => exact .of_post rfl (by rw [keepings_handFirst]; rfl)
  | keepHandle | freeHandle | dropHandle => exact .of_post (Stage.post?_disconnect _) rfl
  | unsubscribeStore =>
    unfold Stage.unsubscribeStore
    split <;> exact .of_post rfl rfl
  | observe found document idle =>
    exact .beginObserving kept found idle rfl (by rw [keepings_handFirst]; rfl)
  | observeNothing found document idle => exact .beginObserving kept found idle rfl rfl
  | @keepWatch _ k w =>
    obtain ⟨p, post, free, -⟩ := kept.waiting (.head _)
    obtain ⟨m, found, rfl⟩ := Option.map_eq_some_iff.1 post
    have after : (s.keepWatch k w).post? n =
        if n = k then some ⟨m.document, m.part.phase, w⟩ else s.post? n := by
      rw [Stage.keepWatch, found]
      exact Stage.post?_setSpy found n
    have pending : keepings (.keepWatch k w :: ts') = .keepWatch k w :: keepings ts' := rfl
    by_cases same : n = k
    · subst n
      have equal : s.phaseAndWatch (.keepWatch k w :: ts') k =
          (s.keepWatch k w).phaseAndWatch ts' k := by
        have free : m.part.watch = none := free
        rw [Stage.phaseAndWatch, Stage.phaseAndWatch, after, post, pending]
        simp [Errand.givesWatch_keepWatch, Mounted.post, free]
      exact equal ▸ .same
    · refine .of_post (after.trans (if_neg same)) ?_
      simp [pending, Errand.givesWatch_keepWatch, Ne.symm same]
  | disposeSpy allowed => exact absurd allowed (spares _ _)
  | subscribeSpy found | unsubscribeSpy found =>
    exact .of_post (Stage.post?_setSpy_same found rfl rfl) rfl
  | receive found moved =>
    obtain ⟨-, id, -, -, rfl⟩ := Spy.receive?_eq_some moved
    exact .of_post (Stage.post?_setSpy_same found rfl rfl) (by rw [keepings_tellAll])
  | disposeMenu => exact .of_post (Stage.post?_releaseMenu apart) rfl
  | shareMenu => exact PhaseAndWatchChange.reclaimOld (.of_post rfl rfl) named apart
  | dropMenu | letGo | dropSpy =>
    exact PhaseAndWatchChange.reclaimOld (o := some _) (.of_post rfl rfl) named apart
  | createSpy =>
    refine PhaseAndWatchChange.reclaimOld ?_ named apart
    exact .addSpy kept rfl rfl
  | createMenu =>
    rw [Stage.createMenu, Stage.names_nameMenu] at named
    have old := owned.named named
    refine PhaseAndWatchChange.reclaimOld (.of_post ?_ rfl) (by rwa [Stage.names_reclaimOld]) ?_
    · exact (Stage.post?_addSpy _ n).trans (if_neg (Nat.ne_of_lt old))
    · intro i m c found contents
      obtain found | ⟨-, rfl⟩ := getElem?_concat found
      · exact apart found contents
      · cases contents
        exact Nat.ne_of_gt old
  | createBare =>
    refine PhaseAndWatchChange.reclaimOld (.of_post rfl rfl) named ?_
    intro i m c found contents
    obtain found | ⟨-, rfl⟩ := getElem?_concat found
    · exact apart found contents
    · cases contents

/-- What the spies that go by a name tell of how they were disposed: `E` of them were, and of those
all that have a watch, and no others, were spared it each time, which is what `A` says. -/
structure DisposalRecorded (A E : Nat → Prop) (s : Stage) (ts : List Errand) : Prop where
  spared : ∀ {name : String} {n : Nat} {phase : Spy.Phase} {live : Bool},
    s.names.spies.get? name = some n →
    s.phaseAndWatch ts n = some (phase, live) → (phase = .disposed ↔ E n) ∧ (live → A n) ∧
    (E n → A n → live)
  known : ∀ {n : Nat}, E n → n < s.spies.length

theorem DisposalRecorded.edit {A E : Nat → Prop} (h : DisposalRecorded A E s ts)
    (kept : Kept s (keepings ts)) (owned : Private s) (e : Edit may s ts s' ts')
    (spares : ∀ s name, ¬ may s (.act (.spy name .dispose))) (vacuous : ∀ n, ¬ E n → A n) :
    DisposalRecorded A E s' ts' where
  spared {name n phase live} named phaseAndWatch := by
    have old : s.phaseAndWatch ts n ≠ none → s.names.spies.get? name = some n := by
      intro alive
      refine (e.enrolls.named named).resolve_right fun fresh ↦ alive ?_
      simp [Stage.phaseAndWatch, Stage.post?, fresh.1]
    generalize before : s.phaseAndWatch ts n = l at old
    have change := e.phaseAndWatch kept owned named spares
    rw [before, phaseAndWatch] at change
    cases change with
    | same => exact h.spared (old (by simp)) before
    | made =>
      have fresh : ¬ E n := by
        intro disposed
        have absent : s.spies[n]? = none := by simpa [Stage.phaseAndWatch, Stage.post?] using before
        exact Nat.not_lt.2 (List.getElem?_eq_none_iff.1 absent) (h.known disposed)
      exact ⟨by simp [fresh], by simp, fun disposed ↦ absurd disposed fresh⟩
    | begun =>
      obtain ⟨idle, -⟩ := h.spared (old (by simp)) before
      have fresh : ¬ E n := by
        intro disposed
        cases idle.2 disposed
      exact ⟨by simp [fresh], fun _ ↦ vacuous n fresh, fun disposed ↦ absurd disposed fresh⟩
  known disposed := Nat.lt_of_lt_of_le (h.known disposed) e.enrolls.length

/-- A spy that is disposed keeps a watch that it is about to be given, and no other. -/
theorem DisposalRecorded.dispose {A E : Nat → Prop} {k : Nat} {m : Mounted (Spy Hearer)}
    (h : DisposalRecorded A E s ts) (named : s.names.spies.get? name = some k)
    (found : s.spies[k]? = some m) :
    DisposalRecorded (fun n ↦ A n ∧ (n = k → ts.any (Errand.givesWatch n))) (fun n ↦ E n ∨ n = k)
      (s.disposeSpy k) ts where
  spared {name' n phase live} named' phaseAndWatch := by
    rw [Stage.names_disposeSpy] at named'
    by_cases same : n = k
    · subst n
      have before : s.phaseAndWatch ts k =
          some (m.part.phase, m.part.watch.isSome || ts.any (Errand.givesWatch k)) := by
        rw [Stage.phaseAndWatch, Stage.post?_of_found found, any_keepings]
        rfl
      have after : (s.disposeSpy k).phaseAndWatch ts k =
          some (.disposed, ts.any (Errand.givesWatch k)) := by
        have post : (s.disposeSpy k).post? k = some ⟨m.document, .disposed, none⟩ := by
          rw [Stage.disposeSpy_eq found, Stage.post?_disconnect,
            Stage.post?_setSpy found, if_pos rfl]
          rfl
        rw [Stage.phaseAndWatch, post, any_keepings]
        rfl
      obtain ⟨rfl, rfl⟩ := Prod.mk.inj (Option.some.inj (after.symm.trans phaseAndWatch))
      obtain ⟨-, live, -⟩ := h.spared named before
      exact ⟨by simp, fun given ↦ ⟨live (by simp [given]), fun _ ↦ given⟩,
        fun _ spared ↦ spared.2 rfl⟩
    · rw [Stage.phaseAndWatch_congr (Stage.post?_disposeSpy_of_ne same) rfl] at phaseAndWatch
      simpa [same] using h.spared named' phaseAndWatch
  known disposed := by
    rw [Stage.length_spies_disposeSpy]
    obtain disposed | rfl := disposed
    · exact h.known disposed
    · exact (List.getElem?_eq_some_iff.1 found).1

def Move.disposesSpy (e : Move) (n : Nat) : Bool :=
  match e.job with
  | .act (.spy name .dispose) => e.machine.stage.names.spies.get? name = some n
  | _ => false

/-- The spy has a watch already, but does not know it yet: it is being told of the first batch. -/
def Move.duringFirstBatch (e : Move) (n : Nat) : Bool :=
  (errandsOf e.agenda).any (Errand.givesWatch n)

def Stage.isWatching (s : Stage) (n : Nat) : Bool :=
  s.documents.any fun d ↦ d.watches.any fun w ↦ w.owner = .spy n

theorem Stage.isWatching_iff : s.isWatching n ↔ ∃ k t, s.Registered k t n := by
  simp only [isWatching, List.any_eq_true, decide_eq_true_eq]
  constructor
  · rintro ⟨d, member, w, watch, owner⟩
    obtain ⟨k, found⟩ := List.getElem?_of_mem member
    exact ⟨k, w.token, d.registered, register?_of_found found, owner ▸ List.mem_map_of_mem watch⟩
  · rintro ⟨k, t, r, register, member⟩
    obtain ⟨d, found, rfl⟩ := Option.map_eq_some_iff.1 register
    obtain ⟨w, watch, same⟩ := List.mem_map.1 member
    exact ⟨d, List.mem_of_getElem? found, w, watch, (Prod.mk.inj same).2⟩

theorem Kept.isWatching {m : Mounted (Spy Hearer)} (kept : Kept s [])
    (found : s.spies[n]? = some m) :
    s.isWatching n = m.part.watch.isSome := by
  rw [Bool.eq_iff_iff, Stage.isWatching_iff, Option.isSome_iff_exists]
  simp only [kept.exact, Stage.holds_of_found found, List.not_mem_nil, or_false, exists_and_left]
  exact ⟨fun ⟨_, _, watch⟩ ↦ watch, fun watch ↦ ⟨_, rfl, watch⟩⟩

def Disposed (past : List Move) (n : Nat) : Prop := ∃ e ∈ past, e.disposesSpy n

def Spared (past : List Move) (n : Nat) : Prop := ∀ e ∈ past, e.disposesSpy n → e.duringFirstBatch n

section Runs

variable {may : Stage → Step → Prop} {past : List Move} {m : Machine} {jobs : List Job}

theorem History.owned (run : History may past m jobs) : Private m.stage :=
  run.keeps (I := fun s _ ↦ Private s) (fun page ↦ private_opened page.build) fun e h ↦ h.edit e

theorem spared_cons {e : Move} :
    Spared (e :: past) n ↔ (e.disposesSpy n → e.duringFirstBatch n) ∧ Spared past n :=
  List.forall_mem_cons

theorem disposed_cons {e : Move} : Disposed (e :: past) n ↔ e.disposesSpy n ∨ Disposed past n := by
  simp [Disposed]

theorem spared_of_not_disposed (h : ¬ Disposed past n) : Spared past n :=
  fun e member disposes ↦ absurd ⟨e, member, disposes⟩ h

theorem DisposalRecorded.congr {A A' E E' : Nat → Prop} (h : DisposalRecorded A E s ts)
    (spared : ∀ n, A' n ↔ A n) (disposed : ∀ n, E' n ↔ E n) : DisposalRecorded A' E' s ts := by
  rwa [funext fun n ↦ propext (spared n), funext fun n ↦ propext (disposed n)]

theorem Turn.disposes {m' : Machine} {jobs' : List Job}
    (turn : Turn may m jobs (.act (.spy name .dispose)) m' jobs')
    (owned : Private m.stage) : errandsOf jobs' = errandsOf jobs ∧
      (m.stage.names.spies.get? name = none ∧ m'.stage = m.stage ∨
        ∃ k spy, m.stage.names.spies.get? name = some k ∧ m.stage.spies[k]? = some spy ∧
          m'.stage = m.stage.disposeSpy k) := by
  obtain ⟨stage, errands⟩ := turn.effect_act
  simp only [Stage.perform, Stage.performSpy, Stage.onSpy] at stage errands
  cases named : m.stage.names.spies.get? name with
  | none =>
    rw [named] at stage errands
    exact ⟨errands, .inl ⟨rfl, stage⟩⟩
  | some k =>
    have found := List.getElem?_eq_getElem (owned.named named)
    rw [named] at stage errands
    simp only [found] at stage errands
    exact ⟨errands, .inr ⟨k, _, rfl, found, stage⟩⟩

theorem History.disposalRecorded (run : History may past m jobs) :
    DisposalRecorded (Spared past) (Disposed past) m.stage (errandsOf jobs) := by
  induction run with
  | opened page => exact ⟨nofun, by simp [Disposed]⟩
  | @turn past m m' jobs jobs' j run turn ih =>
    -- only a step that disposes a spy bears on who was disposed, and no edit of another job is of
    -- that kind
    by_cases dispose : ∃ name, j = .act (.spy name .dispose)
    · obtain ⟨name, rfl⟩ := dispose
      obtain ⟨errands, ⟨unnamed, stage⟩ | ⟨k, spy, named, found, stage⟩⟩ := turn.disposes run.owned
      · rw [stage, errands]
        refine ih.congr (fun n ↦ ?_) fun n ↦ ?_
        · simp [spared_cons, Move.disposesSpy, unnamed]
        · simp [disposed_cons, Move.disposesSpy, unnamed]
      · have here (n : Nat) : Move.disposesSpy ⟨m, jobs, .act (.spy name .dispose)⟩ n =
            decide (n = k) := by
          simp [Move.disposesSpy, named, eq_comm]
        rw [stage, errands]
        refine (ih.dispose named found).congr (fun n ↦ ?_) fun n ↦ ?_
        · simp [spared_cons, here, Move.duringFirstBatch, and_comm]
        · simp [disposed_cons, here, or_comm]
    · have other (n : Nat) : Move.disposesSpy ⟨m, jobs, j⟩ n = false := by
        unfold Move.disposesSpy
        split
        · rename_i name same
          exact absurd ⟨name, same⟩ dispose
        · rfl
      have kept := turn.edits_only.keep
        (I := fun s ts ↦ Kept s (keepings ts) ∧ Private s ∧
          DisposalRecorded (Spared past) (Disposed past) s ts)
        (fun e h ↦ ⟨h.1.edit e, h.2.1.edit e,
          h.2.2.edit h.1 h.2.1 e (fun s name only ↦ dispose ⟨name, only.2.symm⟩)
          fun n ↦ spared_of_not_disposed⟩)
        ⟨run.kept, run.owned, ih⟩
      refine kept.2.2.congr (fun n ↦ ?_) fun n ↦ ?_
      · simp [spared_cons, other]
      · simp [disposed_cons, other]

/-- For a spy that goes by a name and has been disposed, whenever nothing is under way: some
document still holds a watch of the spy just if each time it was disposed it was still being told of
the first batch of that watch. If not, to dispose it again changes nothing; in any case no watch of
it is left then. -/
theorem isWatching_iff_spared {n : Nat} (run : History (fun _ _ ↦ True) past m [])
    (named : m.stage.names.spies.get? name = some n) (disposed : ∃ e ∈ past, e.disposesSpy n) :
    (m.stage.isWatching n ↔ ∀ e ∈ past, e.disposesSpy n → e.duringFirstBatch n) ∧
      (m.stage.isWatching n = false → m.stage.disposeSpy n = m.stage) ∧
      (m.stage.disposeSpy n).isWatching n = false := by
  have kept : Kept m.stage [] := run.kept
  obtain ⟨spy, found⟩ : ∃ spy, m.stage.spies[n]? = some spy :=
    ⟨_, List.getElem?_eq_getElem (run.owned.named named)⟩
  have phaseAndWatch :
      m.stage.phaseAndWatch [] n = some (spy.part.phase, spy.part.watch.isSome) := by
    rw [Stage.phaseAndWatch, Stage.post?_of_found found]
    simp [keepings, Mounted.post]
  obtain ⟨phase, live, spared⟩ := run.disposalRecorded.spared named phaseAndWatch
  have after : (m.stage.disposeSpy n).spies[n]? = some { spy with part := spy.part.dispose } := by
    rw [Stage.disposeSpy_eq found, Stage.spies_disconnect, Stage.getElem?_setSpy found, if_pos rfl]
  refine ⟨?_, fun free ↦ ?_, (kept.disposeSpy n).isWatching after⟩
  · rw [kept.isWatching found]
    exact ⟨live, spared disposed⟩
  · have none : spy.part.watch = none := by simpa [kept.isWatching found] using free
    have same : spy.part.dispose = spy.part := by
      rw [Spy.dispose, ← phase.2 disposed, ← none]
    rw [Stage.disposeSpy_eq found, same, none]
    exact Stage.setSpy_self found

end Runs

def rashListener : List Step :=
  [.page (.userScroll 100), .spy "s" (.create ["a", "b"] ⟨20, 80⟩),
    .listen (.spy "s") "l" [.spy "s" .dispose] 1, .spy "s" .observe]

theorem isWatching_iff_spared_rashListener :
    ∃ m past, Machine.journal? 50 rashListener (.opened twoSections) [] = some (m, past) ∧
      m.stage.names.spies.get? "s" = some 0 ∧ (∃ e ∈ past, e.disposesSpy 0) ∧
      (∀ e ∈ past, e.disposesSpy 0 → e.duringFirstBatch 0) ∧ m.stage.isWatching 0 ∧
      (m.stage.disposeSpy 0).isWatching 0 = false := by
  have checked : ∃ r ∈ Machine.journal? 50 rashListener (.opened twoSections) [],
      r.1.stage.names.spies.get? "s" = some 0 ∧ (∃ e ∈ r.2, e.disposesSpy 0) ∧
        ∀ e ∈ r.2, e.disposesSpy 0 → e.duringFirstBatch 0 := by decide +kernel
  obtain ⟨⟨m, past⟩, kept, named, disposed, spared⟩ := checked
  have run : History (fun _ _ ↦ True) past m [] :=
    (History.opened twoSections).journal kept fun e _ ↦ by cases e.job <;> trivial
  obtain ⟨watching, -, released⟩ := isWatching_iff_spared run named disposed
  exact ⟨m, past, kept, named, disposed, spared, watching.2 spared, released⟩

end Session

end Wayfinder
