import Wayfinder.Proofs.Subscriptions
import Mathlib.Algebra.Ring.Parity
import Mathlib.Algebra.Group.Nat.Even
import Mathlib.Logic.Function.Iterate

namespace Wayfinder

theorem Theme.iterate_toggled_eq_iff (t : Theme) (k : Nat) : toggled^[k] t = t ↔ Even k := by
  have involutive : Function.Involutive toggled := toggled_toggled
  obtain even | odd := k.even_or_odd
  · rw [involutive.iterate_even even]
    exact iff_of_true rfl even
  · rw [involutive.iterate_odd odd]
    exact iff_of_false t.toggled_ne (Nat.not_even_iff_odd.2 odd)

theorem Theme.toggled_of_ne {t t' : Theme} (other : t' ≠ t) : t.toggled = t' := by
  cases t <;> cases t' <;> first | rfl | exact absurd rfl other

namespace Session

def Errand.news? : Errand → Option (Nat × Theme)
  | .tell (.probe p) (.theme t) | .call p (.theme t) => some (p, t)
  | _ => none

def news (jobs : List Job) : List (Nat × Theme) := (errandsOf jobs).filterMap Errand.news?

theorem news_append (jobs rest : List Job) : news (jobs ++ rest) = news jobs ++ news rest := by
  rw [news, errandsOf_append, List.filterMap_append, news, news]

theorem mem_news {jobs : List Job} {t : Errand} {a : Nat × Theme} (member : .errand t ∈ jobs)
    (heard : t.news? = some a) :
    a ∈ news jobs :=
  List.mem_filterMap.2 ⟨t, List.mem_filterMap.2 ⟨_, member, rfl⟩, heard⟩

theorem filterMap_handAll (ds : List (Delivery Receiver)) :
    (handAll ds).filterMap Errand.news? = [] := by
  rw [List.filterMap_eq_nil_iff]
  simp [handAll, Errand.news?]

/-- Only where a preference is used is there any new news of a theme. -/
theorem Edit.news {may : Stage → Job → Prop} {s s' : Stage} {ts ts' : List Errand}
    (e : Edit may s ts s' ts') :
    (ts'.filterMap Errand.news?).Sublist (ts.filterMap Errand.news?) ∨
      ∃ s₀ j k use, s₀.use? j = some (k, use) ∧ may s₀ j := by
  have fresh {new ts : List Errand} (plain : new.filterMap Errand.news? = []) :
      ((new ++ ts).filterMap Errand.news?).Sublist (ts.filterMap Errand.news?) := by
    rw [List.filterMap_append, plain, List.nil_append]
  have done {t : Errand} {ts : List Errand} :
      (ts.filterMap Errand.news?).Sublist ((t :: ts).filterMap Errand.news?) :=
    (List.sublist_cons_self t ts).filterMap _
  have first {receiver : Receiver} {batch : List Entry} :
      (handFirst receiver batch).filterMap Errand.news? = [] := by
    unfold handFirst
    split <;> rfl
  cases e with
  | @adopt _ _ _ _ _ _ used =>
    obtain ⟨s₀, j, use, used, allowed⟩ := used
    exact .inr ⟨s₀, j, _, use, used, allowed⟩
  | amend | openPage | faults | freeHandle | dropHandle | createStore | subscribeStore
  | unsubscribeStore | dropStore | createSpy | disposeSpy | subscribeSpy | unsubscribeSpy | dropSpy
  | createScroller | createMenu | createBare | shareMenu | disposeMenu | dropMenu | listenMenu =>
    exact .inl (.refl _)
  | skip | keepHandle | keepWatch | deaf | unseen | letGo => exact .inl done
  | animate | observeNothing | hold | handOn | tellMenu | redraw => exact .inl (.refl _)
  | @push t ts free =>
    have plain : [t].filterMap Errand.news? = [] := by cases t <;> first | rfl | cases free
    exact .inl (fresh plain)
  | @passOn ts probe told =>
    cases told <;> exact .inl (.refl _)
  | inform | emit => exact .inl (fresh (filterMap_handAll _))
  | watch | observe =>
    refine .inl ?_
    rw [List.filterMap_append, first]
    exact .refl _
  | receive =>
    refine .inl (fresh ?_)
    rw [List.filterMap_eq_nil_iff]
    simp [tellAll, Errand.news?]
  | setOpen =>
    refine .inl (fresh ?_)
    split <;> rfl

theorem Use.told_change {σ ω : Type} (use : Use) (p : Preference σ) (d : Document ω)
    (faults : Faults) :
    (use.change p d faults).told =
      if p.theme = (use.change p d faults).preference.theme then [] else p.listeners.toList := by
  cases use with
  | load =>
    cases first : p.loaded with
    | true =>
      have nothing : (load.change p d faults) = { preference := p, document := d } :=
        Preference.load_of_loaded d faults first
      rw [nothing, if_pos rfl]
    | false =>
      have adopted := (Preference.load_of_not_loaded d faults first).1
      have told := Preference.told_load d faults first
      rw [Use.change, adopted, told]
  | toggle =>
    have changes : p.theme ≠ p.theme.toggled := p.theme.toggled_ne.symm
    rw [Use.change, p.preference_toggle, p.told_toggle, if_neg changes]

namespace Stage

variable {s : Stage} {n : Nat}

theorem errands_changeStore {m : Mounted (Preference Hearer)} {d : Document Receiver}
    {op : Preference Hearer → Document Receiver → Faults → Preference.Change Hearer Receiver}
    (found : s.stores[n]? = some m) (document : s.documents[m.document]? = some d) :
    (s.changeStore n op).errands =
      tellAll (op m.part d s.faults).told (.theme (op m.part d s.faults).preference.theme) := by
  simp only [changeStore, found, document]

theorem theme_congr {s' : Stage} (stores : s'.stores = s.stores) (i : Nat) :
    s'.theme i = s.theme i := by
  rw [theme, stores, theme]

theorem theme_setStore {m : Mounted (Preference Hearer)} {p : Preference Hearer}
    (found : s.stores[n]? = some m) (i : Nat) :
    (s.setStore n p).theme i = if i = n then p.theme else s.theme i := by
  have there := getElem?_setStore (p := p) found i
  split
  · rename_i here
    rw [if_pos here] at there
    exact theme_of_found there
  · rename_i elsewhere
    rw [if_neg elsewhere] at there
    rw [theme, there, theme]

end Stage

section Turns

variable {may : Stage → Step → Prop} {past : List Move} {m m' : Machine} {jobs jobs' : List Job}
  {j : Job} {n p : Nat} {t : Theme}

def Move.result (e : Move) : Stage :=
  match e.job with
  | .act s => (e.machine.stage.perform e.machine.probes.length s).stage
  | .errand t => (e.machine.stage.carry t).stage
  | .report _ _ => e.machine.stage

def Move.shifts (e : Move) (n : Nat) : Bool := e.result.theme n ≠ e.machine.stage.theme n

def Move.calls? (e : Move) : Option (Nat × Theme) :=
  match e.job with
  | .errand (.call p (.theme t)) => some (p, t)
  | _ => none

theorem Move.calls?_iff {e : Move} :
    e.calls? = some (p, t) ↔ e.job = .errand (.call p (.theme t)) := by
  constructor
  · intro calls
    unfold Move.calls? at calls
    split at calls
    · rename_i job
      cases calls
      exact job
    · cases calls
  · intro job
    rw [Move.calls?, job]

theorem Turn.result (turn : Turn may m jobs j m' jobs') : m'.stage = Move.result ⟨m, jobs, j⟩ := by
  obtain ⟨s, rfl, -, stage, -⟩ | ⟨t, rest, rfl, -, stage, -⟩ | ⟨⟨step, outcome, rfl⟩, stage, -⟩ :=
    turn.effect
  · exact stage
  · exact stage
  · exact stage

theorem Turn.shifts_iff (turn : Turn may m jobs j m' jobs') :
    Move.shifts ⟨m, jobs, j⟩ n ↔ m'.stage.theme n ≠ m.stage.theme n := by
  rw [Move.shifts, ← turn.result, decide_eq_true_iff]

/-- Each change leads to the other theme. -/
theorem History.theme_iterate {later earlier : List Move} {e : Move}
    (run : History may (later ++ e :: earlier) m jobs) :
    m.stage.theme n = Theme.toggled^[(later ++ [e]).countP (·.shifts n)]
    (e.machine.stage.theme n) := by
  have once {m m' : Machine} {jobs jobs' : List Job} {j : Job} (turn : Turn may m jobs j m' jobs') :
      m'.stage.theme n =
        if Move.shifts ⟨m, jobs, j⟩ n then (m.stage.theme n).toggled else m.stage.theme n := by
    split
    · rename_i shifts
      exact (Theme.toggled_of_ne (turn.shifts_iff.1 shifts)).symm
    · rename_i still
      by_contra other
      exact still (turn.shifts_iff.2 other)
  induction later generalizing m jobs with
  | nil =>
    cases run with
    | turn run turn =>
      rw [once turn, List.nil_append, List.countP_singleton]
      split <;> rfl
  | cons e' later ih =>
    cases run with
    | turn run turn =>
      rw [once turn, ih run, List.cons_append, List.countP_cons]
      split
      · rw [Function.iterate_succ_apply']
      · rfl

/-- What a turn does to the themes and to the news of them that wait. -/
inductive Spread (m m' : Machine) (jobs jobs' : List Job) (j : Job) : Prop
  | change {k : Nat} {others : List Job} (changed : m'.stage.theme k ≠ m.stage.theme k)
      (only : ∀ i, m'.stage.theme i ≠ m.stage.theme i → i = k) (plain : news others = [])
      (agenda : jobs' =
        (tellAll (m.stage.hearers (.preference k)) (.theme (m'.stage.theme k))).map .errand ++
        (others ++ jobs.tail))
  | pass {p : Nat} {t : Theme} (job : j = .errand (.tell (.probe p) (.theme t)))
      (stage : m'.stage = m.stage) (agenda : jobs' = .errand (.call p (.theme t)) :: jobs.tail)
  | other {new : List Job} (themes : ∀ i, m'.stage.theme i = m.stage.theme i)
      (plain : news new = []) (agenda : jobs' = new ++ jobs.tail)

theorem Turn.agenda_act {s : Step} (turn : Turn may m jobs (.act s) m' jobs') :
    ∃ reports, news reports = [] ∧
    jobs' = (m.reply s).errands.map .errand ++ (reports ++ jobs.tail) := by
  cases turn with
  | step => exact ⟨[], rfl, by simp⟩
  | act => exact ⟨[.report s.name (m.reply s).outcome], rfl, by simp [Machine.advance]⟩

/-- Where a preference is used, all who are to hear of it are told before anything else is done. -/
theorem Turn.agenda_use {s : Step} {k : Nat} {use : Use} {store : Mounted (Preference Hearer)}
    {d : Document Receiver} (turn : Turn may m jobs (.act s) m' jobs')
    (used : m.stage.use? (.act s) = some (k, use)) (found : m.stage.stores[k]? = some store)
    (document : m.stage.documents[store.document]? = some d) :
    ∃ others, news others = [] ∧ jobs' = (tellAll (use.change store.part d m.stage.faults).told
      (.theme (use.change store.part d m.stage.faults).preference.theme)).map .errand ++
        (others ++ jobs.tail) := by
  obtain ⟨reports, plain, agenda⟩ := turn.agenda_act
  obtain ⟨-, -, others, errands, free⟩ := Stage.perform_use m.probes.length used
  refine ⟨others.map .errand ++ reports, ?_, ?_⟩
  · rw [news_append, plain, List.append_nil, news, errandsOf_errands, List.filterMap_eq_nil_iff]
    intro t member
    obtain free | ⟨o, rfl⟩ := free t member
    · cases t <;> first | rfl | cases free
    · rfl
  · rw [agenda, Machine.reply, errands, Stage.errands_changeStore found document]
    simp

theorem Turn.theme_of_unused (turn : Turn may m jobs j m' jobs')
    (preferencesExist : PreferencesExist m.stage) (unused : m.stage.use? j = none) (i : Nat) :
    m'.stage.theme i = m.stage.theme i := by
  obtain ⟨-, grows⟩ | ⟨_, _, _, _, used, -⟩ := turn.stores preferencesExist
  · cases before : m.stage.stores[i]? with
    | none =>
      cases after : m'.stage.stores[i]? with
      | none => simp only [Stage.theme, before, after]
      | some store =>
        simp only [Stage.theme, before, after]
        exact (grows.new before after).1
    | some store =>
      obtain ⟨store', after, same⟩ := grows.old before
      simp only [Stage.theme, before, after]
      exact same.theme
  · cases unused.symm.trans used

/-- A job that neither uses a preference nor is itself news of a theme makes no such news. -/
theorem Turn.news_of_unused {new : List Job} (turn : Turn may m jobs j m' jobs')
    (unused : m.stage.use? j = none) (plain : news jobs = news jobs.tail)
    (agenda : jobs' = new ++ jobs.tail) : news new = [] := by
  have fewer : (news jobs').Sublist (news jobs) := by
    refine turn.edits_only.keep (I := fun _ ts ↦ (ts.filterMap Errand.news?).Sublist (news jobs))
      (fun e h ↦ ?_) (.refl _)
    obtain sublist | ⟨_, _, _, _, used, rfl, rfl⟩ := e.news
    · exact sublist.trans h
    · cases unused.symm.trans used
  have length := fewer.length_le
  rw [agenda, news_append, plain, List.length_append] at length
  exact List.length_eq_zero_iff.1 (by omega)

theorem Turn.spread_of_unused (turn : Turn may m jobs j m' jobs')
    (preferencesExist : PreferencesExist m.stage) (unused : m.stage.use? j = none) :
    Spread m m' jobs jobs' j := by
  have themes := turn.theme_of_unused preferencesExist unused
  cases turn with
  | @step s allowed =>
    have turn : Turn may m [] (.act s) _ _ := .step allowed
    have agenda : (m.reply s).errands.map Job.errand = (m.reply s).errands.map Job.errand ++
        List.tail [] := by simp
    exact .other themes (turn.news_of_unused unused rfl agenda) agenda
  | @act s rest allowed =>
    have turn : Turn may m (.act s :: rest) (.act s) _ _ := .act allowed
    exact .other themes (turn.news_of_unused unused rfl rfl) rfl
  | report => exact .other themes (rfl : news [] = []) rfl
  | @errand t rest silent =>
    have turn : Turn may m (.errand t :: rest) (.errand t) _ _ := .errand silent
    cases told : t.news? with
    | none =>
      have plain : news (.errand t :: rest) = news rest := List.filterMap_cons_none told
      exact .other themes (turn.news_of_unused unused plain rfl) rfl
    | some a =>
      obtain ⟨p, theme, rfl⟩ : ∃ p theme, t = .tell (.probe p) (.theme theme) := by
        unfold Errand.news? at told
        split at told
        · exact ⟨_, _, rfl⟩
        · exact absurd rfl (silent _ _)
        · cases told
      exact .pass rfl rfl rfl
  | call script =>
    refine .other themes ?_ rfl
    rw [news, errandsOf_acts, List.filterMap_nil]

theorem Turn.spread (turn : Turn may m jobs j m' jobs')
    (preferencesExist : PreferencesExist m.stage) : Spread m m' jobs jobs' j := by
  obtain ⟨unused, -⟩ | ⟨k, use, store, d, used, found, document, stores, -⟩ :=
    turn.stores preferencesExist
  · exact turn.spread_of_unused preferencesExist unused
  · obtain ⟨step, rfl⟩ : ∃ step, j = .act step := by
      cases j with
      | act step => exact ⟨step, rfl⟩
      | errand | report => cases used
    obtain ⟨others, plain, left⟩ := turn.agenda_use used found document
    have before : m.stage.theme k = store.part.theme := Stage.theme_of_found found
    have after (i : Nat) : m'.stage.theme i =
        if i = k then (use.change store.part d m.stage.faults).preference.theme
        else m.stage.theme i := by
      rw [Stage.theme_congr stores, Stage.theme_setStore found]
    rw [use.told_change] at left
    split at left
    · rename_i same
      refine .other (fun i ↦ ?_) plain left
      rw [after]
      split
      · rename_i here
        rw [here, before, same]
      · rfl
    · rename_i changed
      refine .change (k := k) ?_ (fun i other ↦ ?_) plain ?_
      · rw [after, if_pos rfl, before]
        exact Ne.symm changed
      · by_contra elsewhere
        rw [after, if_neg elsewhere] at other
        exact other rfl
      · rw [after, if_pos rfl, Stage.hearers_preference found]
        exact left

theorem Turn.front (turn : Turn may m jobs j m' jobs') : jobs = [] ∨ jobs = j :: jobs.tail := by
  cases turn with
  | step => exact .inl rfl
  | act | report | errand | call => exact .inr rfl

theorem Turn.tail_suffix (turn : Turn may m jobs j m' jobs') : jobs.tail <:+ jobs' := by
  cases turn with
  | step => exact List.nil_suffix
  | report => exact List.suffix_refl _
  | act | errand | call => exact List.suffix_append _ _

/-- News waits until the listener is called with it. -/
theorem Turn.keeps_news (turn : Turn may m jobs j m' jobs') (waits : (p, t) ∈ news jobs) :
    (p, t) ∈ news jobs' ∨ j = .errand (.call p (.theme t)) := by
  obtain ⟨e, member, told⟩ := List.mem_filterMap.1 waits
  obtain ⟨x, member, same⟩ := List.mem_filterMap.1 member
  obtain rfl : x = .errand e := by
    cases x with
    | errand e' => exact congrArg Job.errand (Option.some.inj same)
    | act | report => cases same
  obtain rfl | front := turn.front
  · cases member
  · rw [front] at member
    obtain ⟨⟩ | ⟨_, below⟩ := member
    · unfold Errand.news? at told
      split at told
      · cases told
        cases turn with
        | errand => exact .inl (mem_news (t := .call p (.theme t)) (.head _) rfl)
      · cases told
        exact .inr rfl
      · cases told
    · exact .inl (mem_news (turn.tail_suffix.subset below) told)

theorem History.called {later earlier : List Move} {u : Move}
    (run : History may (later ++ u :: earlier) m jobs) (shifts : u.shifts n)
    (heard : .probe p ∈ u.machine.stage.hearers (.preference n)) :
    ∃ t, (p, t) ∈ news jobs ∨ ∃ e ∈ later, e.calls? = some (p, t) := by
  induction later generalizing m jobs with
  | nil =>
    cases run with
    | turn run turn =>
      have changed := turn.shifts_iff.1 shifts
      refine ⟨m.stage.theme n, .inl ?_⟩
      cases turn.spread run.preferencesExist with
      | change _ only _ agenda =>
        obtain rfl := only n changed
        rw [agenda, news_append]
        refine List.mem_append_left _
          (mem_news (t := .tell (.probe p) (.theme (m.stage.theme n))) ?_ rfl)
        exact List.mem_map_of_mem (List.mem_map.2 ⟨_, heard, rfl⟩)
      | pass _ stage => exact absurd (congrArg (Stage.theme · n) stage) changed
      | other themes => exact absurd (themes n) changed
  | cons e later ih =>
    cases run with
    | turn run turn =>
      obtain ⟨t, waits | ⟨e', member, called⟩⟩ := ih run
      · obtain still | now := turn.keeps_news waits
        · exact ⟨t, .inl still⟩
        · exact ⟨t, .inr ⟨_, .head _, Move.calls?_iff.2 now⟩⟩
      · exact ⟨t, .inr ⟨e', .tail _ member, called⟩⟩

/-- A job on the agenda was put there by some move, and has since lain below all that was done. -/
theorem History.origin (pre : List Job) {rest : List Job} {x : Job}
    (run : History may past m (pre ++ x :: rest)) :
    ∃ later u earlier m₁ pre₁, past = later ++ u :: earlier ∧
      History may earlier u.machine u.agenda ∧
      Turn may u.machine u.agenda u.job m₁ (pre₁ ++ x :: rest) ∧
      u.agenda.tail.length ≤ rest.length ∧
      (∀ e ∈ later, x :: rest <:+ e.agenda.tail) ∧ (pre₁ = [] → later = [] ∧ pre = []) := by
  generalize same : pre ++ x :: rest = jobs at run
  induction run generalizing pre with
  | opened => simp at same
  | @turn past m m' jobs jobs' j run turn ih =>
    subst same
    -- a turn puts jobs on top of what is left of the agenda; the job lies in the new part or in the
    -- old one
    by_cases new : jobs.tail.length ≤ rest.length
    · exact ⟨[], ⟨m, jobs, j⟩, past, m', pre, rfl, run, turn, new, by simp,
        fun first ↦ ⟨rfl, first⟩⟩
    · obtain ⟨above, below⟩ :=
        List.suffix_of_suffix_length_le (List.suffix_append pre (x :: rest)) turn.tail_suffix
        (by simp only [List.length_cons]; omega)
      have front : (j :: above) ++ x :: rest = jobs := by
        obtain rfl | front := turn.front
        · simp at new
        · rw [front, List.cons_append, below]
      obtain ⟨later, u, earlier, m₁, pre₁, rfl, before, put, length, waited, first⟩ := ih _ front
      refine ⟨⟨m, jobs, j⟩ :: later, u, earlier, m₁, pre₁, rfl, before, put, length, ?_,
        fun none ↦ ?_⟩
      · exact List.forall_mem_cons.2 ⟨⟨above, below⟩, waited⟩
      · cases (first none).2

/-- What lies above the old part of a list lies in the new part. -/
theorem exists_eq_append_cons {α : Type} {pre rest new old : List α} {x : α}
    (same : pre ++ x :: rest = new ++ old) (short : old.length ≤ rest.length) :
    ∃ post, new = pre ++ x :: post := by
  obtain ⟨post, rfl, split⟩ | ⟨above, -, rfl⟩ := List.append_eq_append_iff.1 same
  · cases post with
    | nil =>
      rw [List.nil_append] at split
      simp only [← split, List.length_cons] at short
      omega
    | cons y post =>
      cases split
      exact ⟨post, rfl⟩
  · simp only [List.length_append, List.length_cons] at short
    omega

namespace Spread

variable {pre rest : List Job}

theorem not_mem_of_plain {new : List Job} {e : Errand} (plain : news new = [])
    (told : e.news? = some (p, t)) :
    .errand e ∉ new := by
  intro member
  have waits := mem_news member told
  rw [plain] at waits
  cases waits

/-- A listener is to be told of a theme because of a change, and after all those who subscribed
before it. -/
theorem tell (h : Spread m m' jobs (pre ++ .errand (.tell (.probe p) (.theme t)) :: rest) j)
    (new : jobs.tail.length ≤ rest.length) : ∃ k front back,
      m.stage.hearers (.preference k) = front ++ .probe p :: back ∧
      pre = (tellAll front (.theme t)).map .errand ∧
      m'.stage.theme k = t ∧ m.stage.theme k ≠ t := by
  cases h with
  | @change k others changed _ plain agenda =>
    rw [← List.append_assoc] at agenda
    obtain ⟨post, split⟩ := exists_eq_append_cons agenda new
    -- the other new jobs are no news of a theme, so the errand is one of those that tell of the
    -- change
    have above : others.length ≤ post.length := by
      by_contra below
      have inside : .errand (.tell (.probe p) (.theme t)) :: post <:+ others :=
        List.suffix_of_suffix_length_le (List.suffix_append pre _)
          (split ▸ List.suffix_append _ others)
          (by simp only [List.length_cons]; omega)
      exact not_mem_of_plain plain rfl (inside.subset (.head _))
    obtain ⟨post, tells⟩ := exists_eq_append_cons split.symm above
    rw [tellAll, List.map_map] at tells
    obtain ⟨front, after, hearers, rfl, later⟩ := List.map_eq_append_iff.1 tells
    obtain ⟨h, back, rfl, same, -⟩ := List.map_eq_cons_iff.1 later
    cases same
    exact ⟨k, front, back, hearers, by rw [tellAll, List.map_map], rfl, changed.symm⟩
  | pass _ _ agenda =>
    obtain ⟨post, split⟩ := exists_eq_append_cons (agenda.trans (List.singleton_append).symm) new
    cases pre <;> simp at split
  | other _ plain agenda =>
    obtain ⟨post, rfl⟩ := exists_eq_append_cons agenda new
    exact absurd (List.mem_append_right _ (.head _)) (not_mem_of_plain plain rfl)

/-- A listener is called with a theme because it was to be told of it. -/
theorem call (h : Spread m m' jobs (pre ++ .errand (.call p (.theme t)) :: rest) j)
    (new : jobs.tail.length ≤ rest.length) :
    j = .errand (.tell (.probe p) (.theme t)) ∧ pre = [] ∧ jobs.tail = rest := by
  cases h with
  | change _ _ plain agenda =>
    rw [← List.append_assoc] at agenda
    obtain ⟨post, split⟩ := exists_eq_append_cons agenda new
    have member : .errand (.call p (.theme t)) ∈ pre ++ .errand (.call p (.theme t)) :: post :=
      List.mem_append_right _ (.head _)
    rw [← split] at member
    obtain member | member := List.mem_append.1 member
    · simp [tellAll] at member
    · exact absurd member (not_mem_of_plain plain rfl)
  | pass job _ agenda =>
    obtain ⟨post, split⟩ := exists_eq_append_cons (agenda.trans (List.singleton_append).symm) new
    cases pre with
    | nil =>
      cases split
      exact ⟨job, rfl, (List.cons.inj agenda).2.symm⟩
    | cons => simp at split
  | other _ plain agenda =>
    obtain ⟨post, rfl⟩ := exists_eq_append_cons agenda new
    exact absurd (List.mem_append_right _ (.head _)) (not_mem_of_plain plain rfl)

end Spread

theorem exists_of_mem_subscriptions {k : Nat} {entry : Nat × Hearer}
    (member : entry ∈ subscriptions k past) :
    ∃ e ∈ past, e.subscribes k = some entry := by
  induction past with
  | nil => cases member
  | cons e past ih =>
    obtain old | new := List.mem_append.1 member
    · obtain ⟨e', made, subscribes⟩ := ih old
      exact ⟨e', .tail _ made, subscribes⟩
    · exact ⟨e, .head _, Option.mem_toList.1 new⟩

theorem History.listens {k : Nat} (run : History may past m jobs)
    (heard : .probe p ∈ m.stage.hearers (.preference k)) : ∃ e ∈ past, ∃ name label script limit,
      e.job = .act (.listen (.store name) label script limit) ∧ e.machine.probes.length = p ∧
      e.machine.stage.names.stores.get? name = some k := by
  obtain ⟨entry, member, listener⟩ : ∃ entry ∈ m.stage.roll k, entry.2 = .probe p := by
    cases found : m.stage.stores[k]? with
    | none => simp [Stage.hearers, found] at heard
    | some store =>
      rw [Stage.hearers_preference found] at heard
      rw [Stage.roll_of_found found]
      exact List.mem_map.1 heard
  obtain ⟨token, hearer⟩ := entry
  cases listener
  obtain ⟨e, made, subscribes⟩ := exists_of_mem_subscriptions ((run.sublist_roll k).subset member)
  obtain ⟨name, joins, named, -⟩ := Move.subscribes_iff.1 subscribes
  refine ⟨e, made, name, ?_⟩
  unfold Move.joins at joins
  split at joins
  · obtain ⟨_, -, same⟩ := Option.map_eq_some_iff.1 joins
    cases same
  · rename_i label script limit job
    cases joins
    exact ⟨label, script, limit, job, rfl, named⟩
  · cases joins

/-- A listener listens to no more than one preference. -/
theorem History.preference_unique {k : Nat} {e : Move} (run : History may past m jobs)
    (heard : .probe p ∈ m.stage.hearers (.preference n)) (made : e ∈ past)
    (heard' : .probe p ∈ e.machine.stage.hearers (.preference k)) : k = n := by
  obtain ⟨later, earlier, rfl⟩ := List.append_of_mem made
  obtain ⟨e₁, made₁, name₁, _, _, _, job₁, number₁, named₁⟩ := run.listens heard
  obtain ⟨e₂, made₂, name₂, _, _, _, job₂, number₂, named₂⟩ := (run.before rfl).listens heard'
  have made₂ := List.mem_append_right later (List.mem_cons_of_mem e made₂)
  obtain rfl := run.listen_unique made₁ made₂ job₁ job₂ (number₁.trans number₂.symm)
  cases job₁.symm.trans job₂
  exact Option.some.inj (named₂.symm.trans named₁)

/-- By `u` the theme of preference `n` became `t`, and by `b` listener `p` is told of it. In between
come the moves `ahead`: those who subscribed before `p` are told first, and do what they like while
the news for `p` lies below on the agenda. -/
structure Round (may : Stage → Step → Prop) (n p : Nat) (t : Theme) (u : Move) (ahead : List Move)
    (b : Move) : Prop where
  changed : u.machine.stage.theme n ≠ t
  begun : ∃ m front back, u.machine.stage.hearers (.preference n) = front ++ .probe p :: back ∧
    m.stage.theme n = t ∧
    Turn may u.machine u.agenda u.job m ((tellAll front (.theme t)).map .errand ++ b.agenda) ∧
    (front = [] → ahead = [])
  waits : ∀ e ∈ ahead, b.agenda <:+ e.agenda.tail
  told : b.job = .errand (.tell (.probe p) (.theme t))

theorem History.upTo {later : List Move} (run : History may (later ++ past) m jobs) :
    ∃ m' jobs', History may past m' jobs' := by
  induction later generalizing m jobs with
  | nil => exact ⟨m, jobs, run⟩
  | cons e later ih =>
    cases run with
    | turn run _ => exact ih run

/-- Every call with a theme ends a round. -/
theorem History.round {c : Move} {before : List Move} (run : History may (c :: before) m jobs)
    (told : c.calls? = some (p, t)) (heard : .probe p ∈ c.machine.stage.hearers (.preference n)) :
    ∃ b ahead u earlier, before = b :: ahead ++ u :: earlier ∧ Round may n p t u ahead b := by
  have headed {m m' : Machine} {jobs jobs' : List Job} {e : Errand}
      (turn : Turn may m jobs (.errand e) m' jobs') :
      jobs = .errand e :: jobs.tail := by
    cases turn with
    | errand | call => rfl
  cases run with
  | @turn _ m₀ _ jobs₀ _ j run turn =>
    obtain rfl : j = .errand (.call p (.theme t)) := Move.calls?_iff.1 told
    have called := run
    rw [headed turn] at called
    obtain ⟨_, b, _, _, _, rfl, before, tells, new, -, first⟩ := called.origin []
    obtain ⟨job, rfl, -⟩ := (tells.spread before.preferencesExist).call new
    obtain ⟨rfl, -⟩ := first rfl
    have waiting := before
    rw [job] at tells
    rw [headed tells] at waiting
    obtain ⟨ahead, u, earlier, m₁, _, rfl, begun, change, new, waits, first⟩ := waiting.origin []
    obtain ⟨k, front, back, hearers, rfl, theme, changed⟩ :=
      (change.spread begun.preferencesExist).tell new
    obtain rfl : k = n := run.preference_unique heard (e := u) (by simp) (by simp [hearers])
    rw [← headed tells] at change waits
    refine ⟨b, ahead, u, earlier, rfl, changed, ⟨m₁, front, back, hearers, theme, change, ?_⟩,
      waits, job⟩
    intro none
    exact (first (by rw [none]; rfl)).1

/-- Listeners converge unless news comes late. When no news of a theme is left to be told to a
listener that has stayed subscribed to a preference since it was last called, the theme has not
changed since that call. The listener was then called with the current theme just if those who are
told ahead of it changed the theme an even number of times between the change that it heard of and
the call; in particular if nobody is told ahead of it. -/
theorem last_call_current_iff {after before : List Move} {c : Move}
    (run : History may (after ++ c :: before) m jobs) (told : c.calls? = some (p, t))
    (last : ∀ e ∈ after, ∀ t', e.calls? ≠ some (p, t')) (done : ∀ t', (p, t') ∉ news jobs)
    (stays : ∀ e ∈ after ++ [c], .probe p ∈ e.machine.stage.hearers (.preference n)) :
    (∀ e ∈ after, e.shifts n = false) ∧
    ∃ b ahead u earlier, before = b :: ahead ++ u :: earlier ∧ Round may n p t u ahead b ∧
      (t = m.stage.theme n ↔ Even (ahead.countP (·.shifts n))) := by
  -- a later change would have been told to the listener, and by now it would have been called again
  have still : ∀ e ∈ after, e.shifts n = false := by
    intro e member
    by_contra shifts
    obtain ⟨later, earlier, rfl⟩ := List.append_of_mem member
    rw [List.append_assoc, List.cons_append] at run
    obtain ⟨t', waits | ⟨e', member', called⟩⟩ :=
      run.called (Bool.not_eq_false _ ▸ shifts) (stays e (by simp))
    · exact done t' waits
    · exact last e' (List.mem_append_left _ member') t' called
  obtain ⟨_, _, upTo⟩ := run.upTo
  obtain ⟨b, ahead, u, earlier, rfl, round⟩ := upTo.round told (stays c (by simp))
  refine ⟨still, b, ahead, u, earlier, rfl, round, ?_⟩
  obtain ⟨m₁, front, back, -, theme, change, -⟩ := round.begun
  have changes : u.shifts n := change.shifts_iff.2 (theme.symm ▸ round.changed.symm)
  have called : c.shifts n = false := by
    simp [Move.shifts, Move.result, Move.calls?_iff.1 told, Stage.carry]
  have passed : b.shifts n = false := by simp [Move.shifts, Move.result, round.told, Stage.carry]
  have count : (after ++ c :: b :: ahead ++ [u]).countP (·.shifts n) =
      ahead.countP (·.shifts n) + 1 := by
    rw [List.append_assoc, List.countP_append, List.countP_eq_zero.2 fun e member ↦ by
      simp [still e member]]
    simp [called, passed, changes]
  have flips : m.stage.theme n = Theme.toggled^[ahead.countP (·.shifts n)] t := by
    have run : History may ((after ++ c :: b :: ahead) ++ u :: earlier) m jobs := by simpa using run
    rw [run.theme_iterate, count, Function.iterate_succ_apply,
      Theme.toggled_of_ne round.changed.symm]
  rw [flips, eq_comm]
  exact t.iterate_toggled_eq_iff _

end Turns

def takenBack : List Step :=
  [.store "p" (.create "theme"), .listen (.store "p") "a" [.store "p" .toggle] 1,
    .listen (.store "p") "b" [] 1, .listen (.store "p") "c" [] 1, .store "p" .toggle]

theorem last_call_current_iff_takenBack : ∃ m after c before,
    Machine.journal? 50 takenBack (.opened twoSections) [] = some (m, after ++ c :: before) ∧
      c.calls? = some (1, .dark) ∧ (∀ e ∈ after, ∀ t, e.calls? ≠ some (1, t)) ∧
      m.stage.theme 0 = .light ∧
      ∃ b ahead u earlier, before = b :: ahead ++ u :: earlier ∧
        ¬ Even (ahead.countP (·.shifts 0)) := by
  have checked :
      ∃ r : Machine × List Move, r ∈ Machine.journal? 50 takenBack (.opened twoSections) [] ∧
      (∀ e ∈ r.2, Allows (fun _ _ ↦ True) e.machine.stage e.job) ∧ r.1.stage.theme 0 = .light ∧
      r.2[2]?.bind Move.calls? = some (1, .dark) ∧
      (∀ e ∈ r.2.take 2, e.calls? ≠ some (1, .light) ∧ e.calls? ≠ some (1, .dark)) ∧
      ∀ e ∈ r.2.take 3, .probe 1 ∈ e.machine.stage.hearers (.preference 0) := by
    decide +kernel
  obtain ⟨⟨m, past⟩, kept, moves, theme, called, quiet, stays⟩ := checked
  obtain ⟨c, place, told⟩ := Option.bind_eq_some_iff.1 called
  have split : past.take 2 ++ c :: past.drop 3 = past := by
    obtain ⟨bound, rfl⟩ := List.getElem?_eq_some_iff.1 place
    rw [← List.drop_eq_getElem_cons bound, List.take_append_drop]
  have run := (History.opened twoSections).journal kept moves
  rw [← split] at run kept
  rw [List.take_add_one, place] at stays
  have last : ∀ e ∈ past.take 2, ∀ t, e.calls? ≠ some (1, t) := by
    intro e member t
    cases t with
    | light => exact (quiet e member).1
    | dark => exact (quiet e member).2
  obtain ⟨-, b, ahead, u, earlier, before, -, current⟩ :=
    last_call_current_iff run told last (by simp [news]) stays
  rw [theme] at current
  exact ⟨m, _, c, _, kept, told, last, theme, b, ahead, u, earlier, before,
    fun even ↦ by cases current.2 even⟩

end Session

end Wayfinder
