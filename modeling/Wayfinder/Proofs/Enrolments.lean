import Wayfinder.Proofs.Ledgers

namespace Wayfinder.Session

variable {may : Stage → Step → Prop} {past : List Move} {m m' : Machine} {jobs jobs' : List Job}
  {j : Job} {e : Move} {source : Source} {token n k : Nat}

def Stage.sourceAt? (s : Stage) : Spot → Option Source
  | .store name => (s.names.stores.get? name).map .preference
  | .spy name => (s.names.spies.get? name).map .spy
  | .watch _ _ _ | .menu _ => none

def Stage.sourcesOf (s : Stage) : MenuOp → List Source
  | .create store sections _ _ =>
    match s.names.stores.get? store, Registry.ofSections sections with
    | some k, .ok _ => [.preference k, .spy s.spies.length]
    | _, _ => []
  | .createBare store => (s.names.stores.get? store).toList.map .preference
  | _ => []

def Stage.struck? (s : Stage) : Step → Option (Source × Nat)
  | .store name (.unsubscribe token) => (s.names.stores.get? name).map (.preference ·, token)
  | .spy name (.unsubscribe token) => (s.names.spies.get? name).map (.spy ·, token)
  | _ => none

/-- Who subscribes to the source by the move, and under which token. -/
def Move.enrols (e : Move) (source : Source) : Option (Nat × Hearer) :=
  match e.job with
  | .act (.listen spot _ _ _) =>
    if e.machine.stage.sourceAt? spot = some source then
      some ((e.machine.stage.ledger source).next, .probe e.machine.probes.length)
    else none
  | .act (.menu _ op) =>
    if source ∈ e.machine.stage.sourcesOf op then
      some ((e.machine.stage.ledger source).next, .menu e.machine.stage.menus.length)
    else none
  | _ => none

def Move.strikes (e : Move) (source : Source) (token : Nat) : Bool :=
  match e.job with
  | .act step => e.machine.stage.struck? step = some (source, token)
  | _ => false

def Move.quits (e : Move) (n : Nat) : Bool :=
  e.machine.stage.menus[n]?.any (·.themeToken.isSome) && e.result.menus[n]?.all
    (·.themeToken.isNone)

def Move.ends (e : Move) : Source → Nat × Hearer → Bool
  | .preference k, (token, .menu n) => e.strikes (.preference k) token || e.quits n
  | source, (token, _) => e.strikes source token

def enrolments (source : Source) : List Move → List (Nat × Hearer)
  | [] => []
  | e :: past => enrolments source past ++ (e.enrols source).toList

/-- The subscription has been ended since it was made. To strike a token that is not yet given out
ends nothing. -/
def ended (source : Source) (a : Nat × Hearer) : List Move → Bool
  | [] => false
  | e :: past => e.ends source a && a.1 < (enrolments source past).length || ended source a past

/-- The subscriptions that have been made and not been ended, in the order in which they were
made. -/
def inForce (source : Source) (past : List Move) : List (Nat × Hearer) :=
  (enrolments source past).filter (!ended source · past)

def Move.Loses (e : Move) (source : Source) (token : Nat) : Prop :=
  e.strikes source token ∨ ∃ n, e.machine.stage.Keeps n token source ∧
    ¬ e.result.Keeps n token source

structure Books (e : Move) (source : Source) : Prop where
  next : (e.result.ledger source).next = (e.machine.stage.ledger source).next +
    (e.enrols source).toList.length
  sublist : (e.result.ledger source).entries.Sublist
    ((e.machine.stage.ledger source).entries ++ (e.enrols source).toList)
  mem : ∀ {a : Nat × Hearer}, a ∈ (e.result.ledger source).entries ↔
    (a ∈ (e.machine.stage.ledger source).entries ∨ e.enrols source = some a) ∧ ¬ e.Loses source a.1
  keeps : ∀ {n token : Nat}, e.result.Keeps n token source →
    e.machine.stage.Keeps n token source ∨ e.enrols source = some (token, .menu n)

theorem Move.enrols_cases {a : Nat × Hearer} (enrols : e.enrols source = some a) :
    a.1 = (e.machine.stage.ledger source).next ∧
      ((∃ spot label script limit, e.job = .act (.listen spot label script limit) ∧
          e.machine.stage.sourceAt? spot = some source ∧ a.2 = .probe e.machine.probes.length) ∨
        ∃ name op, e.job = .act (.menu name op) ∧ a.2 = .menu e.machine.stage.menus.length) := by
  unfold Move.enrols at enrols
  split at enrols
  · rename_i job
    obtain ⟨at_, ⟨⟩⟩ := Option.ite_none_right_eq_some.1 enrols
    exact ⟨rfl, .inl ⟨_, _, _, _, job, at_, rfl⟩⟩
  · rename_i job
    obtain ⟨-, ⟨⟩⟩ := Option.ite_none_right_eq_some.1 enrols
    exact ⟨rfl, .inr ⟨_, _, job, rfl⟩⟩
  · cases enrols

theorem Move.enrols_probe {p : Nat} (enrols : e.enrols source = some (token, .probe p)) :
    ∃ spot label script limit, e.job = .act (.listen spot label script limit) ∧
      e.machine.stage.sourceAt? spot = some source ∧ e.machine.probes.length = p := by
  obtain ⟨-, ⟨spot, label, script, limit, job, at_, ⟨⟩⟩ | ⟨_, _, -, ⟨⟩⟩⟩ := Move.enrols_cases enrols
  exact ⟨spot, label, script, limit, job, at_, rfl⟩

/-- A move that makes a subscription ends none. -/
theorem Move.strikes_of_enrols {a : Nat × Hearer} (enrols : e.enrols source = some a)
    (token : Nat) :
    e.strikes source token = false := by
  obtain ⟨-, ⟨_, _, _, _, job, -⟩ | ⟨_, _, job, -⟩⟩ := Move.enrols_cases enrols
  · simp [Move.strikes, job, Stage.struck?]
  · simp [Move.strikes, job, Stage.struck?]

namespace Books

/-- Somebody may subscribe, and menus may then give up their own subscriptions; the newcomer does
not. -/
theorem of_made (s₁ : Stage) (spares : ∀ token, e.strikes source token = false)
    (ledger : s₁.ledger source =
      (e.enrols source).elim (e.machine.stage.ledger source) fun a ↦
        (e.machine.stage.ledger source).add a.2)
    (kept : ∀ {n token : Nat}, e.machine.stage.Keeps n token source → s₁.Keeps n token source)
    (keeps : ∀ {n token : Nat}, s₁.Keeps n token source → e.machine.stage.Keeps n token source ∨
      e.enrols source = some (token, .menu n) ∧ e.result.Keeps n token source)
    (lapses : Lapses s₁ e.result source) : Books e source := by
  have entries : (s₁.ledger source).entries =
      (e.machine.stage.ledger source).entries ++ (e.enrols source).toList := by
    rw [ledger]
    cases enrols : e.enrols source with
    | none => simp
    | some a =>
      rw [Option.elim_some, Subscribers.add, ← (Move.enrols_cases enrols).1, Option.toList_some]
  refine ⟨?_, ?_, fun {a} ↦ ?_, fun {n token} after ↦ ?_⟩
  · rw [lapses.next, ledger]
    cases e.enrols source <;> rfl
  · rw [← entries]
    exact lapses.sublist
  · rw [lapses.mem, entries, List.mem_append, Option.mem_toList]
    have spares : ¬ e.strikes source a.1 := by simp [spares]
    rw [Move.Loses, or_iff_right spares]
    refine and_congr_right fun _ ↦ not_congr ⟨?_, ?_⟩
    · rintro ⟨n, known, lost⟩
      obtain known | ⟨-, stays⟩ := keeps known
      · exact ⟨n, known, lost⟩
      · exact absurd stays lost
    · rintro ⟨n, known, lost⟩
      exact ⟨n, kept known, lost⟩
  · exact (keeps (lapses.keeps after)).imp_right And.left

theorem of_lapses (enrols : e.enrols source = none)
    (spares : ∀ token, e.strikes source token = false)
    (lapses : Lapses e.machine.stage e.result source) : Books e source := by
  refine .of_made e.machine.stage spares ?_ (fun known ↦ known) .inl lapses
  rw [enrols, Option.elim_none]

/-- A subscription that is ended by its token leaves the ledger, and no other one does. -/
theorem of_struck {step : Step} (target : Option Source) (token : Nat)
    (struck : m.stage.struck? step = target.map (·, token))
    (enrols : Move.enrols ⟨m, jobs, .act step⟩ source = none)
    (effect : (m.stage.perform m.probes.length step).stage.menus = m.stage.menus ∧
      (m.stage.perform m.probes.length step).stage.ledger source =
        if target = some source then (m.stage.ledger source).remove token
        else m.stage.ledger source) :
    Books ⟨m, jobs, .act step⟩ source := by
  have result : Move.result ⟨m, jobs, .act step⟩ = (m.stage.perform m.probes.length step).stage :=
    rfl
  have strikes (t : Nat) :
      Move.strikes ⟨m, jobs, .act step⟩ source t = decide (target = some source ∧ t = token) := by
    simp only [Move.strikes, struck]
    cases target <;> simp [eq_comm]
  obtain ⟨menus, ledger⟩ := effect
  rw [← result] at menus ledger
  have entries : (Move.result ⟨m, jobs, .act step⟩ |>.ledger source).entries =
      (m.stage.ledger source).entries.filter fun a ↦
        !Move.strikes ⟨m, jobs, .act step⟩ source a.1 := by
    rw [ledger]
    split
    · rename_i here
      simp [Subscribers.remove, strikes, here]
    · rename_i elsewhere
      simp [strikes, elsewhere]
  refine ⟨?_, ?_, fun {a} ↦ ?_, fun after ↦ .inl ((Stage.keeps_congr menus).1 after)⟩
  · rw [ledger, enrols]
    split <;> rfl
  · rw [entries, enrols, Option.toList_none, List.append_nil]
    exact List.filter_sublist
  · have loses : Move.Loses ⟨m, jobs, .act step⟩ source a.1 ↔
        Move.strikes ⟨m, jobs, .act step⟩ source a.1 := by
      simp [Move.Loses, Stage.keeps_congr menus]
    rw [entries, List.mem_filter, loses, enrols]
    simp

end Books

namespace Stage

variable {s : Stage} {name : String} {f : Subscribers Hearer → Subscribers Hearer}

theorem ledger_onStore {reply : Nat → Mounted (Preference Hearer) → Reply}
    (change : Preference Hearer → Preference Hearer) (preferencesExist : PreferencesExist s)
    (stage : ∀ {k m}, s.stores[k]? = some m → (reply k m).stage = s.setStore k (change m.part))
    (listeners : ∀ p, (change p).listeners = f p.listeners) (source : Source) :
    (s.onStore name reply).stage.menus = s.menus ∧ (s.onStore name reply).stage.ledger source =
      if (s.names.stores.get? name).map .preference = some source then f (s.ledger source)
      else s.ledger source := by
  cases named : s.names.stores.get? name with
  | none =>
    rw [onStore, named]
    exact ⟨rfl, rfl⟩
  | some k =>
    have found := List.getElem?_eq_getElem (preferencesExist.named named)
    simp only [onStore, named, found, stage found, ledger_setStore found, Option.map_some,
      Option.some.injEq]
    refine ⟨rfl, ?_⟩
    by_cases here : source = .preference k
    · rw [if_pos here, if_pos here.symm, here, ledger_preference_of_found found, listeners]
    · rw [if_neg here, if_neg (Ne.symm here)]

theorem ledger_onSpy {reply : Nat → Mounted (Spy Hearer) → Reply} (change : Spy Hearer → Spy Hearer)
    (owned : Private s)
    (stage : ∀ {n m}, s.spies[n]? = some m → (reply n m).stage = s.setSpy n (change m.part))
    (listeners : ∀ p, (change p).listeners = f p.listeners) (source : Source) :
    (s.onSpy name reply).stage.menus = s.menus ∧ (s.onSpy name reply).stage.ledger source =
      if (s.names.spies.get? name).map .spy = some source then f (s.ledger source)
      else s.ledger source := by
  cases named : s.names.spies.get? name with
  | none =>
    rw [onSpy, named]
    exact ⟨rfl, rfl⟩
  | some n =>
    have found := List.getElem?_eq_getElem (owned.named named)
    simp only [onSpy, named, found, stage found, ledger_setSpy found, Option.map_some,
      Option.some.injEq]
    refine ⟨rfl, ?_⟩
    by_cases here : source = .spy n
    · rw [if_pos here, if_pos here.symm, here, ledger_spy_of_found found, listeners]
    · rw [if_neg here, if_neg (Ne.symm here)]

end Stage

namespace Books

variable {name label : String} {spot : Spot} {script : List Step} {limit : Nat} {op : MenuOp}

/-- A listener joins the ledger of what it is set up for, as the last one. -/
theorem listen (preferencesExist : PreferencesExist m.stage) (owned : Private m.stage)
    (enlists : (Step.listen spot label script limit).enlists) :
    Books ⟨m, jobs, .act (.listen spot label script limit)⟩ source := by
  have made : (m.stage.performListen m.probes.length spot).stage.menus = m.stage.menus ∧
      (m.stage.performListen m.probes.length spot).stage.ledger source = if m.stage.sourceAt? spot =
        some source then
        (m.stage.ledger source).add (.probe m.probes.length) else m.stage.ledger source := by
    cases spot with
    | watch | menu => cases enlists
    | store name =>
      exact Stage.ledger_onStore (f := (·.add (.probe m.probes.length)))
        (·.subscribe (.probe m.probes.length)) preferencesExist
        (fun _ ↦ rfl) (fun _ ↦ rfl) source
    | spy name =>
      exact Stage.ledger_onSpy (f := (·.add (.probe m.probes.length)))
        (·.subscribe (.probe m.probes.length)) owned
        (fun _ ↦ rfl) (fun _ ↦ rfl) source
  obtain ⟨menus, ledger⟩ := made
  refine .of_made _ (fun _ ↦ by simp [Move.strikes, Stage.struck?]) ?_ (Stage.keeps_congr menus).2
    (fun after ↦ .inl ((Stage.keeps_congr menus).1 after)) (.of_same rfl Iff.rfl)
  refine ledger.trans ?_
  simp only [Move.enrols]
  split <;> rfl

theorem unsubscribeStore (preferencesExist : PreferencesExist m.stage) :
    Books ⟨m, jobs, .act (.store name (.unsubscribe token))⟩ source := by
  refine .of_struck ((m.stage.names.stores.get? name).map .preference) token ?_ rfl ?_
  · rw [Option.map_map]
    rfl
  · exact Stage.ledger_onStore (f := (·.remove token)) (·.unsubscribe token) preferencesExist
      (fun found ↦ by simp only [Stage.unsubscribeStore, found]) (fun _ ↦ rfl) source

theorem unsubscribeSpy (owned : Private m.stage) :
    Books ⟨m, jobs, .act (.spy name (.unsubscribe token))⟩ source := by
  refine .of_struck ((m.stage.names.spies.get? name).map .spy) token ?_ rfl ?_
  · rw [Option.map_map]
    rfl
  · exact Stage.ledger_onSpy (f := (·.remove token)) (·.unsubscribe token) owned (fun _ ↦ rfl)
      (fun _ ↦ rfl) source

/-- A new menu joins the ledgers of its preference and of its own spy. -/
theorem addMenu (s₁ : Stage) (contents : Option Contents) {p : Mounted (Preference Hearer)}
    (found : m.stage.stores[k]? = some p) (stores : s₁.stores = m.stage.stores)
    (menus : s₁.menus = m.stage.menus) (own : ∀ i, .preference i ∈ m.stage.sourcesOf op ↔ i = k)
    (spies : ∀ n, s₁.ledger (.spy n) = if .spy n ∈ m.stage.sourcesOf op then
      (m.stage.ledger (.spy n)).add (.menu m.stage.menus.length) else m.stage.ledger (.spy n))
    (stage : (m.stage.performMenu name op).stage =
      (s₁.addMenu k p.part contents).nameMenu name m.stage.menus.length) :
    Books ⟨m, jobs, .act (.menu name op)⟩ source := by
  have signed : SignsUp k m.stage (s₁.addMenu k p.part contents) :=
    .addMenu found stores menus contents
  have result : Move.result ⟨m, jobs, .act (.menu name op)⟩ = _ := stage
  have enrols (source : Source) : Move.enrols ⟨m, jobs, .act (.menu name op)⟩ source =
      if source ∈ m.stage.sourcesOf op then
        some ((m.stage.ledger source).next, .menu m.stage.menus.length)
      else none := rfl
  have spares (token : Nat) :
      Move.strikes ⟨m, jobs, .act (.menu name op)⟩ source token = false := by
    simp [Move.strikes, Stage.struck?]
  refine .of_made (s₁.addMenu k p.part contents) spares ?_ (fun {n token} known ↦ ?_)
    (fun {n token} known ↦ ?_) (result ▸ .nameMenu name _)
  · have found₁ : s₁.stores[k]? = some p := stores ▸ found
    refine (Stage.ledger_setStore (p := p.part.subscribe (.menu s₁.menus.length)) found₁
      source).trans ?_
    rw [enrols]
    cases source with
    | preference i =>
      simp only [own, Source.preference.injEq]
      split
      · rename_i here
        rw [here, Option.elim_some, Stage.ledger_preference_of_found found, menus]
        rfl
      · rw [Stage.ledger, stores]
        rfl
    | spy n =>
      rw [if_neg (by simp), spies]
      split <;> rfl
  · cases source with
    | preference i => exact signed.knows.2 (.inl known)
    | spy i => exact known
  · cases source with
    | preference i =>
      obtain known | ⟨rfl, rfl, rfl⟩ := signed.knows.1 known
      · exact .inl known
      · refine .inr ⟨?_, ?_⟩
        · rw [enrols, if_pos ((own _).2 rfl), Stage.next_ledger]
        · obtain ⟨menu, present, subscribed⟩ := known
          refine ⟨menu, ?_, subscribed⟩
          -- the name may be taken from another menu, which then goes, but the new one has it
          rw [result, Stage.nameMenu, Stage.menu_reclaimOld_of_isNamed]
          · exact present
          · simp [Stage.isNamed, Table.any_insert]
    | spy i => exact .inl known

theorem menu (preferencesExist : PreferencesExist m.stage) (enlists : (Step.menu name op).enlists) :
    Books ⟨m, jobs, .act (.menu name op)⟩ source := by
  have refused (none : m.stage.sourcesOf op = [])
      (stage : (m.stage.performMenu name op).stage = m.stage) :
      Books ⟨m, jobs, .act (.menu name op)⟩ source := by
    refine .of_lapses ?_ (fun token ↦ ?_) ?_
    · simp [Move.enrols, none]
    · simp [Move.strikes, Stage.struck?]
    · exact .of_same (congrArg (Stage.ledger · source) stage)
        (Stage.keeps_congr (congrArg Stage.menus stage))
  have present {store : String} {k : Nat} (named : m.stage.names.stores.get? store = some k) :
      ∃ p, m.stage.stores[k]? = some p :=
        ⟨_, List.getElem?_eq_getElem (preferencesExist.named named)⟩
  cases op with
  | create store sections headerOffset band =>
    cases named : m.stage.names.stores.get? store with
    | none =>
      refine refused ?_ ?_
      · simp [Stage.sourcesOf, named]
      · simp [Stage.performMenu, Stage.onStore, named, Stage.badRequest]
    | some k =>
      obtain ⟨p, found⟩ := present named
      cases valid : Registry.ofSections sections with
      | error _ =>
        refine refused ?_ ?_
        · simp [Stage.sourcesOf, named, valid]
        · simp [Stage.performMenu, Stage.onStore, named, found, valid]
      | ok registry =>
        have sources : m.stage.sourcesOf (.create store sections headerOffset band) =
            [.preference k, .spy m.stage.spies.length] := by
          simp only [Stage.sourcesOf, named, valid]
        refine .addMenu (m.stage.addContents registry band)
          (some ⟨m.stage.spies.length, ⟨headerOffset⟩⟩) found rfl rfl
          (fun i ↦ ?_) (fun n ↦ ?_) ?_
        · simp [sources]
        · rw [sources, Stage.ledger_addSpy (s := m.stage) rfl]
          simp only [List.mem_cons, reduceCtorEq, Source.spy.injEq, List.not_mem_nil,
            or_false, false_or]
          split
          · rename_i last
            rw [last, Stage.ledger_spies_length]
            rfl
          · rfl
        · simp only [Stage.performMenu, Stage.onStore, named, found, valid]
          rfl
  | createBare store =>
    cases named : m.stage.names.stores.get? store with
    | none =>
      refine refused ?_ ?_
      · simp [Stage.sourcesOf, named]
      · simp [Stage.performMenu, Stage.onStore, named, Stage.badRequest]
    | some k =>
      obtain ⟨p, found⟩ := present named
      have sources : m.stage.sourcesOf (.createBare store) = [.preference k] := by
        simp [Stage.sourcesOf, named]
      refine .addMenu m.stage none found rfl rfl (fun i ↦ ?_) (fun n ↦ ?_) ?_
      · simp [sources]
      · simp [sources]
      · simp only [Stage.performMenu, Stage.onStore, named, found]
  | _ => cases enlists

end Books

theorem Move.enrols_of_plain (plain : ∀ step, j = .act step → step.enlists = false) :
    Move.enrols ⟨m, jobs, j⟩ source = none := by
  cases j with
  | errand | report => rfl
  | act step =>
    have plain := plain step rfl
    cases step with
    | listen spot =>
      cases spot with
      | watch | menu => simp [Move.enrols, Stage.sourceAt?]
      | store | spy => cases plain
    | menu _ op =>
      cases op with
      | create | createBare => cases plain
      | _ => simp [Move.enrols, Stage.sourcesOf]
    | _ => rfl

theorem Move.strikes_of_plain (plain : ∀ step, j = .act step → step.enlists = false) (token : Nat) :
    Move.strikes ⟨m, jobs, j⟩ source token = false := by
  cases j with
  | errand | report => rfl
  | act step =>
    have plain := plain step rfl
    have unstruck : m.stage.struck? step = none := by
      unfold Stage.struck?
      split
      · cases plain
      · cases plain
      · rfl
    simp [Move.strikes, unstruck]

theorem Turn.lapses (turn : Turn may m jobs j m' jobs')
    (plain : ∀ step, j = .act step → step.enlists = false) (source : Source) :
    Lapses m.stage m'.stage source := by
  refine turn.edits_only.keep (I := fun s _ ↦ Lapses m.stage s source)
    (fun e h ↦ h.trans (e.lapses ?_ source))
    (.of_same rfl Iff.rfl)
  intro step allowed
  exact plain step allowed.2.symm

theorem History.books (run : History may past m jobs) (turn : Turn may m jobs j m' jobs')
    (source : Source) :
    Books ⟨m, jobs, j⟩ source := by
  by_cases plain : ∀ step, j = .act step → step.enlists = false
  · exact .of_lapses (Move.enrols_of_plain plain) (Move.strikes_of_plain plain)
      (turn.result ▸ turn.lapses plain source)
  · obtain ⟨step, rfl, enlists⟩ : ∃ step, j = .act step ∧ step.enlists := by simpa using plain
    cases step with
    | listen => exact .listen run.preferencesExist run.owned enlists
    | menu => exact .menu run.preferencesExist enlists
    | store _ op =>
      cases op with
      | unsubscribe => exact .unsubscribeStore run.preferencesExist
      | _ => cases enlists
    | spy _ op =>
      cases op with
      | unsubscribe => exact .unsubscribeSpy run.owned
      | _ => cases enlists
    | page | handle | scroller | malformed => cases enlists

/-- The next token is the number of subscriptions so far. -/
theorem History.next_ledger (run : History may past m jobs) (source : Source) :
    (m.stage.ledger source).next = (enrolments source past).length := by
  induction run with
  | opened page => cases source <;> rfl
  | turn run turn ih =>
    rw [turn.result, (run.books turn source).next, ih, enrolments, List.length_append]

theorem History.map_fst_enrolments (run : History may past m jobs) (source : Source) :
    (enrolments source past).map Prod.fst = List.range (enrolments source past).length := by
  induction run with
  | opened page => rfl
  | @turn past m m' jobs jobs' j run turn ih =>
    rw [enrolments]
    cases enrols : Move.enrols ⟨m, jobs, j⟩ source with
    | none => simpa using ih
    | some a =>
      have last : a.1 = (enrolments source past).length :=
        (Move.enrols_cases enrols).1.trans (run.next_ledger source)
      simp [ih, last, List.range_succ]

theorem History.lt_of_mem_enrolments {a : Nat × Hearer} (run : History may past m jobs)
    (member : a ∈ enrolments source past) : a.1 < (enrolments source past).length := by
  rw [← List.mem_range, ← run.map_fst_enrolments source]
  exact List.mem_map_of_mem member

theorem History.eq_of_token {a b : Nat × Hearer} (run : History may past m jobs)
    (first : a ∈ enrolments source past) (second : b ∈ enrolments source past) (token : a.1 = b.1) :
    a = b := by
  have distinct : ((enrolments source past).map Prod.fst).Nodup :=
    run.map_fst_enrolments source ▸ List.nodup_range
  exact List.inj_on_of_nodup_map distinct first second token

theorem History.sublist_enrolments (run : History may past m jobs) (source : Source) :
    (m.stage.ledger source).entries.Sublist (enrolments source past) := by
  induction run with
  | opened page => cases source <;> exact List.Sublist.refl _
  | turn run turn ih =>
    rw [turn.result]
    exact (run.books turn source).sublist.trans (ih.append_right _)

theorem History.mem_enrolments_of_keeps (run : History may past m jobs)
    (keeps : m.stage.Keeps n token source) :
    (token, .menu n) ∈ enrolments source past := by
  induction run with
  | opened page =>
    cases source with
    | preference k => obtain ⟨menu, ⟨⟩, -⟩ := keeps
    | spy _ => exact keeps.elim
  | turn run turn ih =>
    rw [turn.result] at keeps
    obtain old | new := (run.books turn source).keeps keeps
    · exact List.mem_append_left _ (ih old)
    · exact List.mem_append_right _ (Option.mem_toList.2 new)

theorem Move.enrols_preference (e : Move) (k : Nat) :
    e.enrols (.preference k) = e.subscribes k := by
  obtain ⟨m, jobs, j⟩ := e
  have chosen {store : String} {hearer : Hearer} :
      (if (m.stage.names.stores.get? store) = some k then
      some ((m.stage.ledger (.preference k)).next, hearer) else none) =
      ((some (store, hearer)).filter fun joined ↦ m.stage.names.stores.get? joined.1 = some k).map
        fun joined ↦ (m.stage.nextToken k, joined.2) := by
    rw [Stage.next_ledger]
    by_cases named : m.stage.names.stores.get? store = some k <;> simp [Option.filter, named]
  cases j with
  | errand | report => rfl
  | act step =>
    cases step with
    | listen spot =>
      cases spot with
      | store name =>
        refine Eq.trans ?_ chosen
        simp [Move.enrols, Stage.sourceAt?]
      | spy | watch | menu => simp [Move.enrols, Move.subscribes, Move.joins, Stage.sourceAt?]
    | menu name op =>
      cases op with
      | create store sections headerOffset band =>
        cases valid : Registry.ofSections sections with
        | error _ =>
          simp [Move.enrols, Move.subscribes, Move.joins, Stage.sourcesOf, MenuOp.store?, valid,
            Except.toOption]
        | ok registry =>
          simp only [Move.subscribes, Move.joins, MenuOp.store?, valid, Except.toOption,
            Option.map_some, ← chosen]
          cases named : m.stage.names.stores.get? store with
          | none => simp [Move.enrols, Stage.sourcesOf, named]
          | some i => simp [Move.enrols, Stage.sourcesOf, named, valid, eq_comm]
      | createBare store =>
        refine Eq.trans ?_ chosen
        simp [Move.enrols, Stage.sourcesOf]
      | _ => rfl
    | _ => rfl

theorem enrolments_preference (k : Nat) (past : List Move) :
    enrolments (.preference k) past = subscriptions k past := by
  induction past with
  | nil => rfl
  | cons e past ih => rw [enrolments, ih, e.enrols_preference, subscriptions]

theorem History.loses_iff {a : Nat × Hearer} (run : History may past m jobs)
    (turn : Turn may m jobs j m' jobs') (member : a ∈ enrolments source past) :
    Move.Loses ⟨m, jobs, j⟩ source a.1 ↔ Move.ends ⟨m, jobs, j⟩ source a := by
  obtain ⟨token, hearer⟩ := a
  -- tokens are given out once: nobody but the subscriber itself can have kept the token
  have own {n : Nat} (keeps : m.stage.Keeps n token source) : hearer = .menu n :=
    congrArg Prod.snd (run.eq_of_token member (run.mem_enrolments_of_keeps keeps) rfl)
  have struck (kept : ∀ n, ¬ m.stage.Keeps n token source) :
      Move.Loses ⟨m, jobs, j⟩ source token ↔ Move.strikes ⟨m, jobs, j⟩ source token := by
    simp [Move.Loses, kept]
  cases source with
  | spy i =>
    refine (struck fun _ keeps ↦ keeps).trans ?_
    cases hearer <;> exact Iff.rfl
  | preference k =>
    cases hearer with
    | probe p =>
      refine struck fun n keeps ↦ ?_
      cases own keeps
    | menu n =>
      have before := enrolments_preference k past ▸ member
      have after : (token, .menu n) ∈ subscriptions k (⟨m, jobs, j⟩ :: past) :=
        List.mem_append_left _ before
      obtain ⟨menu, found, store, kept⟩ := run.menu_of_subscriptions before
      obtain ⟨menu', found', store', kept'⟩ := (run.turn turn).menu_of_subscriptions after
      have knows {s : Stage} {menu : Menu} (found : s.menus[n]? = some menu)
          (store : menu.store = k)
          (kept : menu.themeToken = some token ∨ menu.themeToken = none) :
          s.Knows n k token ↔ menu.themeToken.isSome := by
        simp only [Stage.Knows, found, Option.some.injEq, exists_eq_left', store, true_and]
        obtain kept | kept := kept <;> simp [kept]
      have quits : Move.quits ⟨m, jobs, j⟩ n ↔ m.stage.Knows n k token ∧
          ¬ m'.stage.Knows n k token := by
        rw [knows found store kept, knows found' store' kept', Move.quits, ← turn.result]
        simp [found, found']
      rw [Move.ends, Bool.or_eq_true, quits, Move.Loses, ← turn.result]
      refine or_congr_right ⟨?_, fun lost ↦ ⟨n, lost⟩⟩
      rintro ⟨i, keeps, lost⟩
      cases own keeps
      exact ⟨keeps, lost⟩

theorem ended_of_le {a : Nat × Hearer} (later : (enrolments source past).length ≤ a.1) :
    ended source a past = false := by
  induction past with
  | nil => rfl
  | cons e past ih =>
    have early : (enrolments source past).length ≤ a.1 := by
      rw [enrolments, List.length_append] at later
      omega
    simp [ended, ih early, Nat.not_lt.2 early]

theorem History.lt_probes {p : Nat} (run : History may past m jobs)
    (member : (token, .probe p) ∈ enrolments source past) : p < m.probes.length := by
  induction run with
  | opened page => cases member
  | @turn past m m' jobs jobs' j run turn ih =>
    obtain old | new := List.mem_append.1 member
    · exact Nat.lt_of_lt_of_le (ih old) turn.length_probes
    · obtain ⟨spot, label, script, limit, job, -, last⟩ :=
        Move.enrols_probe (Option.mem_toList.1 new)
      obtain rfl : j = .act (.listen spot label script limit) := job
      obtain rfl : m.probes.length = p := last
      rw [turn.probes_listen]
      exact Nat.lt_succ_self _

/-- Whoever subscribes gets to know the token. -/
theorem History.outcome_listen {p : Nat} {step : Step} (run : History may past m jobs)
    (made : e ∈ past) (job : e.job = .act step)
    (enrols : e.enrols source = some (token, .probe p)) :
    e.machine.outcome step = .token token := by
  obtain ⟨later, earlier, split⟩ := List.append_of_mem made
  have run := run.before split
  have last : token = _ := (Move.enrols_cases enrols).1
  obtain ⟨spot, label, script, limit, job', source?, -⟩ := Move.enrols_probe enrols
  obtain rfl : step = .listen spot label script limit := Job.act.inj (job.symm.trans job')
  rw [last]
  cases spot with
  | watch | menu => cases source?
  | store name =>
    obtain ⟨k, named, rfl⟩ := Option.map_eq_some_iff.1 source?
    have found := List.getElem?_eq_getElem (run.preferencesExist.named named)
    simp only [Machine.outcome, Machine.reply, Stage.perform, Stage.performListen, Stage.onStore,
      named, found, Stage.ledger_preference_of_found found]
  | spy name =>
    obtain ⟨n, named, rfl⟩ := Option.map_eq_some_iff.1 source?
    have found := List.getElem?_eq_getElem (run.owned.named named)
    simp only [Machine.outcome, Machine.reply, Stage.perform, Stage.performListen, Stage.onSpy,
      named, found, Stage.ledger_spy_of_found found]

/-- A subscription is on the ledger until it is ended. -/
theorem History.mem_ledger_iff {a : Nat × Hearer} (run : History may past m jobs)
    (member : a ∈ enrolments source past) :
    a ∈ (m.stage.ledger source).entries ↔ ended source a past = false := by
  induction run with
  | opened page => cases member
  | @turn past m m' jobs jobs' j run turn ih =>
    have books := run.books turn source
    rw [turn.result, books.mem]
    -- an old subscription can only be ended; a new one has the next token, which nobody has kept or
    -- struck yet
    obtain old | new := List.mem_append.1 member
    · have below := run.lt_of_mem_enrolments old
      have other : Move.enrols ⟨m, jobs, j⟩ source ≠ some a := by
        intro enrols
        have last : a.1 = _ := (Move.enrols_cases enrols).1.trans (run.next_ledger source)
        omega
      rw [or_iff_left other, ih old, run.loses_iff turn old, ended]
      simp [below, and_comm]
    · have enrols := Option.mem_toList.1 new
      have last : a.1 = _ := (Move.enrols_cases enrols).1.trans (run.next_ledger source)
      refine iff_of_true ⟨.inr enrols, ?_⟩ ?_
      · rintro (strikes | ⟨n, keeps, -⟩)
        · simp [Move.strikes_of_enrols enrols] at strikes
        · exact absurd (run.lt_of_mem_enrolments (run.mem_enrolments_of_keeps keeps))
            (by simp [last])
      · simp [ended, last, ended_of_le (Nat.le_of_eq last.symm)]

theorem History.entries_ledger (run : History may past m jobs) (source : Source) :
    (m.stage.ledger source).entries = inForce source past := by
  have distinct : ((enrolments source past).map id).Nodup := by
    rw [List.map_id]
    exact (run.map_fst_enrolments source ▸ List.nodup_range).of_map _
  have sublist : (m.stage.ledger source).entries.Sublist ((enrolments source past).map id) := by
    rw [List.map_id]
    exact run.sublist_enrolments source
  rw [eq_filter_of_sublist sublist distinct, List.map_id, inForce]
  intro a member
  rw [id, run.mem_ledger_iff member, Bool.not_eq_true']

end Wayfinder.Session
