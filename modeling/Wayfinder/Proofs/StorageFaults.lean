import Wayfinder.Proofs.Preferences

namespace Wayfinder.Session

/-- Makes storage fail or work again. -/
def Step.isStorageFault : Step → Bool
  | .page (.disableStorage _) | .page (.failRead _) | .page (.failWrite _) => true
  | _ => false

def isStorageFaultName (name : String) : Bool :=
  name = (PageOp.disableStorage true).name || name = (PageOp.failRead none).name

mutual

/-- The step without what happens to storage in the script that it sets up. -/
def Step.withoutFaults : Step → Step
  | .listen spot label script limit => .listen spot label (scriptWithoutFaults script) limit
  | s => s

def scriptWithoutFaults : List Step → List Step
  | [] => []
  | s :: script =>
    if s.isStorageFault then scriptWithoutFaults script
    else s.withoutFaults :: scriptWithoutFaults script

end

mutual

/-- The step, with all that it sets up, is an operation on the preference of this name or happens to
storage. -/
def Step.concerns (name : String) : Step → Bool
  | .store other .load | .store other .toggle | .store other (.unsubscribe _) => other = name
  | .listen (.store other) _ script _ => other = name && scriptConcerns name script
  | s => s.isStorageFault

def scriptConcerns (name : String) : List Step → Bool
  | [] => true
  | s :: script => s.concerns name && scriptConcerns name script

end

def Event.isShown : Event → Bool
  | .noted _ => false
  | .heard _ _ => true
  | .did step _ => !isStorageFaultName step

/-- What is to be seen of a step: what it returns, the listeners called and the steps taken on the
way, and then the theme of the preference and of its page. -/
structure Sight where
  outcome : Outcome
  events : List Event
  theme : Option Theme
  worn : Option Theme

def Stage.worn? (s : Stage) (name : String) : Option Theme :=
  (s.store? name).bind fun m ↦ s.documents[m.document]?.bind (·.applied)

def Machine.sights (name : String) (m : Machine) : List Step → List Sight
  | [] => []
  | s :: script =>
    let next := m.forget.step s
    let later := sights name next script
    if s.isStorageFault then later
    else ⟨m.outcome s, next.trace.filter Event.isShown, (next.stage.store? name).map (·.part.theme),
      next.stage.worn? name⟩ :: later

variable {name : String} {step : Step} {script : List Step}

theorem scriptWithoutFaults_eq (script : List Step) :
    scriptWithoutFaults script = (script.filter (!·.isStorageFault)).map Step.withoutFaults := by
  induction script with
  | nil => rw [scriptWithoutFaults, List.filter_nil, List.map_nil]
  | cons s script ih => cases fault : s.isStorageFault <;> simp [scriptWithoutFaults, fault, ih]

theorem scriptConcerns_iff : scriptConcerns name script ↔ ∀ s ∈ script, s.concerns name := by
  induction script with
  | nil => simp [scriptConcerns]
  | cons s script ih => simp [scriptConcerns, ih]

theorem Step.name_withoutFaults (s : Step) : s.withoutFaults.name = s.name := by
  cases s <;> simp [withoutFaults, Step.name]

theorem Step.isStorageFault_withoutFaults (s : Step) :
    s.withoutFaults.isStorageFault = s.isStorageFault := by
  cases s <;> simp [withoutFaults, isStorageFault]

theorem isStorageFaultName_name (concerns : step.concerns name) :
    isStorageFaultName step.name = step.isStorageFault := by
  cases step with
  | page op => cases op <;> first | rfl | simp [Step.concerns, Step.isStorageFault] at concerns
  | store other op => cases op <;> rfl
  | listen spot label script limit => cases spot <;> rfl
  | _ => simp [Step.concerns, Step.isStorageFault] at concerns

def Probe.withoutFaults (p : Probe) : Probe := { p with script := scriptWithoutFaults p.script }

def Job.isQuiet : Job → Bool
  | .act s => s.isStorageFault
  | .report step _ => isStorageFaultName step
  | .errand _ => false

def Job.withoutFaults : Job → Job
  | .act s => .act s.withoutFaults
  | j => j

def Job.serves (name : String) : Job → Bool
  | .act s => s.concerns name
  | .errand (.tell (.probe _) _) | .errand (.call _ _) | .report _ _ => true
  | .errand _ => false

def jobsWithoutFaults (jobs : List Job) : List Job :=
  (jobs.filter (!·.isQuiet)).map Job.withoutFaults

theorem jobsWithoutFaults_append (jobs rest : List Job) :
    jobsWithoutFaults (jobs ++ rest) = jobsWithoutFaults jobs ++ jobsWithoutFaults rest := by
  simp [jobsWithoutFaults]

theorem jobsWithoutFaults_errands (errands : List Errand) :
    jobsWithoutFaults (errands.map .errand) = errands.map .errand := by
  induction errands with
  | nil => rfl
  | cons t errands ih => exact congrArg (List.cons _) ih

theorem jobsWithoutFaults_acts (script : List Step) :
    jobsWithoutFaults (script.map .act) = (scriptWithoutFaults script).map .act := by
  simp [jobsWithoutFaults, scriptWithoutFaults_eq, List.filter_map, Function.comp_def, Job.isQuiet,
    Job.withoutFaults]

structure LoadedAndApplied (name : String) (p : Preference Hearer) (s : Stage) : Prop where
  found : ∃ n k d, s.names.stores.get? name = some n ∧ s.stores[n]? = some ⟨k, p⟩ ∧
    s.documents[k]? = some d ∧
    d.applied = some p.theme
  loaded : p.loaded
  heard : ∀ h ∈ p.listeners.toList, ∃ probe, h = .probe probe

structure Effect where
  preference : Preference Hearer
  errands : List Errand := []
  outcome : Outcome := .nothing

def Step.effect (probe : Nat) (p : Preference Hearer) : Step → Effect
  | .store _ .load => { preference := p, outcome := .theme (some p.theme) }
  | .store _ .toggle =>
    { preference := { p with theme := p.theme.toggled }
      errands := tellAll p.listeners.toList (.theme p.theme.toggled)
      outcome := .theme (some p.theme.toggled) }
  | .store _ (.unsubscribe token) => { preference := p.unsubscribe token }
  | .listen _ _ _ _ =>
    { preference := p.subscribe (.probe probe), outcome := .token p.listeners.next }
  | _ => { preference := p }

theorem Stage.perform_withoutFaults (s : Stage) (probe : Nat) (step : Step) :
    s.perform probe step.withoutFaults = s.perform probe step := by
  cases step <;> simp [Step.withoutFaults, perform]

section Stages

variable {s : Stage} {p : Preference Hearer} {d : Document Receiver} {n k probe : Nat}

/-- The stage and the effect of a use of the preference, given what it changes. -/
theorem LoadedAndApplied.use (probe : Nat) (use : Use) (named : s.names.stores.get? name = some n)
    (found : s.stores[n]? = some ⟨k, p⟩) (document : s.documents[k]? = some d)
    {next : Preference Hearer} {told : List Hearer}
    (preference : (use.change p d s.faults).preference = next)
    (dressed : (use.change p d s.faults).document.applied = some next.theme)
    (tells : (use.change p d s.faults).told = told) (loaded : next.loaded)
    (heard : ∀ h ∈ next.listeners.toList, ∃ probe, h = .probe probe) :
    LoadedAndApplied name next (s.perform probe (.store name use.op)).stage ∧
      (s.perform probe (.store name use.op)).errands = tellAll told (.theme next.theme) ∧
      (s.perform probe (.store name use.op)).outcome = .theme (some next.theme) := by
  rw [Stage.perform_op probe use named found document, preference, tells]
  refine ⟨⟨⟨n, k, _, named, ?_, ?_, dressed⟩, loaded, heard⟩, rfl, rfl⟩
  · exact (Stage.getElem?_setStore found n).trans (if_pos rfl)
  · exact (Stage.getElem?_setDocument document k).trans (if_pos rfl)

/-- The first load finds what is stored, else what the system prefers. -/
theorem LoadedAndApplied.first (probe : Nat) (named : s.names.stores.get? name = some n)
    (found : s.stores[n]? = some ⟨k, p⟩) (document : s.documents[k]? = some d)
    (first : p.loaded = false) (heard : ∀ h ∈ p.listeners.toList, ∃ probe, h = .probe probe) :
    let t := p.resolve d s.faults
    LoadedAndApplied name { p with theme := t, loaded := true }
      (s.perform probe (.store name .load)).stage ∧
      (s.perform probe (.store name .load)).errands =
        tellAll (if p.theme = t then [] else p.listeners.toList) (.theme t) ∧
      (s.perform probe (.store name .load)).outcome = .theme (some t) := by
  obtain ⟨preference, dressed⟩ := Preference.load_of_not_loaded d s.faults first
  exact LoadedAndApplied.use probe .load named found document preference
    (congrArg Document.applied dressed)
    (Preference.told_load d s.faults first) rfl heard

/-- A change of who subscribes to the preference. -/
theorem LoadedAndApplied.enroll (h : LoadedAndApplied name p s)
    (named : s.names.stores.get? name = some n) (found : s.stores[n]? = some ⟨k, p⟩)
    {listeners : Subscribers Hearer} (heard : ∀ h ∈ listeners.toList, ∃ probe, h = .probe probe) :
    LoadedAndApplied name { p with listeners } (s.setStore n { p with listeners }) := by
  obtain ⟨n', k', d, named', found', document, applied⟩ := h.found
  cases named.symm.trans named'
  cases found.symm.trans found'
  exact ⟨⟨n, k, d, named, (Stage.getElem?_setStore found n).trans (if_pos rfl), document, applied⟩,
    h.loaded, heard⟩

/-- To disable storage, or to enable it, changes nothing else about the current page. -/
theorem LoadedAndApplied.disable (h : LoadedAndApplied name p s) (disabled : Bool) :
    LoadedAndApplied name p (s.perform probe (.page (.disableStorage disabled))).stage ∧
      (s.perform probe (.page (.disableStorage disabled))).errands = [] := by
  obtain ⟨n, k, d, named, found, document, applied⟩ := h.found
  simp only [Stage.perform, Stage.performPage, Stage.onDocument]
  cases current : s.documents[s.current]? with
  | none => exact ⟨h, rfl⟩
  | some d' =>
    refine ⟨⟨?_, h.loaded, h.heard⟩, rfl⟩
    by_cases same : k = s.current
    · subst same
      cases document.symm.trans current
      exact ⟨n, _, _, named, found, (Stage.getElem?_setDocument current _).trans (if_pos rfl),
        applied⟩
    · exact ⟨n, k, d, named, found,
        (Stage.getElem?_setDocument current k).trans ((if_neg same).trans document), applied⟩

theorem LoadedAndApplied.perform (h : LoadedAndApplied name p s) (probe : Nat)
    (concerns : step.concerns name) :
    LoadedAndApplied name (step.effect probe p).preference (s.perform probe step).stage ∧
      (s.perform probe step).errands = (step.effect probe p).errands ∧
      (step.isStorageFault = false →
        (s.perform probe step).outcome = (step.effect probe p).outcome) := by
  obtain ⟨n, k, d, named, found, document, applied⟩ := h.found
  cases step with
  | page op =>
    cases op with
    | disableStorage disabled =>
      obtain ⟨loadedAndApplied, errands⟩ := h.disable disabled
      exact ⟨loadedAndApplied, errands, by simp [Step.isStorageFault]⟩
    | failRead reason | failWrite reason =>
      exact ⟨⟨⟨n, k, d, named, found, document, applied⟩, h.loaded, h.heard⟩, rfl, fun _ ↦ rfl⟩
    | _ => simp [Step.concerns, Step.isStorageFault] at concerns
  | store other op =>
    cases op with
    | load =>
      obtain rfl : other = name := by simpa [Step.concerns] using concerns
      have same := Preference.load_of_loaded d s.faults h.loaded
      obtain ⟨loadedAndApplied, errands, outcome⟩ :=
        LoadedAndApplied.use probe .load named found document
        (congrArg (·.preference) same) ((congrArg (·.document.applied) same).trans applied)
          (congrArg (·.told) same)
        h.loaded h.heard
      exact ⟨loadedAndApplied, errands, fun _ ↦ outcome⟩
    | toggle =>
      obtain rfl : other = name := by simpa [Step.concerns] using concerns
      have worn := congrArg Document.applied (Preference.document_toggle p d s.faults)
      obtain ⟨loadedAndApplied, errands, outcome⟩ :=
        LoadedAndApplied.use probe .toggle named found document
        (Preference.preference_toggle p d s.faults) worn (Preference.told_toggle p d s.faults)
          h.loaded h.heard
      exact ⟨loadedAndApplied, errands, fun _ ↦ outcome⟩
    | unsubscribe token =>
      obtain rfl : other = name := by simpa [Step.concerns] using concerns
      simp only [Stage.perform, Stage.performStore, Stage.onStore, Stage.unsubscribeStore,
        named, found]
      refine ⟨h.enroll named found fun hearer remains ↦ h.heard hearer ?_, rfl, fun _ ↦ rfl⟩
      obtain ⟨e, kept, rfl⟩ := List.mem_map.1 remains
      exact List.mem_map.2 ⟨e, (p.listeners.mem_entries_remove.1 kept).1, rfl⟩
    | _ => simp [Step.concerns, Step.isStorageFault] at concerns
  | listen spot label script limit =>
    cases spot with
    | store other =>
      obtain ⟨rfl, -⟩ : other = name ∧ scriptConcerns name script := by
        simpa [Step.concerns] using concerns
      simp only [Stage.perform, Stage.performListen, Stage.onStore, named, found]
      refine ⟨h.enroll named found fun hearer joined ↦ ?_, rfl, fun _ ↦ rfl⟩
      rw [Subscribers.toList_add, List.mem_append, List.mem_singleton] at joined
      obtain old | new := joined
      · exact h.heard hearer old
      · exact ⟨probe, new⟩
    | _ => simp [Step.concerns, Step.isStorageFault] at concerns
  | _ => simp [Step.concerns, Step.isStorageFault] at concerns

end Stages

/-- The second machine is where the first would be if nothing had happened to storage since the
load, as far as the preference of this name and the listeners are concerned. -/
structure Mimics (name : String) (p : Preference Hearer) (m faultless : Machine) : Prop where
  loadedAndApplied : LoadedAndApplied name p m.stage
  follows : LoadedAndApplied name p faultless.stage
  probes : faultless.probes = m.probes.map Probe.withoutFaults
  scripts : ∀ q ∈ m.probes, scriptConcerns name q.script
  shown : faultless.trace.filter Event.isShown = m.trace.filter Event.isShown

section Machines

variable {p : Preference Hearer} {m faultless : Machine} {j : Job} {jobs : List Job}

theorem filter_isShown_noted (notes : List Note) :
    (notes.map Event.noted).filter Event.isShown = [] :=
  List.filter_eq_nil_iff.2 (by simp [Event.isShown])

theorem newProbe_withoutFaults (s : Step) :
    Machine.newProbe s.withoutFaults = (Machine.newProbe s).map Probe.withoutFaults := by
  cases s <;> simp [Step.withoutFaults, Machine.newProbe, Probe.withoutFaults]

theorem scriptConcerns_newProbe (concerns : step.concerns name) :
    ∀ q ∈ Machine.newProbe step, scriptConcerns name q.script := by
  cases step with
  | listen spot label script limit =>
    cases spot with
    | store other =>
      obtain ⟨-, script⟩ : other = name ∧ scriptConcerns name script := by
        simpa [Step.concerns] using concerns
      simpa [Machine.newProbe] using script
    | _ => simp [Step.concerns, Step.isStorageFault] at concerns
  | _ => simp [Machine.newProbe]

theorem newProbe_of_isStorageFault (fault : step.isStorageFault) : Machine.newProbe step = [] := by
  cases step <;> first | rfl | simp [Step.isStorageFault] at fault

theorem serves_errands {hearers : List Hearer} {news : Notice}
    (heard : ∀ h ∈ hearers, ∃ probe, h = .probe probe) :
    ∀ j ∈ (tellAll hearers news).map Job.errand, j.serves name := by
  intro j member
  obtain ⟨t, told, rfl⟩ := List.mem_map.1 member
  obtain ⟨h, hearer, rfl⟩ := List.mem_map.1 told
  obtain ⟨probe, rfl⟩ := heard h hearer
  rfl

theorem Step.serves_effect {probe : Nat}
    (heard : ∀ h ∈ p.listeners.toList, ∃ probe, h = .probe probe) (s : Step) :
    ∀ j ∈ (s.effect probe p).errands.map Job.errand, j.serves name := by
  unfold effect
  split
  · simp
  · exact serves_errands heard
  all_goals simp

namespace Mimics

theorem forget (h : Mimics name p m faultless) : Mimics name p m.forget faultless.forget :=
  { h with shown := rfl }

/-- Both take the step, and the preference comes out of it the same. -/
theorem of_reply (probes : faultless.probes = m.probes.map Probe.withoutFaults)
    (scripts : ∀ q ∈ m.probes, scriptConcerns name q.script)
    (shown : faultless.trace.filter Event.isShown = m.trace.filter Event.isShown)
    (concerns : step.concerns name)
    (loadedAndApplied : LoadedAndApplied name p (m.reply step).stage)
    (follows : LoadedAndApplied name p (faultless.reply step.withoutFaults).stage) :
    Mimics name p (m.take step) (faultless.take step.withoutFaults) where
  loadedAndApplied := loadedAndApplied
  follows := follows
  probes := by
    simp only [Machine.take, Machine.apply, probes, newProbe_withoutFaults, List.map_append]
  scripts q member := by
    obtain old | new := List.mem_append.1 member
    · exact scripts q old
    · exact scriptConcerns_newProbe concerns q new
  shown := by
    simp only [Machine.take, Machine.apply, List.filter_append, filter_isShown_noted,
      List.append_nil, shown]

theorem take (h : Mimics name p m faultless) (concerns : step.concerns name)
    (shows : step.isStorageFault = false) :
    Mimics name (step.effect m.probes.length p).preference (m.take step)
    (faultless.take step.withoutFaults) ∧
      (m.reply step).errands = (step.effect m.probes.length p).errands ∧
      (faultless.reply step.withoutFaults).errands = (m.reply step).errands ∧
      (faultless.reply step.withoutFaults).outcome = (m.reply step).outcome := by
  have numbers : faultless.probes.length = m.probes.length := by rw [h.probes, List.length_map]
  have reply : faultless.reply step.withoutFaults =
      faultless.stage.perform m.probes.length step := by
    rw [Machine.reply, Stage.perform_withoutFaults, numbers]
  obtain ⟨loadedAndApplied, errands, outcome⟩ := h.loadedAndApplied.perform m.probes.length concerns
  obtain ⟨follows, errands', outcome'⟩ := h.follows.perform m.probes.length concerns
  refine ⟨of_reply h.probes h.scripts h.shown concerns loadedAndApplied (reply ▸ follows),
    errands, ?_, ?_⟩
  · rw [reply, errands', Machine.reply, errands]
  · rw [reply, outcome' shows, Machine.reply, outcome shows]

/-- Something happens to storage, and the other machine waits. -/
theorem fault (h : Mimics name p m faultless) (concerns : step.concerns name)
    (fault : step.isStorageFault) :
    Mimics name p (m.take step) faultless ∧ (m.reply step).errands = [] := by
  have effect : step.effect m.probes.length p = { preference := p } := by
    cases step <;> first | rfl | simp [Step.isStorageFault] at fault
  obtain ⟨loadedAndApplied, errands, -⟩ := h.loadedAndApplied.perform m.probes.length concerns
  rw [effect] at loadedAndApplied errands
  refine ⟨⟨loadedAndApplied, h.follows, ?_, ?_, ?_⟩, errands⟩
  · simp only [Machine.take, Machine.apply, newProbe_of_isStorageFault fault,
      List.append_nil, h.probes]
  · simpa only [Machine.take, newProbe_of_isStorageFault fault, List.append_nil] using h.scripts
  · simp only [Machine.take, Machine.apply, List.filter_append, filter_isShown_noted,
      List.append_nil, h.shown]

/-- A job about storage is done while the other machine waits. -/
theorem quiet (h : Mimics name p m faultless) (serves : j.serves name) (quiet : j.isQuiet) :
    Mimics name p (m.advance j).1 faultless ∧ jobsWithoutFaults (m.advance j).2 = [] ∧
    ∀ j' ∈ (m.advance j).2, j'.serves name := by
  cases j with
  | errand t => cases quiet
  | act s =>
    obtain ⟨next, errands⟩ := h.fault serves quiet
    have reports : isStorageFaultName s.name := (isStorageFaultName_name serves).trans quiet
    refine ⟨next, ?_, ?_⟩
    · simp [Machine.advance, errands, jobsWithoutFaults, Job.isQuiet, reports]
    · simp [Machine.advance, errands, Job.serves]
  | report step outcome =>
    have hidden : isStorageFaultName step := quiet
    refine ⟨{ h with shown := ?_ }, rfl, by simp [Machine.advance]⟩
    simp [Machine.advance, Machine.record, Event.isShown, hidden, h.shown]

/-- A listener is called by both, with the scripts that they know. -/
theorem call (h : Mimics name p m faultless) (probe : Nat) (notice : Notice) :
    Mimics name p (m.call probe notice).1 (faultless.call probe notice).1 ∧
      (faultless.call probe notice).2 = jobsWithoutFaults (m.call probe notice).2 ∧
      ∀ j' ∈ (m.call probe notice).2, j'.serves name := by
  have heard (label : String) :
      Mimics name p (m.record [.heard label notice]) (faultless.record [.heard label notice]) :=
    { h with shown := by simp [Machine.record, h.shown] }
  have known : faultless.probes[probe]? = m.probes[probe]?.map Probe.withoutFaults := by
    rw [h.probes, List.getElem?_map]
  unfold Machine.call
  rw [known]
  cases found : m.probes[probe]? with
  | none => exact ⟨h, rfl, by simp⟩
  | some q =>
    have scripted := h.scripts q (List.mem_of_getElem? found)
    simp only [Option.map_some]
    have left : q.withoutFaults.left = q.left := rfl
    by_cases exhausted : q.left = 0
    · rw [left, if_pos exhausted, if_pos exhausted]
      exact ⟨heard q.label, rfl, by simp⟩
    · rw [left, if_neg exhausted, if_neg exhausted]
      refine ⟨{ heard q.label with probes := ?_, scripts := ?_ },
        (jobsWithoutFaults_acts q.script).symm, ?_⟩
      · simp [h.probes, List.map_set, Probe.withoutFaults]
      · intro q' member
        obtain old | rfl := List.mem_or_eq_of_mem_set member
        · exact h.scripts q' old
        · exact scripted
      · intro j' member
        obtain ⟨s, taken, rfl⟩ := List.mem_map.1 member
        exact scriptConcerns_iff.1 scripted s taken

/-- Any other job is done by both. -/
theorem advance (h : Mimics name p m faultless) (serves : j.serves name)
    (shows : j.isQuiet = false) :
    ∃ p', Mimics name p' (m.advance j).1 (faultless.advance j.withoutFaults).1 ∧
      (faultless.advance j.withoutFaults).2 = jobsWithoutFaults (m.advance j).2 ∧
      ∀ j' ∈ (m.advance j).2, j'.serves name := by
  cases j with
  | errand t =>
    cases t with
    | call probe notice => exact ⟨p, h.call probe notice⟩
    | tell hearer news =>
      cases hearer with
      | probe i =>
        refine ⟨p, { h with shown := ?_ }, rfl, by simp [Machine.advance, Stage.carry, Job.serves]⟩
        simpa [Job.withoutFaults, Machine.advance, Stage.carry, Machine.apply] using h.shown
      | menu i => cases serves
    | _ => cases serves
  | act s =>
    obtain ⟨next, left, errands, outcome⟩ := h.take serves shows
    have named : isStorageFaultName s.name = false := (isStorageFaultName_name serves).trans shows
    refine ⟨_, next, ?_, ?_⟩
    · simp only [Job.withoutFaults, Machine.advance, jobsWithoutFaults_append,
        jobsWithoutFaults_errands, errands, outcome, Step.name_withoutFaults]
      simp [jobsWithoutFaults, Job.isQuiet, Job.withoutFaults, named]
    · intro j' member
      obtain errand | report := List.mem_append.1 member
      · rw [left] at errand
        exact s.serves_effect h.loadedAndApplied.heard j' errand
      · obtain rfl := List.mem_singleton.1 report
        rfl
  | report step outcome =>
    refine ⟨p, { h with shown := ?_ }, rfl, by simp [Machine.advance]⟩
    simp [Job.withoutFaults, Machine.advance, Machine.record, h.shown]

/-- A whole run. -/
theorem run (h : Mimics name p m faultless) (serves : ∀ j ∈ jobs, j.serves name) :
    ∃ p', Mimics name p' (m.run jobs) (faultless.run (jobsWithoutFaults jobs)) := by
  induction m, jobs using Machine.run.induct generalizing faultless p with
  | case1 m =>
    rw [Machine.run_nil]
    exact ⟨p, by rwa [jobsWithoutFaults, List.filter_nil, List.map_nil, Machine.run_nil]⟩
  | case2 m j jobs ih =>
    obtain ⟨first, rest⟩ := List.forall_mem_cons.1 serves
    rw [Machine.run_cons]
    cases quiet : j.isQuiet with
    | true =>
      obtain ⟨next, silent, more⟩ := h.quiet first quiet
      have same : jobsWithoutFaults (j :: jobs) = jobsWithoutFaults ((m.advance j).2 ++ jobs) := by
        rw [jobsWithoutFaults_append, silent, List.nil_append, jobsWithoutFaults,
          List.filter_cons_of_neg (by simp [quiet])]
        rfl
      rw [same]
      exact ih next (List.forall_mem_append.2 ⟨more, rest⟩)
    | false =>
      obtain ⟨p', next, same, more⟩ := h.advance first quiet
      have split : jobsWithoutFaults (j :: jobs) = j.withoutFaults :: jobsWithoutFaults jobs := by
        rw [jobsWithoutFaults, List.filter_cons_of_pos (by simp [quiet])]
        rfl
      rw [split, Machine.run_cons, same, ← jobsWithoutFaults_append]
      exact ih next (List.forall_mem_append.2 ⟨more, rest⟩)

end Mimics

theorem LoadedAndApplied.theme {s : Stage} (h : LoadedAndApplied name p s) :
    (s.store? name).map (·.part.theme) = some p.theme ∧ s.worn? name = some p.theme := by
  obtain ⟨n, k, d, named, found, document, applied⟩ := h.found
  simp [Stage.store?, Stage.worn?, named, found, document, applied]

namespace Mimics

variable {faultlessStep : Step}

/-- Once both have taken a step that leaves the same errands, they go on to show the same. -/
theorem settle (h : Mimics name p (m.take step) (faultless.take faultlessStep))
    (serves : ∀ j ∈ (m.reply step).errands.map Job.errand, j.serves name)
    (errands : (faultless.reply faultlessStep).errands = (m.reply step).errands) :
    ∃ p', Mimics name p' (m.step step) (faultless.step faultlessStep) := by
  obtain ⟨p', followed⟩ := h.run serves
  rw [jobsWithoutFaults_errands] at followed
  refine ⟨p', ?_⟩
  rw [Machine.step, Machine.step, errands]
  exact followed

theorem sights_cons {rest : List Step}
    (h : Mimics name p (m.forget.step step) (faultless.forget.step faultlessStep))
    (outcome : (faultless.reply faultlessStep).outcome = (m.reply step).outcome)
    (shows : step.isStorageFault = false) (shows' : faultlessStep.isStorageFault = false)
    (later : (m.forget.step step).sights name script =
      (faultless.forget.step faultlessStep).sights name rest) :
    m.sights name (step :: script) = faultless.sights name (faultlessStep :: rest) := by
  obtain ⟨theme, worn⟩ := h.loadedAndApplied.theme
  obtain ⟨theme', worn'⟩ := h.follows.theme
  simp only [Machine.sights, shows, shows', Machine.outcome, outcome, h.shown, theme, theme', worn,
    worn', later]

/-- Step by step the two show the same. -/
theorem sights (h : Mimics name p m.forget faultless.forget)
    (concerns : scriptConcerns name script) :
    m.sights name script = faultless.sights name (scriptWithoutFaults script) := by
  induction script generalizing m faultless p with
  | nil => rw [scriptWithoutFaults, Machine.sights, Machine.sights]
  | cons s script ih =>
    obtain ⟨first, rest⟩ : s.concerns name ∧ scriptConcerns name script := by
      simpa [scriptConcerns] using concerns
    cases fault : s.isStorageFault with
    | true =>
      obtain ⟨next, errands⟩ := h.fault first fault
      rw [Machine.sights, scriptWithoutFaults, if_pos fault, if_pos fault, Machine.step, errands,
        List.map_nil, Machine.run_nil]
      exact ih next.forget rest
    | false =>
      obtain ⟨next, left, errands, outcome⟩ := h.take first fault
      obtain ⟨p', next⟩ :=
        next.settle (by rw [left]; exact s.serves_effect h.loadedAndApplied.heard) errands
      rw [scriptWithoutFaults, if_neg (by simp [fault])]
      exact next.sights_cons outcome fault (s.isStorageFault_withoutFaults.trans fault)
        (ih next.forget rest)

end Mimics

structure NotYetLoaded (name : String) (p : Preference Hearer) (d : Document Receiver) (s : Stage) :
    Prop where
  found : ∃ n k, s.names.stores.get? name = some n ∧ s.stores[n]? = some ⟨k, p⟩ ∧
    s.documents[k]? = some d
  first : p.loaded = false
  heard : ∀ h ∈ p.listeners.toList, ∃ probe, h = .probe probe

/-- The first load gives the same if it finds the same. -/
theorem NotYetLoaded.sights {d d' : Document Receiver} (h : NotYetLoaded name p d m.stage)
    (h' : NotYetLoaded name p d' faultless.stage)
    (probes : faultless.probes = m.probes.map Probe.withoutFaults)
    (scripts : ∀ q ∈ m.probes, scriptConcerns name q.script)
    (read : d'.readSaved faultless.stage.faults p.key = d.readSaved m.stage.faults p.key)
    (scheme : d'.scheme = d.scheme) (concerns : scriptConcerns name script) :
    m.sights name (.store name .load :: script) =
      faultless.sights name (.store name .load :: scriptWithoutFaults script) := by
  have resolve : p.resolve d' faultless.stage.faults = p.resolve d m.stage.faults := by
    rw [Preference.resolve, read, scheme, Preference.resolve]
  have loads : (Step.store name .load).concerns name := by simp [Step.concerns]
  obtain ⟨n, k, named, found, document⟩ := h.found
  obtain ⟨n', k', named', found', document'⟩ := h'.found
  obtain ⟨loadedAndApplied, errands, outcome⟩ :=
    LoadedAndApplied.first m.probes.length named found document h.first h.heard
  obtain ⟨follows, errands', outcome'⟩ :=
    LoadedAndApplied.first faultless.probes.length named' found' document' h'.first h'.heard
  rw [resolve] at follows errands' outcome'
  have plain : (Step.store name .load).withoutFaults = .store name .load := by
    simp [Step.withoutFaults]
  have taken : Mimics name _ (m.forget.take (.store name .load))
      (faultless.forget.take (Step.store name .load).withoutFaults) :=
    .of_reply probes scripts rfl loads loadedAndApplied (plain ▸ follows)
  have serves : ∀ j ∈ (m.forget.reply (.store name .load)).errands.map Job.errand,
      j.serves name := by
    have left : (m.forget.reply (.store name .load)).errands = _ := errands
    rw [left]
    split
    · simp [tellAll]
    · exact serves_errands h.heard
  rw [plain] at taken
  obtain ⟨p', next⟩ := taken.settle serves (errands'.trans errands.symm)
  exact next.sights_cons (outcome'.trans outcome.symm) rfl rfl (next.forget.sights concerns)

/-- Two sessions in which the same is done with a preference from its first load on, by the reader
and by listeners, whatever happens to storage in either of them. If the first load reads the same
and the system prefers the same, then all steps return the same, and after each of them the
preferences hold and their pages wear the same theme; and the same listeners are called with the
same themes in the same order. -/
theorem sights_eq_sights {m m' : Machine} {d d' : Document Receiver} {script script' : List Step}
    (h : NotYetLoaded name p d m.stage) (h' : NotYetLoaded name p d' m'.stage)
    (read : d.readSaved m.stage.faults p.key = d'.readSaved m'.stage.faults p.key)
    (scheme : d.scheme = d'.scheme)
    (probes : m.probes.map Probe.withoutFaults = m'.probes.map Probe.withoutFaults)
    (scripts : ∀ q ∈ m.probes ++ m'.probes, scriptConcerns name q.script)
    (concerns : scriptConcerns name script) (concerns' : scriptConcerns name script')
    (same : scriptWithoutFaults script = scriptWithoutFaults script') :
    m.sights name (.store name .load :: script) =
      m'.sights name (.store name .load :: script') := by
  obtain ⟨scripts, scripts'⟩ := List.forall_mem_append.1 scripts
  -- both are followed by the first session, with listeners that set no fault
  let faultless : Machine := { m with probes := m.probes.map Probe.withoutFaults }
  have pending : NotYetLoaded name p d faultless.stage := h
  calc m.sights name (.store name .load :: script)
    _ = faultless.sights name (.store name .load :: scriptWithoutFaults script) :=
      h.sights pending rfl scripts rfl rfl concerns
    _ = faultless.sights name (.store name .load :: scriptWithoutFaults script') := by rw [same]
    _ = m'.sights name (.store name .load :: script') :=
      (h'.sights pending probes scripts' read scheme concerns').symm

end Machines

def faultsInListener : List Step :=
  [.listen (.store "p") "contrary" [.page (.failWrite (some "quota")), .store "p" .toggle] 1,
    .page (.disableStorage true), .store "p" .toggle, .store "p" .load, .store "p" (.unsubscribe 0),
      .store "p" .toggle]

def faultsAtOtherTimes : List Step :=
  [.page (.failRead (some "gone")), .listen (.store "p") "contrary" [.store "p" .toggle] 1,
    .store "p" .toggle, .page (.failRead none), .store "p" .load, .store "p" (.unsubscribe 0),
      .page (.disableStorage true),
    .store "p" .toggle]

theorem sights_eq_sights_faultsInListener :
    let m := (Machine.opened {}).take (.store "p" (.create "theme"))
    let m' := (Machine.opened { furnishings := [.saved "other" "dark"] }).take
      (.store "p" (.create "theme"))
    scriptConcerns "p" faultsInListener ∧ scriptConcerns "p" faultsAtOtherTimes ∧
      scriptWithoutFaults faultsInListener = scriptWithoutFaults faultsAtOtherTimes ∧
      m.sights "p" (.store "p" .load :: faultsInListener) =
        m'.sights "p" (.store "p" .load :: faultsAtOtherTimes) := by
  intro m m'
  have concerns : scriptConcerns "p" faultsInListener := by decide +kernel
  have concerns' : scriptConcerns "p" faultsAtOtherTimes := by decide +kernel
  have same : scriptWithoutFaults faultsInListener = scriptWithoutFaults faultsAtOtherTimes := rfl
  have notYetLoaded (page : Blueprint) : NotYetLoaded "p" { key := "theme" } page.build
      ((Machine.opened page).take (.store "p" (.create "theme"))).stage :=
    ⟨⟨0, 0, rfl, rfl, rfl⟩, rfl, by simp [Subscribers.toList]⟩
  have none : ∀ q ∈ m.probes ++ m'.probes, scriptConcerns "p" q.script := by decide +kernel
  refine ⟨concerns, concerns', same, ?_⟩
  exact sights_eq_sights (notYetLoaded _) (notYetLoaded _) rfl rfl rfl none concerns concerns' same

end Wayfinder.Session
