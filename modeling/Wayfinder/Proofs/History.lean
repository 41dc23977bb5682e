import Wayfinder.Proofs.Edit
import Wayfinder.Session.Basic

namespace Wayfinder.Session

def Job.errand? : Job → Option Errand
  | .errand t => some t
  | _ => none

def errandsOf (jobs : List Job) : List Errand := jobs.filterMap Job.errand?

@[simp] theorem errandsOf_nil : errandsOf [] = [] := rfl

@[simp] theorem errandsOf_append (jobs rest : List Job) :
    errandsOf (jobs ++ rest) = errandsOf jobs ++ errandsOf rest :=
  List.filterMap_append

@[simp] theorem errandsOf_errand (t : Errand) (jobs : List Job) :
    errandsOf (.errand t :: jobs) = t :: errandsOf jobs := rfl

@[simp] theorem errandsOf_act (s : Step)
    (jobs : List Job) : errandsOf (.act s :: jobs) = errandsOf jobs := rfl

@[simp] theorem errandsOf_report (step : String) (outcome : Outcome) (jobs : List Job) :
    errandsOf (.report step outcome :: jobs) = errandsOf jobs := rfl

@[simp] theorem errandsOf_errands (ts : List Errand) : errandsOf (ts.map .errand) = ts := by
  induction ts with
  | nil => rfl
  | cons t ts ih => rw [List.map_cons, errandsOf_errand, ih]

@[simp] theorem errandsOf_acts (script : List Step) : errandsOf (script.map .act) = [] := by
  induction script with
  | nil => rfl
  | cons s script ih => rw [List.map_cons, errandsOf_act, ih]

/-- A job that was done, and the machine and the agenda as they were before it. -/
structure Move where
  machine : Machine
  agenda : List Job
  job : Job

variable {may : Stage → Step → Prop} {m m' : Machine} {jobs jobs' : List Job} {j : Job}

/-- One job of a run: steps are taken only where `may` allows them, and a listener that is called
puts any steps on the agenda. When the agenda is empty, the session takes its next step. -/
inductive Turn (may : Stage → Step → Prop) : Machine → List Job → Job → Machine → List Job → Prop
  | step {m : Machine} {s : Step} (allowed : may m.stage s) :
      Turn may m [] (.act s) (m.take s) ((m.reply s).errands.map .errand)
  | act {m : Machine} {s : Step} {rest : List Job} (allowed : may m.stage s) :
      Turn may m (.act s :: rest) (.act s) (m.advance (.act s)).1 ((m.advance (.act s)).2 ++ rest)
  | report {m : Machine} {step : String} {outcome : Outcome} {rest : List Job} :
      Turn may m (.report step outcome :: rest) (.report step outcome)
      (m.record [.did step outcome]) rest
  | errand {m : Machine} {t : Errand} {rest : List Job}
      (silent : ∀ probe notice, t ≠ .call probe notice) :
      Turn may m (.errand t :: rest) (.errand t)
      (m.advance (.errand t)).1 ((m.advance (.errand t)).2 ++ rest)
  | call {m : Machine} {probe : Nat} {notice : Notice} {rest : List Job} (script : List Step) :
      Turn may m (.errand (.call probe notice) :: rest) (.errand (.call probe notice))
      (m.call probe notice).1
        (script.map .act ++ rest)

/-- A run from an opened page up to the given machine and agenda; the moves made so far, the latest
first. -/
inductive History (may : Stage → Step → Prop) : List Move → Machine → List Job → Prop
  | opened (page : Blueprint) : History may [] (.opened page) []
  | turn {past : List Move} {m m' : Machine} {jobs jobs' : List Job} {j : Job} :
      History may past m jobs → Turn may m jobs j m' jobs' →
      History may (⟨m, jobs, j⟩ :: past) m' jobs'

theorem Machine.call_stage (m : Machine) (probe : Nat) (notice : Notice) :
    (m.call probe notice).1.stage = m.stage := by
  unfold Machine.call
  split
  · rfl
  · split <;> rfl

/-- What a turn does to the stage: it takes a step, does the errand in front, or leaves it as it
is. -/
theorem Turn.effect (turn : Turn may m jobs j m' jobs') :
    (∃ s, j = .act s ∧ may m.stage s ∧ m'.stage = (m.stage.perform m.probes.length s).stage ∧
      errandsOf jobs' = (m.stage.perform m.probes.length s).errands ++ errandsOf jobs) ∨
    (∃ t rest, j = .errand t ∧ errandsOf jobs = t :: rest ∧ m'.stage = (m.stage.carry t).stage ∧
      errandsOf jobs' = (m.stage.carry t).errands ++ rest) ∨
    ((∃ step outcome, j = .report step outcome) ∧ m'.stage = m.stage ∧
      errandsOf jobs' = errandsOf jobs) := by
  cases turn with
  | @step s allowed => exact .inl ⟨s, rfl, allowed, rfl, by simp [Machine.reply]⟩
  | @act s rest allowed =>
    exact .inl ⟨s, rfl, allowed, rfl, by simp [Machine.advance, Machine.reply]⟩
  | @report step outcome rest => exact .inr (.inr ⟨⟨step, outcome, rfl⟩, rfl, rfl⟩)
  | @errand t rest silent =>
    refine .inr (.inl ⟨t, errandsOf rest, rfl, rfl, ?_, ?_⟩)
    · rw [m.advance_errand silent]
      rfl
    · rw [m.advance_errand silent]
      simp
  | @call probe notice rest script =>
    exact .inr (.inl ⟨_, errandsOf rest, rfl, rfl, m.call_stage probe notice, by
      simp [Stage.carry]⟩)

theorem Turn.effect_act {s : Step} (turn : Turn may m jobs (.act s) m' jobs') :
    m'.stage = (m.stage.perform m.probes.length s).stage ∧
      errandsOf jobs' = (m.stage.perform m.probes.length s).errands ++ errandsOf jobs := by
  obtain ⟨step, ⟨rfl⟩, -, effect⟩ | ⟨t, rest, ⟨⟩, -⟩ | ⟨⟨_, _, ⟨⟩⟩, -⟩ := turn.effect
  exact effect

/-- A turn is a row of edits; those that only some jobs make are made only by the job that is
done. -/
theorem Turn.edits {may' : Stage → Job → Prop} (turn : Turn may m jobs j m' jobs')
    (allowed : may' m.stage j) :
    Edits may' m.stage (errandsOf jobs) m'.stage (errandsOf jobs') := by
  obtain ⟨s, rfl, -, stage, errands⟩ | ⟨t, rest, rfl, pending, stage, errands⟩ | ⟨-,
      stage, errands⟩ :=
    turn.effect
  · rw [stage, errands]
    exact m.stage.yields_perform _ allowed
  · rw [stage, errands, pending]
    exact m.stage.edits_carry rest allowed
  · rw [stage, errands]
    exact .refl

def Only (s : Stage) (j : Job) (s' : Stage) (j' : Job) : Prop := s' = s ∧ j' = j

theorem Turn.edits_only (turn : Turn may m jobs j m' jobs') :
    Edits (Only m.stage j) m.stage (errandsOf jobs) m'.stage (errandsOf jobs') :=
  turn.edits ⟨rfl, rfl⟩

def Allows (may : Stage → Step → Prop) (s : Stage) : Job → Prop
  | .act step => may s step
  | _ => True

instance {may : Stage → Step → Prop} [∀ s step, Decidable (may s step)] {s : Stage} {j : Job} :
    Decidable (Allows may s j) :=
  match j with
  | .act step => inferInstanceAs (Decidable (may s step))
  | .errand _ | .report _ _ => isTrue trivial

theorem Turn.allows (turn : Turn may m jobs j m' jobs') : Allows may m.stage j := by
  obtain ⟨s, rfl, taken, -⟩ | ⟨t, rest, rfl, -⟩ | ⟨⟨step, outcome, rfl⟩, -⟩ := turn.effect
  · exact taken
  · trivial
  · trivial

theorem Machine.probes_call (m : Machine) (probe : Nat) (notice : Notice) :
    (m.call probe notice).1.probes.length = m.probes.length := by
  unfold Machine.call
  split
  · rfl
  · split
    · rfl
    · simp

theorem Turn.length_probes (turn : Turn may m jobs j m' jobs') :
    m.probes.length ≤ m'.probes.length := by
  cases turn with
  | step => simp [Machine.take]
  | act => simp [Machine.advance, Machine.take]
  | report => exact Nat.le_refl _
  | errand silent =>
    rw [m.advance_errand silent]
    exact Nat.le_refl _
  | call => exact Nat.le_of_eq (m.probes_call _ _).symm

theorem History.keeps {I : Stage → List Errand → Prop} {past : List Move}
    (run : History may past m jobs)
    (opened : ∀ page : Blueprint, I { documents := [page.build] } [])
    (edit : ∀ {s s' : Stage} {ts ts' : List Errand}, Edit (Allows may) s ts s' ts' →
      I s ts → I s' ts') :
    I m.stage (errandsOf jobs) := by
  induction run with
  | opened page => exact opened page
  | turn _ turn ih => exact (turn.edits turn.allows).keep edit ih

theorem History.before {past later earlier : List Move} {e : Move} (run : History may past m jobs)
    (split : past = later ++ e :: earlier) : History may earlier e.machine e.agenda := by
  induction run generalizing later with
  | opened page => simp at split
  | turn run _ ih =>
    cases later with
    | nil =>
      cases split
      exact run
    | cons e' later => exact ih (List.cons.inj split).2

/-- A run in which fewer steps may be taken is a run in which more may. -/
theorem History.mono {may' : Stage → Step → Prop} {past : List Move} (run : History may past m jobs)
    (more : ∀ s step, may s step → may' s step) : History may' past m jobs := by
  induction run with
  | opened page => exact .opened page
  | turn _ turn ih =>
    refine ih.turn ?_
    cases turn with
    | step allowed => exact .step (more _ _ allowed)
    | act allowed => exact .act (more _ _ allowed)
    | report => exact .report
    | errand silent => exact .errand silent
    | call script => exact .call script

theorem Turn.advance {rest : List Job} (allowed : Allows may m.stage j) :
    Turn may m (j :: rest) j (m.advance j).1 ((m.advance j).2 ++ rest) := by
  cases j with
  | act s => exact .act allowed
  | report step outcome => exact .report
  | errand t =>
    by_cases called : ∃ probe notice, t = .call probe notice
    · obtain ⟨probe, notice, rfl⟩ := called
      have scripted : ∃ script, (m.call probe notice).2 = List.map Job.act script := by
        unfold Machine.call
        split
        · exact ⟨[], rfl⟩
        · split
          · exact ⟨[], rfl⟩
          · exact ⟨_, rfl⟩
      obtain ⟨script, same⟩ := scripted
      have turn : Turn may m (.errand (.call probe notice) :: rest) _ _ _ := .call script
      rwa [← same] at turn
    · exact .errand fun probe notice same ↦ called ⟨probe, notice, same⟩

/-- Every session has a history. -/
theorem exists_history (page : Blueprint) (script : List Step) :
    ∃ past, History (fun _ _ ↦ True) past ((Machine.opened page).steps script) [] := by
  have settle {past : List Move} {m : Machine} {jobs : List Job}
      (run : History (fun _ _ ↦ True) past m jobs) :
      ∃ past', History (fun _ _ ↦ True) past' (m.run jobs) [] := by
    induction m, jobs using Machine.run.induct generalizing past with
    | case1 m => exact ⟨past, m.run_nil.symm ▸ run⟩
    | case2 m j rest ih =>
      rw [m.run_cons]
      exact ih (run.turn (.advance (by cases j <;> trivial)))
  have steps {past : List Move} {m : Machine} (run : History (fun _ _ ↦ True) past m []) :
      ∃ past', History (fun _ _ ↦ True) past' (m.steps script) [] := by
    induction script generalizing past m with
    | nil => exact ⟨past, run⟩
    | cons s script ih =>
      obtain ⟨past', run'⟩ := settle (run.turn (.step trivial))
      exact ih run'
  exact steps (.opened page)

def twoSections : Blueprint where
  viewport := 100
  furnishings := [.anchor "a" 0 100, .anchor "b" 100 100, .height 1000]

namespace Machine

section Collect

variable {α : Type} (f : Machine → Job → Option α)

/-- What `f` finds in the jobs of an agenda and in all that follows from them. -/
def collect (m : Machine) : List Job → List α
  | [] => []
  | j :: rest => (f m j).toList ++ collect (m.advance j).1 ((m.advance j).2 ++ rest)
termination_by jobs => fewer_wellFounded.wrap (remaining m jobs)
decreasing_by exact m.remaining_advance j rest

@[simp] theorem collect_nil : m.collect f [] = [] := by rw [collect]

theorem collect_cons (j : Job) (rest : List Job) :
    m.collect f (j :: rest) =
      (f m j).toList ++ (m.advance j).1.collect f ((m.advance j).2 ++ rest) := by
  rw [collect]

theorem collect_append (jobs rest : List Job) :
    m.collect f (jobs ++ rest) = m.collect f jobs ++ (m.run jobs).collect f rest := by
  induction m, jobs using run.induct with
  | case1 m => simp
  | case2 m j jobs ih =>
    rw [List.cons_append, collect_cons, collect_cons, run_cons, ← List.append_assoc, ih,
      List.append_assoc]

end Collect

def moves : Nat → Machine → List Job → List Move → List Move
  | 0, _, _, past => past
  | _ + 1, _, [], past => past
  | n + 1, m, j :: rest, past => moves n (m.advance j).1 ((m.advance j).2 ++ rest)
    (⟨m, j :: rest, j⟩ :: past)

theorem mem_moves {n : Nat} {past : List Move} {e : Move} (h : e ∈ past) :
    e ∈ moves n m jobs past := by
  induction n generalizing m jobs past with
  | zero => exact h
  | succ n ih =>
    cases jobs with
    | nil => exact h
    | cons j rest => exact ih (List.mem_cons_of_mem _ h)

/-- A session and the moves made in it, provided that each step comes to rest within so many
jobs. -/
def journal? (n : Nat) : List Step → Machine → List Move → Option (Machine × List Move)
  | [], m, past => some (m, past)
  | s :: script, m, past =>
    let errands := (m.reply s).errands.map .errand
    if (after n (m.take s) errands).2.isEmpty then
      journal? n script (after n (m.take s) errands).1
        (moves n (m.take s) errands (⟨m, [], .act s⟩ :: past))
    else none

theorem mem_journal? {n : Nat} {script : List Step} {past past' : List Move} {e : Move}
    (kept : journal? n script m past = some (m', past')) (h : e ∈ past) : e ∈ past' := by
  induction script generalizing m past with
  | nil =>
    cases kept
    exact h
  | cons s script ih =>
    simp only [journal?] at kept
    split at kept
    · exact ih kept (mem_moves (List.mem_cons_of_mem _ h))
    · cases kept

end Machine

theorem History.after {n : Nat} {past : List Move} (run : History may past m jobs)
    (allowed : ∀ e ∈ Machine.moves n m jobs past, Allows may e.machine.stage e.job) :
    History may (Machine.moves n m jobs past)
    (Machine.after n m jobs).1 (Machine.after n m jobs).2 := by
  induction n generalizing m jobs past with
  | zero => exact run
  | succ n ih =>
    cases jobs with
    | nil => exact run
    | cons j rest =>
      rw [Machine.moves] at allowed
      exact ih (run.turn (.advance (allowed ⟨m, j :: rest, j⟩ (Machine.mem_moves (.head _)))))
        allowed

theorem History.journal {n : Nat} {script : List Step} {past past' : List Move}
    (run : History may past m []) (kept : Machine.journal? n script m past = some (m', past'))
    (allowed : ∀ e ∈ past', Allows may e.machine.stage e.job) : History may past' m' [] := by
  induction script generalizing m past with
  | nil =>
    cases kept
    exact run
  | cons s script ih =>
    have taken := allowed ⟨m, [], .act s⟩
    simp only [Machine.journal?] at kept
    split at kept
    · rename_i rested
      have begun :=
        run.turn (.step (taken (Machine.mem_journal? kept (Machine.mem_moves (.head _)))))
      have done := begun.after fun e h ↦ allowed e (Machine.mem_journal? kept h)
      rw [List.isEmpty_iff.1 rested] at done
      exact ih done kept
    · cases kept

end Wayfinder.Session
