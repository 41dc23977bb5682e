import Wayfinder.Session.Machine

namespace Wayfinder.Session

section Total

variable {α : Type} (f : α → Nat)

-- the zero is named since the one that is found depends on what is imported
def total (xs : List α) : Nat := @List.sum Nat _ Zero.ofOfNat0 (xs.map f)

@[simp] theorem total_nil : total f [] = 0 := rfl

@[simp] theorem total_cons (x : α) (xs : List α) : total f (x :: xs) = f x + total f xs := rfl

@[simp] theorem total_append (xs ys : List α) : total f (xs ++ ys) = total f xs + total f ys := by
  rw [total, List.map_append]
  exact List.sum_append_nat

theorem total_eq_zero {xs : List α} (h : ∀ x ∈ xs, f x = 0) : total f xs = 0 :=
  List.sum_eq_zero_iff_forall_eq_nat.2 (List.forall_mem_map.2 h)

end Total

def Job.steps : Job → Nat
  | .act s => s.weight
  | _ => 0

def Probe.steps (p : Probe) : Nat := p.left * (1 + scriptWeight p.script)

def Job.frames : Job → Nat
  | .errand (.frames _ left) => left + 1
  | _ => 0

def Job.observations : Job → Nat
  | .errand (.observe _) => 1
  | _ => 0

def Job.batches : Job → Nat
  | .errand (.hand _ _) => 1
  | _ => 0

def Job.load : Job → Nat
  | .errand (.tell _ _) => 4
  | .errand (.redraw _) => 2
  | _ => 1

/-- How much is still to be done, largest kind first. -/
def remaining (m : Machine) (jobs : List Job) : Nat × Nat × Nat × Nat × Nat :=
  (total Job.steps jobs + total Probe.steps m.probes, total Job.frames jobs,
    total Job.observations jobs, total Job.batches jobs, total Job.load jobs)

def Fewer : Nat × Nat × Nat × Nat × Nat → Nat × Nat × Nat × Nat × Nat → Prop :=
  Prod.Lex (· < ·) (Prod.Lex (· < ·) (Prod.Lex (· < ·) (Prod.Lex (· < ·) (· < ·))))

theorem fewer_iff {a b c d e a' b' c' d' e' : Nat} :
    Fewer (a, b, c, d, e) (a', b', c', d', e') ↔
      a < a' ∨ a = a' ∧ (b < b' ∨ b = b' ∧ (c < c' ∨ c = c' ∧ (d < d' ∨ d = d' ∧ e < e'))) := by
  simp [Fewer, Prod.lex_def]

theorem fewer_wellFounded : WellFounded Fewer :=
  (Prod.lex Nat.lt_wfRel
    (Prod.lex Nat.lt_wfRel (Prod.lex Nat.lt_wfRel (Prod.lex Nat.lt_wfRel Nat.lt_wfRel)))).wf

section Counts

variable (errands : List Errand)

@[simp] theorem steps_errands : total Job.steps (errands.map Job.errand) = 0 := by
  induction errands with
  | nil => rfl
  | cons t errands ih => simpa [Job.steps] using ih

theorem steps_acts (script : List Step) :
    total Job.steps (script.map Job.act) = scriptWeight script := by
  induction script with
  | nil => rfl
  | cons s script ih => simp_all [Job.steps, scriptWeight]

theorem steps_set {probes : List Probe} {i : Nat} {p : Probe} (h : probes[i]? = some p)
    (left : p.left ≠ 0) :
    total Probe.steps (probes.set i { p with left := p.left - 1 }) + (1 + scriptWeight p.script) =
      total Probe.steps probes := by
  induction probes generalizing i with
  | nil => simp at h
  | cons q probes ih =>
    cases i with
    | zero =>
      obtain rfl : q = p := by simpa using h
      obtain ⟨n, hn⟩ := Nat.exists_eq_succ_of_ne_zero left
      simp only [List.set_cons_zero, total_cons, Probe.steps, hn, Nat.succ_eq_add_one,
        Nat.add_sub_cancel, Nat.add_mul, Nat.one_mul]
      omega
    | succ i =>
      have := ih (i := i) (by simpa using h)
      simp only [List.set_cons_succ, total_cons]
      omega

end Counts

theorem frames_handAll (ds : List (Delivery Receiver)) :
    total Job.frames ((handAll ds).map Job.errand) = 0 :=
  total_eq_zero _ (by simp [handAll, Job.frames])

theorem frames_tellAll (hearers : List Hearer) (news : Notice) :
    total Job.frames ((tellAll hearers news).map Job.errand) = 0 :=
  total_eq_zero _ (by simp [tellAll, Job.frames])

theorem observations_tellAll (hearers : List Hearer) (news : Notice) :
    total Job.observations ((tellAll hearers news).map Job.errand) = 0 :=
  total_eq_zero _ (by simp [tellAll, Job.observations])

theorem batches_tellAll (hearers : List Hearer) (news : Notice) :
    total Job.batches ((tellAll hearers news).map Job.errand) = 0 :=
  total_eq_zero _ (by simp [tellAll, Job.batches])

/-- What the errands left by an errand come to, kind by kind: less than the errand itself at the
first kind that differs. -/
theorem carry_fewer (s : Stage) (t : Errand) (h : ∀ probe notice, t ≠ .call probe notice)
    (rest : List Job) :
    let jobs := (s.carry t).errands.map Job.errand ++ rest
    let before := .errand t :: rest
    Fewer (0, total Job.frames jobs, total Job.observations jobs, total Job.batches jobs,
      total Job.load jobs)
      (0, total Job.frames before, total Job.observations before, total Job.batches before,
        total Job.load before) := by
  simp only [fewer_iff, total_append, total_cons]
  cases t with
  | frames number left =>
    simp only [Stage.carry, Stage.advanceFrames]
    split
    · rename_i d _ _
      have handed := frames_handAll d.advanceFrame.2
      simp only [List.map_append, total_append, handed]
      refine .inr ⟨trivial, .inl ?_⟩
      split <;> simp [Job.frames]
    · simp [Job.frames]
  | observe spy =>
    simp only [Stage.carry, Stage.observeSpy]
    split
    · simp [Job.frames, Job.observations]
    · split
      · simp [Job.frames, Job.observations]
      · split <;> simp [Job.frames, Job.observations]
  | hand receiver batch =>
    cases receiver with
    | probe probe => simp [Stage.carry, Job.frames, Job.observations, Job.batches]
    | spy spy =>
      simp only [Stage.carry, Stage.handSpy]
      split
      · simp [Job.frames, Job.observations, Job.batches]
      · simp only [frames_tellAll, observations_tellAll, batches_tellAll]
        simp [Job.frames, Job.observations, Job.batches]
  | tell hearer news =>
    cases hearer with
    | probe probe => simp [Stage.carry, Job.frames, Job.observations, Job.batches, Job.load]
    | menu menu =>
      simp only [Stage.carry, Stage.tellMenu]
      split
      · simp [Job.frames, Job.observations, Job.batches, Job.load]
      · split <;> simp [Job.frames, Job.observations, Job.batches, Job.load]
  | redraw menu =>
    simp only [Stage.carry, Stage.redrawMenu]
    split
    · simp [Job.frames, Job.observations, Job.batches, Job.load]
    · split <;> simp [Job.frames, Job.observations, Job.batches, Job.load]
  | call probe notice => exact absurd rfl (h probe notice)
  | keepWatch | keepHandle | letGo =>
    simp [Stage.carry, Job.frames, Job.observations, Job.batches, Job.load]

namespace Machine

variable (m : Machine)

theorem advance_errand {t : Errand} (h : ∀ probe notice, t ≠ .call probe notice) :
    m.advance (.errand t) = (m.apply (m.stage.carry t), (m.stage.carry t).errands.map .errand) := by
  cases t <;> first | rfl | exact absurd rfl (h _ _)

theorem steps_newProbe (s : Step) : total Probe.steps (newProbe s) < s.weight := by
  cases s <;> simp [newProbe, Step.weight, Probe.steps]

theorem remaining_advance (j : Job) (rest : List Job) :
    Fewer (remaining (m.advance j).1 ((m.advance j).2 ++ rest)) (remaining m (j :: rest)) := by
  cases j with
  | errand t =>
    by_cases h : ∃ probe notice, t = .call probe notice
    · obtain ⟨probe, notice, rfl⟩ := h
      simp only [advance, call]
      split
      · simp [remaining, fewer_iff, Job.steps, Job.frames, Job.observations, Job.batches, Job.load]
      · rename_i p found
        split
        · simp [remaining, record, fewer_iff, Job.steps, Job.frames, Job.observations,
            Job.batches, Job.load]
        · rename_i left
          have := steps_set found left
          simp only [remaining, fewer_iff, total_append, steps_acts, total_cons, Job.steps]
          omega
    · have h : ∀ probe notice, t ≠ .call probe notice := fun probe notice e ↦ h ⟨probe, notice, e⟩
      have := carry_fewer m.stage t h rest
      rw [m.advance_errand h]
      simp only [fewer_iff, remaining, apply, total_append, steps_errands, total_cons, Job.steps,
        Nat.lt_irrefl, false_or, true_and] at this ⊢
      exact this
  | act s =>
    have := steps_newProbe s
    simp only [fewer_iff, remaining, advance, take, apply, total_append, steps_errands,
      total_cons, Job.steps, total_nil]
    omega
  | report step outcome =>
    simp [remaining, advance, record, fewer_iff, Job.steps, Job.frames, Job.observations,
      Job.batches, Job.load]

/-- Does the jobs of an agenda and all that follows from them. -/
def run (m : Machine) : List Job → Machine
  | [] => m
  | j :: rest => run (m.advance j).1 ((m.advance j).2 ++ rest)
termination_by jobs => fewer_wellFounded.wrap (remaining m jobs)
decreasing_by exact m.remaining_advance j rest

@[simp] theorem run_nil : m.run [] = m := by rw [run]

theorem run_cons (j : Job) (rest : List Job) :
    m.run (j :: rest) = (m.advance j).1.run ((m.advance j).2 ++ rest) := by
  rw [run]

theorem run_append (jobs rest : List Job) : m.run (jobs ++ rest) = (m.run jobs).run rest := by
  induction m, jobs using run.induct with
  | case1 m => simp
  | case2 m j jobs ih => rw [List.cons_append, run_cons, run_cons, ← List.append_assoc, ih]

def after : Nat → Machine → List Job → Machine × List Job
  | 0, m, jobs => (m, jobs)
  | _ + 1, m, [] => (m, [])
  | n + 1, m, j :: rest => after n (m.advance j).1 ((m.advance j).2 ++ rest)

theorem run_after (n : Nat) (jobs : List Job) :
    (after n m jobs).1.run (after n m jobs).2 = m.run jobs := by
  induction n generalizing m jobs with
  | zero => rfl
  | succ n ih =>
    cases jobs with
    | nil => rfl
    | cons j rest => rw [after, ih, run_cons]

/-- A run can be computed as far as its agenda lasts. -/
theorem run_eq_after {n : Nat} {jobs : List Job} (done : (after n m jobs).2.isEmpty) :
    m.run jobs = (after n m jobs).1 := by
  rw [← run_after m n, List.isEmpty_iff.1 done, run_nil]

end Machine

end Wayfinder.Session
