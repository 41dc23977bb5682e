import Wayfinder.Session.Perform

namespace Wayfinder.Session

/-- A listener: it takes the steps of its script each of the next `left` times it is called. -/
structure Probe where
  label : String
  left : Nat
  script : List Step

inductive Event where
  | noted (n : Note)
  | heard (label : String) (notice : Notice)
  | did (step : String) (outcome : Outcome)

inductive Job where
  | errand (t : Errand)
  | act (s : Step)
  | report (step : String) (outcome : Outcome)

/-- Listeners act while an operation is still under way, so every state between two jobs is a state
of the machine. -/
structure Machine where
  stage : Stage
  probes : List Probe := []
  trace : List Event := []

namespace Machine

variable (m : Machine)

def record (events : List Event) : Machine := { m with trace := m.trace ++ events }

def apply (p : Progress) : Machine :=
  { m with stage := p.stage, trace := m.trace ++ p.notes.map .noted }

def newProbe : Step → List Probe
  | .listen _ label script limit => [⟨label, limit, script⟩]
  | _ => []

def reply (s : Step) : Reply := m.stage.perform m.probes.length s

def take (s : Step) : Machine :=
  { m.apply (m.reply s).toProgress with probes := m.probes ++ newProbe s }

/-- Calls a listener: it records what it hears, and then takes the steps of its script if any calls
are left. -/
def call (probe : Nat) (notice : Notice) : Machine × List Job :=
  match m.probes[probe]? with
  | none => (m, [])
  | some p =>
    let heard := m.record [.heard p.label notice]
    if p.left = 0 then (heard, [])
    else
      ({ heard with probes := m.probes.set probe { p with left := p.left - 1 } }, p.script.map .act)

/-- Does one job; the jobs returned are to be done next. -/
def advance : Job → Machine × List Job
  | .errand (.call probe notice) => m.call probe notice
  | .errand t => (m.apply (m.stage.carry t), (m.stage.carry t).errands.map .errand)
  | .act s => (m.take s, (m.reply s).errands.map .errand ++ [.report s.name (m.reply s).outcome])
  | .report step outcome => (m.record [.did step outcome], [])

end Machine

end Wayfinder.Session
