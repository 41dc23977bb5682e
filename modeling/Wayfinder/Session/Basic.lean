import Wayfinder.Session.Run

namespace Wayfinder.Session.Machine

def opened (page : Blueprint) : Machine := { stage := { documents := [page.build] } }

variable (m : Machine)

def step (s : Step) : Machine := (m.take s).run ((m.reply s).errands.map .errand)

def outcome (s : Step) : Outcome := (m.reply s).outcome

def settle (p : Progress) : Machine := (m.apply p).run (p.errands.map .errand)

def forget : Machine := { m with trace := [] }

def steps (script : List Step) : Machine := script.foldl step m

end Wayfinder.Session.Machine
