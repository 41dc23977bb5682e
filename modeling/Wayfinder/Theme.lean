namespace Wayfinder

inductive Theme where
  | light
  | dark
deriving DecidableEq, Repr, Inhabited

namespace Theme

def name : Theme → String
  | light => "light"
  | dark => "dark"

def toggled : Theme → Theme
  | light => dark
  | dark => light

def isDark (t : Theme) : Bool := t = dark

/-- A stored choice is dark only if it says exactly so. -/
def ofStored (raw : String) : Theme := if raw = "dark" then dark else light

def ofName? : String → Option Theme
  | "light" => some light
  | "dark" => some dark
  | _ => none

@[simp] theorem toggled_toggled (t : Theme) : t.toggled.toggled = t := by cases t <;> rfl

theorem toggled_ne (t : Theme) : t.toggled ≠ t := by cases t <;> decide

@[simp] theorem ofStored_name (t : Theme) : ofStored t.name = t := by cases t <;> decide

@[simp] theorem ofName?_name (t : Theme) : ofName? t.name = some t := by cases t <;> rfl

end Theme

end Wayfinder
