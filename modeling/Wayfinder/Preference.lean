import Wayfinder.Host
import Wayfinder.Subscribers

namespace Wayfinder

/-- The reader's choice of theme, kept in storage under `key` as far as storage allows. -/
structure Preference (σ : Type) where
  key : String
  theme : Theme := .light
  loaded : Bool := false
  listeners : Subscribers σ := {}

namespace Preference

variable {σ ω : Type}

/-- What an operation leaves behind; `told` are to hear of `preference.theme`, in this order. -/
structure Change (σ ω : Type) where
  preference : Preference σ
  document : Document ω
  notes : List Note := []
  told : List σ := []

variable (p : Preference σ) (d : Document ω) (faults : Faults)

def adopt (t : Theme) (notes : List Note) : Change σ ω where
  preference := { p with theme := t }
  document := d.applyTheme t
  notes := notes ++ [.asked (.apply t)]
  told := if p.theme = t then [] else p.listeners.toList

def choice? : Except Storage.Error (Option String) → Option Theme
  | .ok (some raw) => if raw = "" then none else some (Theme.ofStored raw)
  | _ => none

def readNotes (key : String) (read : Except Storage.Error (Option String)) : List Note :=
  match read with
  | .ok _ => [.asked (.read key)]
  | .error e => [.asked (.read key), .debug ("theme preference not readable: " ++ e.message)]

/-- Starts with the stored choice, else with what the system prefers, else light. Only the first
call counts. -/
def load : Change σ ω :=
  if p.loaded then { preference := p, document := d }
  else
    let read := d.readSaved faults p.key
    let ready := { p with loaded := true }
    match choice? read with
    | some t => ready.adopt d t (readNotes p.key read)
    | none => ready.adopt d (d.scheme.getD .light) (readNotes p.key read ++ [.asked .scheme])

/-- Changes to the other theme and tries to store it; the change does not depend on storage. -/
def toggle : Change σ ω :=
  let next := p.theme.toggled
  let asked := Note.asked (.write p.key next.name)
  match d.writeSaved faults p.key next.name with
  | .ok written => p.adopt written next [asked]
  | .error e => p.adopt d next [asked, .debug ("theme preference not persisted: " ++ e.message)]

def subscribe (listener : σ) : Preference σ := { p with listeners := p.listeners.add listener }

def unsubscribe (token : Nat) : Preference σ := { p with listeners := p.listeners.remove token }

end Preference

end Wayfinder
