import Wayfinder.Document

namespace Wayfinder

inductive Request where
  | anchorTop (id : String) (answer : Option Length)
  | scrollTo (position : Length) (animated : Bool)
  | observe (ids : List String) (band : Band)
  | read (key : String)
  | write (key value : String)
  | scheme
  | apply (t : Theme)

inductive Note where
  | asked (r : Request)
  | debug (text : String)

/-- Ways in which a page refuses what is asked of it, whatever its own state. -/
structure Faults where
  read : Option String := none
  write : Option String := none
  observe : Bool := false

namespace Document

variable {ω : Type} (d : Document ω) (faults : Faults)

def readSaved (key : String) : Except Storage.Error (Option String) :=
  match faults.read with
  | some reason => .error (.read reason)
  | none => d.storage.read key

def writeSaved (key value : String) : Except Storage.Error (Document ω) :=
  match faults.write with
  | some reason => .error (.write reason)
  | none => (d.storage.write key value).map fun storage ↦ { d with storage }

end Document

end Wayfinder
