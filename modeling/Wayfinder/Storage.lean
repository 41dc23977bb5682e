import Wayfinder.Table

namespace Wayfinder

structure Storage where
  saved : Table String := {}
  disabled : Bool := false

namespace Storage

inductive Error where
  | unavailable
  | read (reason : String)
  | write (reason : String)
deriving DecidableEq, Repr

def Error.message : Error → String
  | unavailable => "storage unavailable"
  | read reason => "storage read failed: " ++ reason
  | write reason => "storage write failed: " ++ reason

variable (s : Storage) (key : String)

def get? : Option String := s.saved.get? key

def put (value : String) : Storage := { s with saved := s.saved.insert key value }

def read : Except Error (Option String) :=
  if s.disabled then .error .unavailable else .ok (s.get? key)

def write (value : String) : Except Error Storage :=
  if s.disabled then .error .unavailable else .ok (s.put key value)

end Storage

end Wayfinder
