import Wayfinder.Server.Settings

namespace Wayfinder.Server

inductive Failure where
  | settings (e : Settings.Error)
  /-- Ports below 1024 are not open to every program. -/
  | permissionDenied
deriving DecidableEq, Repr

def Failure.message : Failure → String
  | settings e => "leptos configuration: Config Error: " ++ e.message
  | permissionDenied => "io error: Permission denied (os error 13)"

def Failure.logLine (f : Failure) : String :=
  "ERROR docnav: docnav server failed error=" ++ f.message

def Settings.logLine (s : Settings) : String :=
  "INFO docnav: docnav listening addr=" ++ s.address.text

def exitCode : Nat := 1

def isPrivileged (port : Nat) : Bool := 0 < port && port < 1024

def start (env : Table String) : Except Failure Settings :=
  match Settings.ofEnvironment env with
  | .error e => .error (.settings e)
  | .ok s => if isPrivileged s.address.port then .error .permissionDenied else .ok s

def Address.isReserved (a : Address) : Bool :=
  match a.octets with
  | first :: _ => 240 ≤ first && first < 255
  | [] => false

end Wayfinder.Server
