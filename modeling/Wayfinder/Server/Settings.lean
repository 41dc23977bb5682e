import Wayfinder.Octets
import Wayfinder.Table

namespace Wayfinder.Server

inductive NumeralError where
  | empty
  | invalidDigit
  | tooLarge
deriving DecidableEq, Repr

def NumeralError.message : NumeralError → String
  | empty => "cannot parse integer from empty string"
  | invalidDigit => "invalid digit found in string"
  | tooLarge => "number too large to fit in target type"

def readDigits (limit n : Nat) : List Char → Except NumeralError Nat
  | [] => .ok n
  | c :: cs =>
    let next := 10 * n + Decimal.digitValue c
    if !c.isDigit then .error .invalidDigit
    else if next < limit then readDigits limit next cs
    else .error .tooLarge

def readPortNumber (text : String) : Except NumeralError Nat :=
  match text.toList with
  | [] => .error .empty
  | ['+'] => .error .invalidDigit
  | '+' :: digits => readDigits 4294967296 0 digits
  | digits => readDigits 4294967296 0 digits

structure Address where
  octets : List Nat
  port : Nat
deriving DecidableEq, Repr

def Address.text (a : Address) : String :=
  ".".intercalate (a.octets.map toString) ++ ":" ++ toString a.port

def readPort? (digits : List Char) : Option Nat :=
  if digits.isEmpty then none else (readDigits 65536 0 digits).toOption

/-- Four octets, a colon and a port, with nothing around them. -/
def Address.read? (text : String) : Option Address :=
  match Text.splitAt ':' text.toList with
  | [host, port] => do some ⟨← readOctets? host, ← readPort? port⟩
  | _ => none

inductive Mode where
  | development
  | production
deriving DecidableEq, Repr

inductive SocketProtocol where
  | plain
  | secure
deriving DecidableEq, Repr

structure Settings where
  mode : Mode
  address : Address
  reloadPort : Nat
  reloadExternalPort : Option Nat
  socketProtocol : SocketProtocol
  hashFiles : Bool

namespace Settings

inductive Error where
  | mode (value : String)
  | address
  | port (e : NumeralError)
  | socketProtocol (value : String)
  | hashFiles
deriving DecidableEq, Repr

def Error.message : Error → String
  | mode value =>
    value ++
      " is not a supported environment. Use either `dev`, `development`, `prod`, or `production`."
  | address => "invalid socket address syntax"
  | port e => e.message
  | socketProtocol value =>
    value ++ " is not a supported websocket protocol. Use only `ws` or `wss`."
  | hashFiles => "provided string was not `true` or `false`"

def lowercase (s : String) : String := String.ofList (s.toList.map Char.toLower)

def readMode (value : String) : Except Error Mode :=
  match lowercase value with
  | "dev" | "development" => .ok .development
  | "prod" | "production" => .ok .production
  | _ => .error (.mode value)

def readAddress (value : String) : Except Error Address :=
  match Address.read? value with
  | some a => .ok a
  | none => .error .address

def readPort (value : String) : Except Error Nat := (readPortNumber value).mapError .port

def readSocketProtocol (value : String) : Except Error SocketProtocol :=
  match lowercase value with
  | "ws" => .ok .plain
  | "wss" => .ok .secure
  | _ => .error (.socketProtocol value)

def readHashFiles : String → Except Error Bool
  | "true" => .ok true
  | "false" => .ok false
  | _ => .error .hashFiles

def ofEnvironment (env : Table String) : Except Error Settings := do
  let value (name fallback : String) : String := (env.get? name).getD fallback
  let mode ← readMode (value "LEPTOS_ENV" "DEV")
  let address ← readAddress (value "LEPTOS_SITE_ADDR" "127.0.0.1:3000")
  let reloadPort ← readPort (value "LEPTOS_RELOAD_PORT" "3001")
  let reloadExternalPort ← (env.get? "LEPTOS_RELOAD_EXTERNAL_PORT").mapM readPort
  let socketProtocol ← readSocketProtocol (value "LEPTOS_RELOAD_WS_PROTOCOL" "ws")
  let hashFiles ← readHashFiles (value "LEPTOS_HASH_FILES" "false")
  return { mode, address, reloadPort, reloadExternalPort, socketProtocol, hashFiles }

def freeVariables : List String :=
  ["LEPTOS_OUTPUT_NAME", "LEPTOS_SITE_ROOT", "LEPTOS_SITE_PKG_DIR", "LEPTOS_NOT_FOUND_PATH",
    "LEPTOS_HASH_FILE_NAME", "SERVER_FN_PREFIX", "DISABLE_SERVER_FN_HASH", "SERVER_FN_MOD_PATH"]

def checkedVariables : List String :=
  ["LEPTOS_ENV", "LEPTOS_SITE_ADDR", "LEPTOS_RELOAD_PORT", "LEPTOS_RELOAD_EXTERNAL_PORT",
    "LEPTOS_RELOAD_WS_PROTOCOL", "LEPTOS_HASH_FILES"]

end Settings

end Wayfinder.Server
