import Wayfinder.Json.Fault

namespace Wayfinder.Json

/-- Reads a value from the front of a text and gives what follows it. -/
abbrev Reader (α : Type) := List Char → Except Fault (α × List Char)

variable {α σ : Type}

def fail (cause : Cause) (rest : List Char) : Except Fault α := .error ⟨cause, byteSize rest⟩

def failPast (cause : Cause) (rest : List Char) : Except Fault α :=
  .error ⟨cause, byteSize rest - 1⟩

def isBlank (c : Char) : Bool := c = ' ' || c = '\n' || c = '\t' || c = '\r'

def skipBlank (cs : List Char) : List Char := cs.dropWhile isBlank

inductive Round (σ α : Type) where
  | again (state : σ) (rest : List Char)
  | done (value : α) (rest : List Char)

/-- Goes round until a round is the last. A round that consumes nothing may not be followed by
another. -/
def loop (round : σ → List Char → Except Fault (Round σ α)) (state : σ) (cs : List Char) :
    Except Fault (α × List Char) :=
  match round state cs with
  | .error e => .error e
  | .ok (.done value rest) => .ok (value, rest)
  | .ok (.again next rest) =>
    if rest.length < cs.length then loop round next rest else fail .expectedValue rest
termination_by cs.length

def read (reader : Reader α) (text : String) : Except Error α :=
  let value := do
    let (value, rest) ← reader text.toList
    match skipBlank rest with
    | [] => return value
    | rest => failPast .trailingCharacters rest
  value.mapError (·.locate text)

end Wayfinder.Json
