import Wayfinder.Json.Skip

namespace Wayfinder.Json

variable {α σ : Type}

def mismatch (expected : String) (cs : List Char) : Except Fault α :=
  let report (found : Found) (rest : List Char) : Except Fault α :=
    fail (.mismatch found expected) rest
  match cs with
  | 'n' :: rest => do report .null (← word ['u', 'l', 'l'] rest)
  | 't' :: rest => do report (.bool true) (← word ['r', 'u', 'e'] rest)
  | 'f' :: rest => do report (.bool false) (← word ['a', 'l', 's', 'e'] rest)
  | '-' :: rest => do
    let (n, rest) ← number true rest
    report n.found rest
  | '"' :: rest => do
    let (s, rest) ← quotedText rest
    report (.text s) rest
  | '[' :: _ => report .sequence cs
  | '{' :: _ => report .map cs
  | c :: _ =>
    if c.isDigit then do
      let (n, rest) ← number false cs
      report n.found rest
    else failPast .expectedValue cs
  | [] => failPast .endInValue cs

def readFloat : Reader Float := fun cs ↦
  match skipBlank cs with
  | '-' :: rest => do
    let (n, rest) ← number true rest
    return (n.toFloat, rest)
  | c :: rest =>
    if c.isDigit then do
      let (n, rest) ← number false (c :: rest)
      return (n.toFloat, rest)
    else mismatch "f64" (c :: rest)
  | [] => failPast .endInValue []

def readText : Reader String := fun cs ↦
  match skipBlank cs with
  | '"' :: rest => quotedText rest
  | rest => mismatch "a string" rest

def readUnit : Reader Unit := fun cs ↦
  match skipBlank cs with
  | 'n' :: rest => do return ((), ← word ['u', 'l', 'l'] rest)
  | rest => mismatch "unit" rest

/-- Whether another item of a list comes next, and the text at which it starts. The closing bracket
is left. -/
def itemAhead (first : Bool) (cs : List Char) : Except Fault (Bool × List Char) :=
  match skipBlank cs with
  | [] => failPast .endInList []
  | c :: rest =>
    if c = ']' then .ok (false, c :: rest)
    else if first then .ok (true, c :: rest)
    else if c = ',' then
      match skipBlank rest with
      | [] => failPast .endInValue []
      | d :: rest => if d = ']' then failPast .trailingComma (d :: rest) else .ok (true, d :: rest)
    else failPast .expectedListEnd (c :: rest)

def listEnd (cs : List Char) : Except Fault (List Char) :=
  match skipBlank cs with
  | [] => failPast .endInList []
  | c :: rest =>
    if c = ']' then .ok rest
    else if c = ',' then
      match skipBlank rest with
      | ']' :: rest => failPast .trailingComma (']' :: rest)
      | rest => failPast .trailingCharacters rest
    else failPast .trailingCharacters (c :: rest)

def itemsRound (item : Reader α) (state : Bool × List α) (cs : List Char) :
    Except Fault (Round (Bool × List α) (List α)) := do
  let (more, rest) ← itemAhead state.1 cs
  if more then
    let (a, rest) ← item rest
    return .again (false, a :: state.2) rest
  else return .done state.2.reverse (← listEnd rest)

def readList (item : Reader α) : Reader (List α) := fun cs ↦
  match skipBlank cs with
  | '[' :: rest => loop (itemsRound item) (true, []) rest
  | rest => mismatch "a sequence" rest

/-- Tries to close the list or object that a fault of content was found in, and reports it there. -/
def failClosing (bracket : Bracket) (cause : Cause) (cs : List Char) : Except Fault α :=
  match bracket, skipBlank cs with
  | .curly, '}' :: rest => fail cause rest
  | .square, ']' :: rest => fail cause rest
  | .square, ',' :: rest => fail cause (skipBlank rest)
  | _, rest => fail cause rest

/-- The name of the next member of an object, if another comes, and the text after it. The closing
bracket is left. -/
def nameAhead (first : Bool) (cs : List Char) : Except Fault (Option String × List Char) :=
  match skipBlank cs with
  | [] => failPast .endInObject []
  | c :: rest =>
    if c = '}' then .ok (none, c :: rest)
    else if first then name (c :: rest)
    else if c = ',' then
      match skipBlank rest with
      | [] => failPast .endInValue []
      | d :: rest => if d = '}' then failPast .trailingComma (d :: rest) else name (d :: rest)
    else failPast .expectedObjectEnd (c :: rest)
where
  name : List Char → Except Fault (Option String × List Char)
    | '"' :: rest => do
      let (name, rest) ← quotedText rest
      return (some name, rest)
    | rest => failPast .keyNotText rest

structure Field (σ : Type) where
  name : String
  isSet : σ → Bool
  read : σ → Reader σ

def readMember (fields : List (Field σ)) (draft : σ) (name : String) (cs : List Char) :
    Except Fault (σ × List Char) :=
  match fields.find? (·.name = name) with
  | none => do return (draft, ← skipValue (← colon cs))
  | some field =>
    if field.isSet draft then failClosing .curly (.duplicateField name) cs
    else do field.read draft (← colon cs)

def membersRound (fields : List (Field σ)) (state : Bool × σ) (cs : List Char) :
    Except Fault (Round (Bool × σ) σ) := do
  let (name?, rest) ← nameAhead state.1 cs
  match name? with
  | none => return .done state.2 rest
  | some name =>
    let (draft, rest) ← readMember fields state.2 name rest
    return .again (false, draft) rest

def readItems (first : Bool) (count : Nat) :
    List (Field σ) → σ → List Char → Except Fault ((σ × Nat) × List Char)
  | [], draft, cs => .ok ((draft, count), cs)
  | field :: fields, draft, cs => do
    let (more, rest) ← itemAhead first cs
    if more then
      let (draft, rest) ← field.read draft rest
      readItems false (count + 1) fields draft rest
    else return ((draft, count), rest)

structure Record (σ α : Type) where
  name : String
  fields : List (Field σ)
  draft : σ
  /-- The record, or the first field that is missing in an object. -/
  complete : σ → Except String α

namespace Record

variable (r : Record σ α)

def expected : String := "struct " ++ r.name

def ofObject (cs : List Char) : Except Fault (α × List Char) := do
  let (draft, rest) ← loop (membersRound r.fields) (true, r.draft) cs
  match r.complete draft with
  | .error field => failClosing .curly (.missingField field) rest
  | .ok a => return (a, (skipBlank rest).tail)

def ofList (cs : List Char) : Except Fault (α × List Char) := do
  let ((draft, count), rest) ← readItems true 0 r.fields r.draft cs
  match r.complete draft with
  | .error _ =>
    failClosing .square
      (.wrongLength count (r.expected ++ " with " ++ toString r.fields.length ++ " elements")) rest
  | .ok a => return (a, ← listEnd rest)

def reader : Reader α := fun cs ↦
  match skipBlank cs with
  | '{' :: rest => r.ofObject rest
  | '[' :: rest => r.ofList rest
  | rest => mismatch r.expected rest

end Record

end Wayfinder.Json
