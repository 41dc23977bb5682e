import Wayfinder.Json.Number
import Wayfinder.Json.Text

namespace Wayfinder.Json

inductive Bracket where
  | square
  | curly
deriving DecidableEq, Repr

def Bracket.closing : Bracket → Char
  | square => ']'
  | curly => '}'

def Bracket.endFault : Bracket → Cause
  | square => .endInList
  | curly => .endInObject

def Bracket.commaFault : Bracket → Cause
  | square => .expectedListEnd
  | curly => .expectedObjectEnd

/-- Where the reader stands between the brackets that are open, the innermost first. -/
inductive Place where
  /-- A value has to come next. -/
  | value (enclosing : List Bracket)
  /-- A value was passed. -/
  | after (bracket : Bracket) (enclosing : List Bracket)

def colon (cs : List Char) : Except Fault (List Char) :=
  match skipBlank cs with
  | [] => failPast .endInObject []
  | c :: rest => if c = ':' then .ok rest else failPast .expectedColon (c :: rest)

def skipName (cs : List Char) : Except Fault (List Char) :=
  match skipBlank cs with
  | [] => failPast .endInObject []
  | c :: rest =>
    if c = '"' then do colon (← skipText rest)
    else failPast .keyNotText (c :: rest)

def skipScalar (c : Char) (rest : List Char) : Except Fault (List Char) :=
  match c with
  | 'n' => word ['u', 'l', 'l'] rest
  | 't' => word ['r', 'u', 'e'] rest
  | 'f' => word ['a', 'l', 's', 'e'] rest
  | '-' => skipNumber rest
  | '"' => skipText rest
  | c => if c.isDigit then skipNumber (c :: rest) else failPast .expectedValue (c :: rest)

def passed : List Bracket → List Char → Round Place Unit
  | [], rest => .done () rest
  | bracket :: enclosing, rest => .again (.after bracket enclosing) rest

def nextItem (bracket : Bracket) (enclosing : List Bracket) (cs : List Char) :
    Except Fault (Round Place Unit) :=
  match bracket with
  | .square => .ok (.again (.value (.square :: enclosing)) cs)
  | .curly => (skipName cs).map (.again (.value (.curly :: enclosing)))

def openBracket (bracket : Bracket) (enclosing : List Bracket) (cs : List Char) :
    Except Fault (Round Place Unit) :=
  match skipBlank cs with
  | [] => failPast bracket.endFault []
  | c :: rest =>
    if c = bracket.closing then .ok (passed enclosing rest)
    else nextItem bracket enclosing (c :: rest)

def skipRound (place : Place) (cs : List Char) : Except Fault (Round Place Unit) :=
  match place, skipBlank cs with
  | .value _, [] => failPast .endInValue []
  | .value enclosing, '[' :: rest => openBracket .square enclosing rest
  | .value enclosing, '{' :: rest => openBracket .curly enclosing rest
  | .value enclosing, c :: rest => (skipScalar c rest).map (passed enclosing)
  | .after bracket _, [] => failPast bracket.endFault []
  | .after bracket enclosing, c :: rest =>
    if c = ',' then nextItem bracket enclosing rest
    else if c = bracket.closing then .ok (passed enclosing rest)
    else failPast bracket.commaFault (c :: rest)

def skipValue (cs : List Char) : Except Fault (List Char) :=
  (loop skipRound (.value []) cs).map Prod.snd

end Wayfinder.Json
