import Wayfinder.Json.Writer
import Wayfinder.Text.Quoted

namespace Wayfinder.Json

inductive Found where
  | null
  | bool (b : Bool)
  | integer (n : Int)
  | float (x : Float)
  | text (s : String)
  | sequence
  | map

def Found.description : Found → String
  | null => "null"
  | bool b => "boolean `" ++ toString b ++ "`"
  | integer n => "integer `" ++ toString n ++ "`"
  | float x => "floating point `" ++ String.ofList (writeNumber x) ++ "`"
  | text s => "string " ++ Text.quoted s
  | sequence => "sequence"
  | map => "map"

inductive Cause where
  | endInValue
  | endInText
  | endInList
  | endInObject
  | expectedIdent
  | expectedValue
  | expectedColon
  | expectedListEnd
  | expectedObjectEnd
  | invalidNumber
  | numberRange
  | invalidEscape
  | controlCharacter
  | loneSurrogate
  | endOfHexEscape
  | keyNotText
  | trailingComma
  | trailingCharacters
  | mismatch (found : Found) (expected : String)
  | missingField (name : String)
  | duplicateField (name : String)
  | wrongLength (found : Nat) (expected : String)
  | unknownVariant (name : String)

namespace Cause

def description : Cause → String
  | endInValue => "EOF while parsing a value"
  | endInText => "EOF while parsing a string"
  | endInList => "EOF while parsing a list"
  | endInObject => "EOF while parsing an object"
  | expectedIdent => "expected ident"
  | expectedValue => "expected value"
  | expectedColon => "expected `:`"
  | expectedListEnd => "expected `,` or `]`"
  | expectedObjectEnd => "expected `,` or `\x7d`"
  | invalidNumber => "invalid number"
  | numberRange => "number out of range"
  | invalidEscape => "invalid escape"
  | controlCharacter => "control character (\\u0000-\\u001F) found while parsing a string"
  | loneSurrogate => "lone leading surrogate in hex escape"
  | endOfHexEscape => "unexpected end of hex escape"
  | keyNotText => "key must be a string"
  | trailingComma => "trailing comma"
  | trailingCharacters => "trailing characters"
  | mismatch found expected => "invalid type: " ++ found.description ++ ", expected " ++ expected
  | missingField name => "missing field `" ++ name ++ "`"
  | duplicateField name => "duplicate field `" ++ name ++ "`"
  | wrongLength found expected => "invalid length " ++ toString found ++ ", expected " ++ expected
  | unknownVariant name => "unknown variant `" ++ name ++ "`, expected `light` or `dark`"

inductive Category where
  | ending
  | grammar
  | content
deriving DecidableEq, Repr

def category : Cause → Category
  | endInValue | endInText | endInList | endInObject => .ending
  | mismatch _ _ | missingField _ | duplicateField _ | wrongLength _ _ | unknownVariant _ =>
    .content
  | _ => .grammar

end Cause

/-- Why reading failed, and how many bytes of the text were left at the place to be reported. -/
structure Fault where
  cause : Cause
  left : Nat

def byteSize : List Char → Nat
  | [] => 0
  | c :: cs => c.utf8Size + byteSize cs

structure Error where
  cause : Cause
  line : Nat
  column : Nat

def Error.message (e : Error) : String :=
  e.cause.description ++ " at line " ++ toString e.line ++ " column " ++ toString e.column

def Fault.locate (f : Fault) (text : String) : Error :=
  let bytes := text.toUTF8.toList
  let before := bytes.take (bytes.length - f.left)
  ⟨f.cause, before.count 10 + 1, (before.reverse.takeWhile (· ≠ 10)).length⟩

end Wayfinder.Json
