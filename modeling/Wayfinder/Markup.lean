namespace Wayfinder

structure Attribute where
  name : String
  value : String

inductive Node where
  | text (s : String)
  | element (tag : String) (attributes : List Attribute) (classes : List String)
      (children : List Node)
  /-- An element that can have no content. -/
  | void (tag : String) (attributes : List Attribute) (classes : List String)

namespace Node

def escapeChar : Char → List Char
  | '&' => ['&', 'a', 'm', 'p', ';']
  | '<' => ['&', 'l', 't', ';']
  | '>' => ['&', 'g', 't', ';']
  | c => [c]

/-- An empty text is written as one space. -/
def escapeText (s : String) : List Char := if s.isEmpty then [' '] else s.toList.flatMap escapeChar

def escapeQuoted (s : String) : List Char :=
  s.toList.flatMap fun c ↦ if c = '"' then ['&', 'q', 'u', 'o', 't', ';'] else escapeChar c

def attributeChars (a : Attribute) : List Char :=
  ' ' :: a.name.toList ++ '=' :: '"' :: escapeQuoted a.value ++ ['"']

def openTag (tag : String) (attributes : List Attribute) (classes : List String) : List Char :=
  let all :=
    if classes.isEmpty then attributes else attributes ++ [⟨"class", " ".intercalate classes⟩]
  '<' :: tag.toList ++ all.flatMap attributeChars ++ ['>']

def closeTag (tag : String) : List Char := '<' :: '/' :: tag.toList ++ ['>']

mutual

def chars : Node → List Char
  | text s => escapeText s
  | element tag attributes classes children =>
    openTag tag attributes classes ++ allChars children ++ closeTag tag
  | void tag attributes classes => openTag tag attributes classes

def allChars : List Node → List Char
  | [] => []
  | node :: nodes => node.chars ++ allChars nodes

end

def renderAll (nodes : List Node) : String := String.ofList (allChars nodes)

end Node

end Wayfinder
