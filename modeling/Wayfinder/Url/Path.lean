namespace Wayfinder.Url

/-- Where a reference leads on its host: folders and a name from the root, or a text of no
structure. -/
inductive Path where
  | bare (text : List Char)
  | rooted (segments : List (List Char))

def Path.text : Path → List Char
  | bare text => text
  | rooted segments => segments.flatMap ('/' :: ·)

def foldDots : List Char → List Char
  | '%' :: '2' :: c :: rest =>
    if c = 'e' || c = 'E' then '.' :: foldDots rest else '%' :: '2' :: foldDots (c :: rest)
  | c :: rest => c :: foldDots rest
  | [] => []

def isHere (segment : List Char) : Bool := foldDots segment = ['.']

def isUp (segment : List Char) : Bool := foldDots segment = ['.', '.']

/-- A letter with a colon or a bar names a drive. -/
def isDrive : List Char → Bool
  | [letter, mark] => letter.isAlpha && (mark = ':' || mark = '|')
  | _ => false

/-- The folders without the innermost, which comes first. A drive is never left. -/
def up : List (List Char) → List (List Char)
  | [] => []
  | folder :: folders => if isDrive folder then folder :: folders else folders

def enter (folders : List (List Char)) (segment : List Char) : List (List Char) :=
  if isUp segment then up folders else if isHere segment then folders else segment :: folders

/-- Follows segments from inside some folders, innermost first; one that is no name at the end leads
to a folder. -/
def walk (folders : List (List Char)) : List (List Char) → List (List Char)
  | [] => folders.reverse
  | [last] =>
    (if isUp last || isHere last then [] :: enter folders last else last :: folders).reverse
  | segment :: segments => walk (enter folders segment) segments

end Wayfinder.Url
