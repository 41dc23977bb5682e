import Wayfinder.Url.Host
import Wayfinder.Url.Path

namespace Wayfinder.Url

inductive Kind where
  | web
  | file
  | other
deriving DecidableEq, Repr

def siteScheme : String := "https"

def Kind.ofScheme (scheme : String) : Kind :=
  if ["http", "https", "ws", "wss", "ftp"].contains scheme then web else if scheme = "file" then
    file else other

namespace Kind

variable (k : Kind)

def isSlash (c : Char) : Bool := c = '/' || k ≠ other && c = '\\'

def endsHost (c : Char) : Bool := k.isSlash c || c = '?' || c = '#'

def split : List Char → List (List Char)
  | [] => [[]]
  | c :: cs =>
    if k.isSlash c then [] :: split cs
    else
      match split cs with
      | part :: parts => (c :: part) :: parts
      | [] => [[c]]

end Kind

def beforeQuery (cs : List Char) : List Char := cs.takeWhile fun c ↦ c ≠ '?' && c ≠ '#'

def follow (k : Kind) (cs : List Char) : Path := .rooted (walk [] (k.split (beforeQuery cs)))

def followRooted (k : Kind) : List Char → Path
  | [] => follow k []
  | c :: cs => follow k (if k.isSlash c then cs else c :: cs)

def splitUser (cs : List Char) : Option (List Char) × List Char :=
  let after := (cs.reverse.takeWhile (· ≠ '@')).reverse
  if after.length = cs.length then (none, cs)
  else (some (cs.take (cs.length - after.length - 1)), after)

def splitPort (inside : Bool) : List Char → List Char × Option (List Char)
  | [] => ([], none)
  | c :: cs =>
    if c = ':' && !inside then ([], some cs)
    else
      let (host, port) := splitPort (c = '[' || c ≠ ']' && inside) cs
      (c :: host, port)

def afterPort? (cs : List Char) : Option (List Char) :=
  let rest := cs.dropWhile Char.isDigit
  if Decimal.ofDigits (cs.takeWhile Char.isDigit) < 65536 && rest.head?.all (· = '\\') then
    some rest else none

structure Authority where
  user : Option (List Char)
  host : List Char
  port : Option (List Char)

namespace Authority

def ofText (cs : List Char) : Authority :=
  let (user, place) := splitUser cs
  let (host, port) := splitPort false place
  ⟨user, host, port⟩

variable (a : Authority)

/-- A host may be missing where nothing depends on it; an empty user does, unless the reference ends
there. -/
def mayLackHost (atEnd : Bool) : Bool :=
  a.port = none &&
    match a.user with
    | none => true
    | some [] => atEnd
    | some user => user = [':']

def isSound (k : Kind) (atEnd : Bool) : Bool :=
  if k = .other then if a.host.isEmpty then a.mayLackHost atEnd else Host.acceptsFreely a.host
  else Host.accepts a.host

def remainder? : Option (List Char) := a.port.elim (some []) afterPort?

end Authority

/-- A reference after `//`: perhaps a user, a host, perhaps a port, and a path. -/
def ofAuthority? (k : Kind) (cs : List Char) : Option Path := do
  let after := cs.dropWhile fun c ↦ !k.endsHost c
  let authority := Authority.ofText (cs.takeWhile fun c ↦ !k.endsHost c)
  let rest := (← authority.remainder?) ++ after
  if !authority.isSound k after.isEmpty then none
  else if k = .other && (beforeQuery rest).isEmpty then some (.bare [])
  else some (followRooted k rest)

/-- Empty folders at the root do not count for files. -/
def dropRoots : Path → Path
  | .bare text => .bare text
  | .rooted segments =>
    match segments.dropWhile List.isEmpty with
    | [] => .rooted [[]]
    | segments => .rooted segments

def ofFile? (cs : List Char) : Option Path :=
  match cs with
  | a :: b :: rest =>
    if Kind.file.isSlash a && Kind.file.isSlash b then
      let host := rest.takeWhile fun c ↦ !Kind.file.endsHost c
      if isDrive host then some (dropRoots (follow .file rest))
      else if host.isEmpty || Host.accepts host then
        some (dropRoots (followRooted .file (rest.dropWhile fun c ↦ !Kind.file.endsHost c)))
      else none
    else some (dropRoots (followRooted .file cs))
  | cs => some (dropRoots (followRooted .file cs))

/-- A reference without a scheme. After `//` the host has to come at once; other rows of slashes are
passed over. -/
def ofRelative? (cs : List Char) : Option Path :=
  match cs with
  | '/' :: '/' :: rest => ofAuthority? .web rest
  | a :: b :: _ =>
    if Kind.web.isSlash a && Kind.web.isSlash b then
      ofAuthority? .web (cs.dropWhile Kind.web.isSlash)
    else some (followRooted .web cs)
  | cs => some (followRooted .web cs)

def isSchemeChar (c : Char) : Bool := c.isAlphanum || c = '+' || c = '-' || c = '.'

def splitScheme? (cs : List Char) : Option (String × List Char) :=
  match cs.takeWhile isSchemeChar, cs.dropWhile isSchemeChar with
  | first :: scheme, ':' :: rest =>
    if first.isAlpha then some (String.ofList ((first :: scheme).map Char.toLower), rest) else none
  | _, _ => none

def ofScheme? (scheme : String) (cs : List Char) : Option Path :=
  match Kind.ofScheme scheme with
  | .web =>
    if scheme = siteScheme && (cs.takeWhile Kind.web.isSlash).length < 2 then ofRelative? cs
    else ofAuthority? .web (cs.dropWhile Kind.web.isSlash)
  | .file => ofFile? cs
  | .other =>
    match cs with
    | '/' :: '/' :: rest => ofAuthority? .other rest
    | '/' :: rest => some (follow .other rest)
    | cs => some (.bare (beforeQuery cs))

/-- Controls and spaces around a reference, and line breaks and tabs inside it, do not count. -/
def strip (cs : List Char) : List Char :=
  let isEdge (c : Char) : Bool := c.toNat ≤ 0x20
  ((cs.dropWhile isEdge).reverse.dropWhile isEdge).reverse.filter fun c ↦
    c ≠ '\t' && c ≠ '\n' && c ≠ '\r'

def path? (text : String) : Option Path :=
  let cs := strip text.toList
  match splitScheme? cs with
  | some (scheme, rest) => ofScheme? scheme rest
  | none => ofRelative? cs

end Wayfinder.Url
