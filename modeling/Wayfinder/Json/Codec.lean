import Wayfinder.Config
import Wayfinder.Json.Value
import Wayfinder.Registry
import Wayfinder.Theme

namespace Wayfinder

namespace Theme

def toJson (t : Theme) : List Char := Json.writeText t.name

open Json in
def ofVariant (name : String) (rest : List Char) : Except Fault (Theme × List Char) :=
  match ofName? name with
  | some t => .ok (t, rest)
  | none => fail (.unknownVariant name) rest

open Json in
def ofObject (cs : List Char) : Except Fault (Theme × List Char) :=
  match skipBlank cs with
  | '"' :: rest => do
    let (name, rest) ← quotedText rest
    let (t, rest) ← ofVariant name rest
    let (_, rest) ← readUnit (← colon rest)
    match skipBlank rest with
    | '}' :: rest => return (t, rest)
    | [] => fail .endInObject []
    | rest => fail .expectedValue rest
  | [] => failPast .endInObject []
  | '}' :: rest => failPast .expectedValue ('}' :: rest)
  | rest => failPast .keyNotText rest

open Json in
def reader : Reader Theme := fun cs ↦
  match skipBlank cs with
  | '"' :: rest => do
    let (name, rest) ← quotedText rest
    ofVariant name rest
  | '{' :: rest => ofObject rest
  | [] => failPast .endInValue []
  | rest => failPast .expectedValue rest

end Theme

namespace Section

def toJson (s : Section) : List Char :=
  Json.writeObject [Json.writeMember "id" (Json.writeText s.id),
    Json.writeMember "label" (Json.writeText s.label)]

def listToJson (sections : List Section) : List Char := Json.writeArray (sections.map toJson)

structure Draft where
  id : Option String := none
  label : Option String := none

def Draft.complete : Draft → Except String Section
  | ⟨some id, some label⟩ => .ok ⟨id, label⟩
  | ⟨none, _⟩ => .error "id"
  | ⟨some _, none⟩ => .error "label"

def record : Json.Record Draft Section where
  name := "Section"
  fields :=
    [⟨"id", fun d ↦ d.id.isSome, fun d cs ↦ do
        let (id, rest) ← Json.readText cs
        return ({ d with id := some id }, rest)⟩,
      ⟨"label", fun d ↦ d.label.isSome, fun d cs ↦ do
        let (label, rest) ← Json.readText cs
        return ({ d with label := some label }, rest)⟩]
  draft := {}
  complete := Draft.complete

def reader : Json.Reader Section := record.reader

def listReader : Json.Reader (List Section) := Json.readList reader

end Section

namespace Band

def toJson (b : Band) : List Char :=
  Json.writeObject
    [Json.writeMember "top_inset_pct" (Json.writeNumber b.topInset),
      Json.writeMember "bottom_inset_pct" (Json.writeNumber b.bottomInset)]

structure Draft where
  topInset : Option Float := none
  bottomInset : Option Float := none

def Draft.complete : Draft → Except String Band
  | ⟨some top, some bottom⟩ => .ok ⟨top, bottom⟩
  | ⟨none, _⟩ => .error "top_inset_pct"
  | ⟨some _, none⟩ => .error "bottom_inset_pct"

def record : Json.Record Draft Band where
  name := "ActivationBand"
  fields :=
    [⟨"top_inset_pct", fun d ↦ d.topInset.isSome, fun d cs ↦ do
        let (top, rest) ← Json.readFloat cs
        return ({ d with topInset := some top }, rest)⟩,
      ⟨"bottom_inset_pct", fun d ↦ d.bottomInset.isSome, fun d cs ↦ do
        let (bottom, rest) ← Json.readFloat cs
        return ({ d with bottomInset := some bottom }, rest)⟩]
  draft := {}
  complete := Draft.complete

def reader : Json.Reader Band := record.reader

end Band

namespace Config

def toJson (c : Config) : List Char :=
  Json.writeObject
    [Json.writeMember "header_offset_px" (Json.writeNumber c.headerOffset),
      Json.writeMember "band" c.band.toJson,
        Json.writeMember "storage_key" (Json.writeText c.storageKey)]

structure Draft where
  headerOffset : Option Length := none
  band : Option Band := none
  storageKey : Option String := none

def Draft.overlay (d : Draft) : Config where
  headerOffset := d.headerOffset.getD default.headerOffset
  band := d.band.getD default.band
  storageKey := d.storageKey.getD default.storageKey

def record : Json.Record Draft Config where
  name := "NavConfig"
  fields :=
    [⟨"header_offset_px", fun d ↦ d.headerOffset.isSome, fun d cs ↦ do
        let (offset, rest) ← Json.readFloat cs
        return ({ d with headerOffset := some offset }, rest)⟩,
      ⟨"band", fun d ↦ d.band.isSome, fun d cs ↦ do
        let (band, rest) ← Band.reader cs
        return ({ d with band := some band }, rest)⟩,
      ⟨"storage_key", fun d ↦ d.storageKey.isSome, fun d cs ↦ do
        let (key, rest) ← Json.readText cs
        return ({ d with storageKey := some key }, rest)⟩]
  draft := {}
  complete := fun d ↦ .ok d.overlay

def reader : Json.Reader Config := record.reader

inductive Error where
  | unreadable (e : Json.Error)
  | invalid (i : Invalid)

def Error.message : Error → String
  | unreadable e => "config parse error: " ++ e.message
  | invalid i => i.message

def ofJson (text : String) : Except Error Config :=
  match Json.read reader text with
  | .error e => .error (.unreadable e)
  | .ok c =>
    match c.invalid? with
    | some i => .error (.invalid i)
    | none => .ok c

end Config

end Wayfinder
