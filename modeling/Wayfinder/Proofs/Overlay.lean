import Wayfinder.Proofs.Grammar

namespace Wayfinder

namespace Json

variable {α σ : Type}

section Objects

structure Member where
  name : String
  value : List Char

inductive IsMember : List Char → Member → Prop
  | mk {ns s bs bs' v : List Char} (spells : Spells ns s) (blank : Blanks bs)
      (blank' : Blanks bs') :
      IsMember ('"' :: (ns ++ '"' :: (bs ++ ':' :: (bs' ++ v)))) ⟨String.ofList s, v⟩

inductive IsMembers : List Char → List Member → Prop
  | last {bs cs bs' : List Char} {m : Member} (blank : Blanks bs) (member : IsMember cs m)
      (blank' : Blanks bs') :
      IsMembers (bs ++ (cs ++ bs')) [m]
  | more {bs cs bs' ds : List Char} {m : Member} {ms : List Member} (blank : Blanks bs)
      (member : IsMember cs m) (blank' : Blanks bs') (tail : IsMembers ds ms) :
      IsMembers (bs ++ (cs ++ (bs' ++ ',' :: ds))) (m :: ms)

inductive IsObject : List Char → List Member → Prop
  | empty {bs : List Char} (blank : Blanks bs) : IsObject ('{' :: (bs ++ ['}'])) []
  | some {cs : List Char} {ms : List Member} (members : IsMembers cs ms) :
      IsObject ('{' :: (cs ++ ['}'])) ms

inductive IsDocument : List Char → List Member → Prop
  | mk {bs cs bs' : List Char} {ms : List Member} (blank : Blanks bs) (object : IsObject cs ms)
      (blank' : Blanks bs') :
      IsDocument (bs ++ (cs ++ bs')) ms

def ReadsMember (fields : List (Field σ)) (draft : σ) (m : Member) (next : σ) : Prop :=
  ∀ cs bs rest, Blanks bs → Stops rest → colon cs = .ok (bs ++ (m.value ++ rest)) →
    readMember fields draft m.name cs = .ok (next, rest)

variable {fields : List (Field σ)} {field : Field σ} {draft next : σ} {m : Member}
  {ms : List Member} {bs cs ds rest : List Char} {first : Bool}

theorem readsMember_of_found (found : fields.find? (·.name = m.name) = some field)
    (unset : field.isSet draft = false)
    (reads : ∀ {bs}, Blanks bs → Reads (field.read draft) (bs ++ m.value) next) :
    ReadsMember fields draft m next := by
  intro cs bs rest blank stops after
  rw [readMember, found]
  simp only [unset, Bool.false_eq_true, if_false, after, bind, Except.bind]
  rw [← List.append_assoc]
  exact reads blank rest stops

theorem readsMember_of_absent (absent : fields.find? (·.name = m.name) = none)
    (value : Written .value m.value) :
    ReadsMember fields draft m draft := by
  intro cs bs rest blank stops after
  rw [readMember, absent]
  simp only [after, bind, Except.bind, value.skipValue blank stops]
  rfl

def Ahead (first : Bool) (ds text : List Char) : Prop :=
  if first then ds = text else skipBlank ds = ',' :: text

theorem Ahead.length_le {text : List Char} (ahead : Ahead first ds text) :
    text.length ≤ ds.length := by
  cases first with
  | true =>
    obtain rfl : ds = text := ahead
    exact Nat.le_refl _
  | false =>
    have comma : skipBlank ds = ',' :: text := ahead
    have longer := length_skipBlank_le ds
    rw [comma, List.length_cons] at longer
    omega

theorem membersRound_member (blank : Blanks bs) (member : IsMember cs m)
    (ahead : Ahead first ds (bs ++ (cs ++ rest))) (reads : ReadsMember fields draft m next)
    (stops : Stops rest) :
    membersRound fields (first, draft) ds = .ok (.again (false, next) rest) ∧
    rest.length < ds.length := by
  obtain @⟨ns, s, bs₁, bs₂, v, spells, blank₁, blank₂⟩ := member
  have text : '"' :: (ns ++ '"' :: (bs₁ ++ ':' :: (bs₂ ++ v))) ++ rest =
      '"' :: (ns ++ '"' :: (bs₁ ++ ':' :: (bs₂ ++ (v ++ rest)))) := by simp
  rw [text] at ahead
  have start : skipBlank (bs ++ '"' :: (ns ++ '"' :: (bs₁ ++ ':' :: (bs₂ ++ (v ++ rest))))) =
      '"' :: (ns ++ '"' :: (bs₁ ++ ':' :: (bs₂ ++ (v ++ rest)))) := by
    rw [skipBlank_append_of_blanks blank, skipBlank_cons rfl]
  have named : nameAhead.name ('"' :: (ns ++ '"' :: (bs₁ ++ ':' :: (bs₂ ++ (v ++ rest))))) =
      .ok (some (String.ofList s), bs₁ ++ ':' :: (bs₂ ++ (v ++ rest))) := by
    rw [nameAhead.name, spells.quotedText]
    rfl
  have next : nameAhead first ds =
      .ok (some (String.ofList s), bs₁ ++ ':' :: (bs₂ ++ (v ++ rest))) := by
    cases first with
    | true =>
      obtain rfl : ds = _ := ahead
      rw [nameAhead, start, ← named]
      rfl
    | false =>
      have comma : skipBlank ds = _ := ahead
      rw [nameAhead, comma, ← named]
      simp only [start]
      rfl
  constructor
  · have read := reads _ bs₂ rest blank₂ stops (colon_append blank₁ _)
    simp only [membersRound, next, bind, Except.bind, read]
    rfl
  · have longer := ahead.length_le
    simp only [List.length_append, List.length_cons] at longer
    omega

theorem IsMembers.loop_membersRound {Holds : List Member → σ → Prop}
    (step : ∀ {m ms draft}, Holds (m :: ms) draft → ∃ next, ReadsMember fields draft m next ∧
      Holds ms next)
    (members : IsMembers cs ms) (ahead : Ahead first ds (cs ++ '}' :: rest))
    (holds : Holds ms draft) :
    ∃ last, Holds [] last ∧ loop (membersRound fields)
    (first, draft) ds = .ok (last, '}' :: rest) := by
  induction members generalizing first ds draft with
  | @last bs cs bs' m blank member blank' =>
    obtain ⟨next, reads, holds⟩ := step holds
    rw [List.append_assoc, List.append_assoc] at ahead
    obtain ⟨round, shorter⟩ :=
      membersRound_member blank member ahead reads (blank'.stops (stops_cons rfl))
    refine ⟨next, holds, ?_⟩
    rw [loop_again round shorter]
    refine loop_done (membersRound_end ?_ false)
    rw [skipBlank_append_of_blanks blank', skipBlank_cons rfl]
  | @more bs cs bs' ds m ms blank member blank' tail ih =>
    obtain ⟨next, reads, holds⟩ := step holds
    rw [List.append_assoc, List.append_assoc, List.append_assoc, List.cons_append] at ahead
    obtain ⟨round, shorter⟩ :=
      membersRound_member blank member ahead reads (blank'.stops (stops_cons rfl))
    rw [loop_again round shorter]
    refine ih ?_ holds
    change skipBlank _ = _
    rw [skipBlank_append_of_blanks blank', skipBlank_cons rfl]

/-- An object is read as a record if some condition on the members that are left and the draft holds
at first, is kept by every member, and makes the draft complete at last. -/
theorem IsObject.reads {r : Record σ α} {a : α} {Holds : List Member → σ → Prop}
    (step : ∀ {m ms draft}, Holds (m :: ms) draft → ∃ next, ReadsMember r.fields draft m next ∧
      Holds ms next)
    (complete : ∀ {draft}, Holds [] draft → r.complete draft = .ok a) (object : IsObject cs ms)
    (start : Holds ms r.draft) (blank : Blanks bs) : Reads r.reader (bs ++ cs) a := by
  intro rest _
  rw [Record.reader, List.append_assoc, skipBlank_append_of_blanks blank]
  cases object with
  | @empty bs blank =>
    rw [List.cons_append, List.append_assoc, List.singleton_append, skipBlank_cons rfl]
    refine Record.ofObject_of_loop (loop_done (membersRound_end ?_ true)) (complete start)
    rw [skipBlank_append_of_blanks blank, skipBlank_cons rfl]
  | @some cs _ members =>
    rw [List.cons_append, List.append_assoc, List.singleton_append, skipBlank_cons rfl]
    have ahead : Ahead true (cs ++ '}' :: rest) (cs ++ '}' :: rest) := rfl
    obtain ⟨last, holds, loops⟩ := members.loop_membersRound step ahead start
    exact Record.ofObject_of_loop loops (complete holds)

theorem read_of_document {reader : Reader α} {bs' : List Char} {a : α}
    (reads : Reads reader (bs ++ cs) a) (blank' : Blanks bs') :
    Json.read reader (String.ofList (bs ++ (cs ++ bs'))) = .ok a := by
  have ends : skipBlank (bs' ++ []) = [] := skipBlank_append_of_blanks blank'
  have stops := blank'.stops stops_nil
  rw [List.append_nil] at ends stops
  simp only [Json.read, String.toList_ofList, ← List.append_assoc, reads bs' stops]
  simp only [bind, Except.bind, ends]
  rfl

end Objects

section Values

inductive IsNumber : List Char → Float → Prop
  | mk {n : Numeral} {x : Float} (value : n.value? = some x) : IsNumber n.text x

inductive IsText : List Char → String → Prop
  | mk {cs s : List Char} (spells : Spells cs s) : IsText ('"' :: (cs ++ ['"'])) (String.ofList s)

theorem IsNumber.reads {bs v : List Char} {x : Float} (number : IsNumber v x) (blank : Blanks bs) :
    Reads readFloat (bs ++ v) x := by
  cases number with
  | mk value => exact Numeral.reads_text blank value

theorem IsText.reads {bs v : List Char} {s : String} (text : IsText v s) (blank : Blanks bs) :
    Reads readText (bs ++ v) s := by
  cases text with
  | mk spells => exact spells.reads blank

def named (name : String) (ms : List Member) : List (List Char) :=
  (ms.filter (·.name = name)).map Member.value

def OthersWritten (names : List String) (ms : List Member) : Prop :=
  ∀ m ∈ ms, m.name ∉ names → Written .value m.value

/-- What is given by the values of a name: nothing, or what the only one means. -/
inductive Given (Means : List Char → α → Prop) : List (List Char) → Option α → Prop
  | absent : Given Means [] none
  | present {v : List Char} {a : α} (means : Means v a) : Given Means [v] (some a)

/-- What is held in a draft, with some values of its name still to come. -/
def Pending (Means : List Char → α → Prop) (given : Option α) (vs : List (List Char))
    (held : Option α) : Prop :=
  held = none ∧ Given Means vs given ∨ vs = [] ∧ held = given

variable {Means : List Char → α → Prop} {given held : Option α} {v : List Char}
  {vs : List (List Char)} {m : Member} {ms : List Member} {name : String}

theorem named_of_eq (same : m.name = name) : named name (m :: ms) = m.value :: named name ms := by
  simp [named, same]

theorem named_of_ne (other : m.name ≠ name) : named name (m :: ms) = named name ms := by
  simp [named, other]

theorem Given.pending (h : Given Means vs given) : Pending Means given vs none := .inl ⟨rfl, h⟩

theorem Pending.take (h : Pending Means given (v :: vs) held) :
    held = none ∧ ∃ a, Means v a ∧ Pending Means given vs (some a) := by
  obtain ⟨empty, present⟩ | ⟨none, -⟩ := h
  · cases present with
    | present means => exact ⟨empty, _, means, .inr ⟨rfl, rfl⟩⟩
  · cases none

theorem Pending.eq (h : Pending Means given [] held) : held = given := by
  obtain ⟨rfl, nothing⟩ | ⟨-, same⟩ := h
  · cases nothing
    rfl
  · exact same

/-- A member of a name that is still to come is read into its place in the draft. -/
theorem Pending.readsMember {draft : σ} {reader : Reader α} (fields : List (Field σ))
    (get : σ → Option α) (put : σ → α → σ) (same : m.name = name)
    (found : fields.find? (·.name = name) = some ⟨name, fun d ↦ (get d).isSome, fun d cs ↦ do
      let (a, rest) ← reader cs
      return (put d a, rest)⟩)
    (reads : ∀ {bs v a}, Means v a → Blanks bs → Reads reader (bs ++ v) a)
    (pending : Pending Means given (named name (m :: ms)) (get draft)) :
    ∃ a, ReadsMember fields draft m (put draft a) ∧ Pending Means given (named name ms)
    (some a) := by
  subst same
  rw [named_of_eq rfl] at pending
  obtain ⟨unset, a, means, pending⟩ := pending.take
  have empty : (get draft).isSome = false := by rw [unset, Option.isSome_none]
  exact ⟨a, readsMember_of_found found empty fun blank ↦ (reads means blank).map (put draft),
    pending⟩

end Values

end Json

open Json

namespace Band

def memberNames : List String := ["top_inset_pct", "bottom_inset_pct"]

def IsWritten (text : List Char) (b : Band) : Prop :=
  ∃ ms, IsObject text ms ∧ Given IsNumber (named "top_inset_pct" ms) (some b.topInset) ∧
    Given IsNumber (named "bottom_inset_pct" ms) (some b.bottomInset) ∧ OthersWritten memberNames ms

variable {b : Band}

structure Holds (b : Band) (ms : List Member) (d : Draft) : Prop where
  top : Pending IsNumber (some b.topInset) (named "top_inset_pct" ms) d.topInset
  bottom : Pending IsNumber (some b.bottomInset) (named "bottom_inset_pct" ms) d.bottomInset
  others : OthersWritten memberNames ms

theorem Holds.step {m : Member} {ms : List Member} {d : Draft} (holds : b.Holds (m :: ms) d) :
    ∃ next, ReadsMember record.fields d m next ∧ b.Holds ms next := by
  obtain ⟨top, bottom, others⟩ := holds
  have rest : OthersWritten memberNames ms := fun m member ↦ others m (.tail _ member)
  by_cases isTop : m.name = "top_inset_pct"
  · have other : m.name ≠ "bottom_inset_pct" := by simp [isTop]
    rw [named_of_ne other] at bottom
    obtain ⟨x, reads, top⟩ :=
      top.readsMember record.fields Draft.topInset
        (fun d x ↦ { d with topInset := some x }) isTop rfl
      IsNumber.reads
    exact ⟨_, reads, top, bottom, rest⟩
  · rw [named_of_ne isTop] at top
    by_cases isBottom : m.name = "bottom_inset_pct"
    · obtain ⟨x, reads, bottom⟩ :=
        bottom.readsMember record.fields Draft.bottomInset
          (fun d x ↦ { d with bottomInset := some x })
        isBottom rfl IsNumber.reads
      exact ⟨_, reads, top, bottom, rest⟩
    · rw [named_of_ne isBottom] at bottom
      have value := others m (.head _) (by simp [memberNames, isTop, isBottom])
      have absent : record.fields.find? (·.name = m.name) = none := by
        simp [record, Ne.symm isTop, Ne.symm isBottom]
      exact ⟨d, readsMember_of_absent absent value, top, bottom, rest⟩

theorem Holds.complete {d : Draft} (holds : b.Holds [] d) : record.complete d = .ok b := by
  obtain ⟨top, bottom⟩ := d
  obtain rfl : top = _ := holds.top.eq
  obtain rfl : bottom = _ := holds.bottom.eq
  rfl

theorem IsWritten.reads {bs v : List Char} (written : IsWritten v b) (blank : Blanks bs) :
    Reads reader (bs ++ v) b := by
  obtain ⟨ms, object, top, bottom, others⟩ := written
  exact object.reads Holds.step Holds.complete ⟨top.pending, bottom.pending, others⟩ blank

end Band

namespace Config

def memberNames : List String := ["header_offset_px", "band", "storage_key"]

/-- What the members of an object say about a configuration. -/
structure Sets (ms : List Member) (offset : Option Length) (band : Option Band)
    (key : Option String) : Prop where
  offset : Given IsNumber (named "header_offset_px" ms) offset
  band : Given Band.IsWritten (named "band" ms) band
  key : Given IsText (named "storage_key" ms) key
  others : OthersWritten memberNames ms

variable {offset : Option Length} {band : Option Band} {key : Option String}

structure Holds (offset : Option Length) (band : Option Band) (key : Option String)
    (ms : List Member) (d : Draft) :
    Prop where
  offset : Pending IsNumber offset (named "header_offset_px" ms) d.headerOffset
  band : Pending Band.IsWritten band (named "band" ms) d.band
  key : Pending IsText key (named "storage_key" ms) d.storageKey
  others : OthersWritten memberNames ms

theorem Holds.step {m : Member} {ms : List Member} {d : Draft}
    (holds : Holds offset band key (m :: ms) d) :
    ∃ next, ReadsMember record.fields d m next ∧ Holds offset band key ms next := by
  obtain ⟨offset, band, key, others⟩ := holds
  have rest : OthersWritten memberNames ms := fun m member ↦ others m (.tail _ member)
  by_cases isOffset : m.name = "header_offset_px"
  · have notBand : m.name ≠ "band" := by simp [isOffset]
    have notKey : m.name ≠ "storage_key" := by simp [isOffset]
    rw [named_of_ne notBand] at band
    rw [named_of_ne notKey] at key
    obtain ⟨x, reads, offset⟩ :=
      offset.readsMember record.fields Draft.headerOffset
        (fun d x ↦ { d with headerOffset := some x })
      isOffset rfl IsNumber.reads
    exact ⟨_, reads, offset, band, key, rest⟩
  · rw [named_of_ne isOffset] at offset
    by_cases isBand : m.name = "band"
    · have notKey : m.name ≠ "storage_key" := by simp [isBand]
      rw [named_of_ne notKey] at key
      obtain ⟨b, reads, band⟩ :=
        band.readsMember record.fields Draft.band (fun d b ↦ { d with band := some b }) isBand rfl
        Band.IsWritten.reads
      exact ⟨_, reads, offset, band, key, rest⟩
    · rw [named_of_ne isBand] at band
      by_cases isKey : m.name = "storage_key"
      · obtain ⟨s, reads, key⟩ :=
          key.readsMember record.fields Draft.storageKey
            (fun d s ↦ { d with storageKey := some s }) isKey rfl
          IsText.reads
        exact ⟨_, reads, offset, band, key, rest⟩
      · rw [named_of_ne isKey] at key
        have value := others m (.head _) (by simp [memberNames, isOffset, isBand, isKey])
        have absent : record.fields.find? (·.name = m.name) = none := by
          simp [record, Ne.symm isOffset, Ne.symm isBand, Ne.symm isKey]
        exact ⟨d, readsMember_of_absent absent value, offset, band, key, rest⟩

theorem Holds.complete {d : Draft} (holds : Holds offset band key [] d) :
    record.complete d = .ok (Draft.overlay ⟨offset, band, key⟩) := by
  obtain ⟨offset', band', key'⟩ := d
  obtain rfl : offset' = offset := holds.offset.eq
  obtain rfl : band' = band := holds.band.eq
  obtain rfl : key' = key := holds.key.eq
  rfl

variable {text : String} {ms ms' : List Member}

theorem Sets.read (sets : Sets ms offset band key) (document : IsDocument text.toList ms) :
    Json.read reader text = .ok (Draft.overlay ⟨offset, band, key⟩) := by
  obtain ⟨offset, band, key, others⟩ := sets
  have same : text = String.ofList text.toList := String.ofList_toList.symm
  rw [same]
  generalize text.toList = cs at document ⊢
  obtain ⟨blank, object, blank'⟩ := document
  refine read_of_document (object.reads Holds.step Holds.complete ?_ blank) blank'
  exact ⟨offset.pending, band.pending, key.pending, others⟩

end Config

end Wayfinder
