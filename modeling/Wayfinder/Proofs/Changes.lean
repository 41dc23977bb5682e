import Mathlib.Data.List.Nodup
import Mathlib.Data.List.Sort
import Wayfinder.Host

namespace Wayfinder

section Order

variable {α : Type} {key : α → Int} {p : α → Bool}

theorem insertBy_eq_orderedInsert (a : α) (l : List α) :
    insertBy key a l = l.orderedInsert (key · ≤ key ·) a := by
  induction l with
  | nil => rfl
  | cons b l ih => rw [insertBy, List.orderedInsert_cons, ih]

theorem sortBy_eq_insertionSort (l : List α) :
    sortBy key l = l.insertionSort (key · ≤ key ·) := by
  induction l with
  | nil => rfl
  | cons a l ih => rw [sortBy, insertBy_eq_orderedInsert, ih, List.insertionSort_cons]

@[simp] theorem mem_sortBy {l : List α} {a : α} : a ∈ sortBy key l ↔ a ∈ l := by
  rw [sortBy_eq_insertionSort, List.mem_insertionSort]

theorem insertBy_of_le {a : α} {l : List α} (below : ∀ b ∈ l, key a ≤ key b) :
    insertBy key a l = a :: l := by
  cases l with
  | nil => rfl
  | cons b l => rw [insertBy, if_pos (below b (.head _))]

theorem insertBy_filter {l : List α} (a : α) (sorted : l.Pairwise (key · ≤ key ·)) :
    (insertBy key a l).filter p = if p a then insertBy key a (l.filter p) else l.filter p := by
  induction l with
  | nil => simp [insertBy, List.filter_cons]
  | cons b l ih =>
    obtain ⟨below, rest⟩ := List.pairwise_cons.1 sorted
    by_cases first : key a ≤ key b
    · have least : ∀ c ∈ (b :: l).filter p, key a ≤ key c := by
        intro c member
        obtain rfl | later := List.mem_cons.1 (List.mem_filter.1 member).1
        · exact first
        · exact Int.le_trans first (below c later)
      rw [insertBy, if_pos first, insertBy_of_le least, List.filter_cons]
    · rw [insertBy, if_neg first, List.filter_cons, List.filter_cons, ih rest]
      by_cases kept : p b
      · simp only [if_pos kept, insertBy, if_neg first]
        split <;> rfl
      · simp only [if_neg kept]

/-- What is left out does not matter for the order of the rest. -/
theorem sortBy_filter (l : List α) : sortBy key (l.filter p) = (sortBy key l).filter p := by
  induction l with
  | nil => rfl
  | cons a l ih =>
    have sorted : (sortBy key l).Pairwise (key · ≤ key ·) :=
      sortBy_eq_insertionSort l ▸ List.pairwise_insertionSort _ l
    rw [sortBy, insertBy_filter a sorted, ← ih, List.filter_cons]
    split <;> rfl

theorem filter_sortBy (k : Int) (l : List α) :
    (sortBy key l).filter (key · = k) = l.filter (key · = k) := by
  have level : (l.filter (key · = k)).Pairwise (key · ≤ key ·) :=
    List.pairwise_iff_forall_sublist.2 fun {a b} pair ↦ by
      have ha := List.mem_filter.1 (pair.mem (.head _))
      have hb := List.mem_filter.1 (pair.mem (.tail _ (.head _)))
      simp_all
  rw [← sortBy_filter, sortBy_eq_insertionSort, level.insertionSort_eq]

end Order

def Table.learn (known : Table Bool) (batch : List Entry) : Table Bool :=
  batch.foldl (fun known e ↦ known.insert e.id e.intersecting) known

namespace Table

variable (known : Table Bool)

theorem learn_append (batch later : List Entry) :
    known.learn (batch ++ later) = (known.learn batch).learn later :=
  List.foldl_append

theorem get?_learn_of_not_mem {id : String} {batch : List Entry} (h : id ∉ batch.map Entry.id) :
    (known.learn batch).get? id = known.get? id := by
  induction batch generalizing known with
  | nil => rfl
  | cons e batch ih =>
    simp only [List.map_cons, List.mem_cons, not_or] at h
    rw [learn, List.foldl_cons, ← learn, ih _ h.2, get?_insert, if_neg h.1]

theorem get?_learn_of_mem {e : Entry} {batch : List Entry} (distinct : (batch.map Entry.id).Nodup)
    (h : e ∈ batch) : (known.learn batch).get? e.id = some e.intersecting := by
  induction batch generalizing known with
  | nil => cases h
  | cons e' batch ih =>
    obtain ⟨fresh, distinct⟩ := List.nodup_cons.1 distinct
    rw [learn, List.foldl_cons, ← learn]
    obtain rfl | h := List.mem_cons.1 h
    · rw [get?_learn_of_not_mem _ fresh, get?_insert, if_pos rfl]
    · exact ih _ distinct h

end Table

theorem newsAfter_snd (known : Table Bool) (batch : List Entry) :
    (newsAfter known batch).2 = known.learn batch := by
  induction batch generalizing known with
  | nil => rfl
  | cons e batch ih => exact ih _

theorem newsAfter_fst (known : Table Bool) {batch : List Entry}
    (distinct : (batch.map Entry.id).Nodup) :
    (newsAfter known batch).1 = batch.filter fun e ↦ known.get? e.id ≠ some e.intersecting := by
  induction batch generalizing known with
  | nil => rfl
  | cons e batch ih =>
    obtain ⟨fresh, distinct⟩ := List.nodup_cons.1 distinct
    -- what is said of `e` does not bear on the later entries, which have other ids
    have later :
        (batch.filter fun e' ↦ (known.insert e.id e.intersecting).get? e'.id ≠
          some e'.intersecting) =
        batch.filter fun e' ↦ known.get? e'.id ≠ some e'.intersecting := by
      refine List.filter_congr fun e' h ↦ ?_
      have other : e'.id ≠ e.id := fun same ↦ fresh (same ▸ List.mem_map_of_mem h)
      rw [Table.get?_insert, if_neg other]
    simp only [newsAfter, ih _ distinct, later, List.filter_cons]
    by_cases told : known.get? e.id = some e.intersecting <;> simp [told]

namespace Page

variable (p : Page) {ids : List String} {band : Band} {y y' : Length} {known : Table Bool}

def Distinct : Prop := (p.anchors.map Anchor.id).Nodup

theorem mem_anchorsOf {a : Anchor} : a ∈ p.anchorsOf ids ↔ a ∈ p.anchors ∧ a.id ∈ ids := by
  simp [anchorsOf, List.mem_filter]

/-- The anchors with one of these ids go down the page by their tops, and those at one top stand as
they were added. -/
structure InOrder (ids : List String) (l : List Anchor) : Prop where
  all : l.Perm (p.anchors.filter (·.id ∈ ids))
  down : l.Pairwise (Anchor.rank · ≤ Anchor.rank ·)
  stable : ∀ k, l.filter (Anchor.rank · = k) = (p.anchors.filter (·.id ∈ ids)).filter
    (Anchor.rank · = k)

theorem inOrder_anchorsOf (ids : List String) : p.InOrder ids (p.anchorsOf ids) := by
  have same : (p.anchors.filter fun a ↦ ids.contains a.id) = p.anchors.filter (·.id ∈ ids) := by
    simp
  have stable (k : Int) : (p.anchorsOf ids).filter (Anchor.rank · = k) = _ := filter_sortBy k _
  rw [same] at stable
  refine ⟨?_, ?_, stable⟩
  · rw [anchorsOf, same, sortBy_eq_insertionSort]
    exact List.perm_insertionSort _ _
  · rw [anchorsOf, sortBy_eq_insertionSort]
    exact List.pairwise_insertionSort _ _

def changes (ids : List String) (band : Band) (y y' : Length) : List Entry :=
  ((p.anchorsOf ids).filter fun a ↦ p.touches band y a ≠ p.touches band y' a).map fun a ↦
    ⟨a.id, p.touches band y' a⟩

def Known (ids : List String) (band : Band) (y : Length) (known : Table Bool) : Prop :=
  ∀ a ∈ p.anchorsOf ids, known.get? a.id = some (p.touches band y a)

@[simp] theorem changes_self : p.changes ids band y y = [] := by simp [changes]

variable {p}

theorem Distinct.anchorsOf (distinct : p.Distinct) (ids : List String) :
    ((p.anchorsOf ids).map Anchor.id).Nodup := by
  rw [((p.inOrder_anchorsOf ids).all.map _).nodup_iff]
  exact distinct.sublist (List.filter_sublist.map _)

theorem Distinct.eq_of_id (distinct : p.Distinct) {a b : Anchor} (ha : a ∈ p.anchors)
    (hb : b ∈ p.anchors) (same : a.id = b.id) : a = b :=
  List.inj_on_of_nodup_map distinct ha hb same

theorem Distinct.entries (distinct : p.Distinct) : ((p.entries ids band y).map Entry.id).Nodup := by
  have same : (p.entries ids band y).map Entry.id = (p.anchorsOf ids).map Anchor.id := by
    simp [Page.entries]
  rw [same]
  exact distinct.anchorsOf ids

theorem Distinct.changes (distinct : p.Distinct) :
    ((p.changes ids band y y').map Entry.id).Nodup := by
  have part : ((p.changes ids band y y').map Entry.id).Sublist
      ((p.anchorsOf ids).map Anchor.id) := by
    simpa [Page.changes, Function.comp_def] using List.filter_sublist.map Anchor.id
  exact (distinct.anchorsOf ids).sublist part

theorem Known.first (distinct : p.Distinct) :
    p.Known ids band y (({} : Table Bool).learn (p.entries ids band y)) :=
  fun _ ha ↦ Table.get?_learn_of_mem _ distinct.entries (List.mem_map_of_mem ha)

/-- Changes alone are enough to stay up to date. -/
theorem Known.learn_changes (distinct : p.Distinct) (h : p.Known ids band y known) :
    p.Known ids band y' (known.learn (p.changes ids band y y')) := by
  intro a ha
  by_cases same : p.touches band y a = p.touches band y' a
  · have untold : a.id ∉ (p.changes ids band y y').map Entry.id := by
      intro told
      obtain ⟨e, he, hid⟩ := List.mem_map.1 told
      obtain ⟨b, hb, rfl⟩ := List.mem_map.1 he
      obtain ⟨hb, changed⟩ := List.mem_filter.1 hb
      obtain rfl : b = a := distinct.eq_of_id (p.mem_anchorsOf.1 hb).1 (p.mem_anchorsOf.1 ha).1 hid
      simp [same] at changed
    rw [Table.get?_learn_of_not_mem _ untold, h a ha, same]
  · exact Table.get?_learn_of_mem known distinct.changes
      (List.mem_map_of_mem (List.mem_filter.2 ⟨ha, by simpa using same⟩))

theorem Known.news_fst (distinct : p.Distinct) (h : p.Known ids band y known) :
    (newsAfter known (p.entries ids band y')).1 = p.changes ids band y y' := by
  rw [newsAfter_fst known distinct.entries, Page.entries, List.filter_map, Page.changes]
  congr 1
  refine List.filter_congr fun a ha ↦ ?_
  simp [h a ha]

theorem Known.news_snd (distinct : p.Distinct) (known : Table Bool) :
    p.Known ids band y (newsAfter known (p.entries ids band y)).2 := by
  rw [newsAfter_snd]
  exact fun _ ha ↦ Table.get?_learn_of_mem _ distinct.entries (List.mem_map_of_mem ha)

end Page

def Watch.blank {ω : Type} (w : Watch ω) : Watch ω := { w with known := {} }

namespace Document

variable {ω : Type} {d d' : Document ω}

inductive Moves (d d' : Document ω) : Prop
  | stay (offset : d'.scrollY = d.scrollY) (target : d'.target = d.target)
  | aim (y : Length) (offset : d'.scrollY = d.scrollY)
      (target : d'.target = some (d.page.clampScroll y))
  | jump (y : Length) (offset : d'.scrollY = d.page.clampScroll y) (target : d'.target = none)
  | frame (next : d.nextFrame? = some d')

structure Alike (d d' : Document ω) : Prop where
  page : d'.page = d.page
  watches : d'.watches = d.watches
  token : d'.nextToken = d.nextToken
  moves : Moves d d'

structure DressedAlike (d d' : Document ω) : Prop where
  saved : d'.storage.saved = d.storage.saved
  applied : d'.applied = d.applied

structure SteeredAlike (d d' : Document ω) : Prop where
  offset : d'.scrollY = d.scrollY
  target : d'.target = d.target
  requests : d'.requests = d.requests

theorem alike_nextFrame (h : d.nextFrame? = some d') : Alike d d' ∧ DressedAlike d d' := by
  have moves := Moves.frame h
  obtain ⟨target, -, rfl⟩ := Option.map_eq_some_iff.1 h
  dsimp only at moves ⊢
  revert moves
  split <;> exact fun moves ↦ ⟨⟨rfl, rfl, rfl, moves⟩, rfl, rfl⟩

theorem alike_writeSaved {faults : Faults} {key value : String}
    (h : d.writeSaved faults key value = .ok d') :
    Alike d d' ∧ SteeredAlike d d' := by
  unfold writeSaved at h
  split at h
  · cases h
  · unfold Storage.write at h
    split at h <;> cases h
    exact ⟨⟨rfl, rfl, rfl, .stay rfl rfl⟩, rfl, rfl, rfl⟩

def Current (d : Document ω) : Prop := ∀ w ∈ d.watches, d.page.Known w.ids w.band d.scrollY w.known

theorem current_inform (distinct : d.page.Distinct) : d.inform.1.Current := by
  intro w member
  obtain ⟨w, -, rfl⟩ := List.mem_map.1 member
  exact .news_snd distinct w.known

def deltas (d : Document ω) (y : Length) : List (Delivery ω) :=
  (d.watches.map fun w ↦ Delivery.mk w.owner (d.page.changes w.ids w.band d.scrollY y)).filter
    (!·.batch.isEmpty)

@[simp] theorem deltas_self : d.deltas d.scrollY = [] := by simp [deltas]

/-- What scrolling makes of a document: it may stay where it is, and else every watch is brought up
to date. -/
inductive Shifts (d : Document ω) : Document ω × List (Delivery ω) → Prop
  | stay {d' : Document ω} (alike : Alike d d') (offset : d'.scrollY = d.scrollY)
      (dressed : DressedAlike d d') :
      Shifts d (d', [])
  | inform {d' : Document ω} (alike : Alike d d') (dressed : DressedAlike d d') : Shifts d d'.inform

variable (d) in
theorem shifts_userScroll (y : Length) : d.Shifts (d.userScroll y) :=
  .inform ⟨rfl, rfl, rfl, .jump y rfl rfl⟩ ⟨rfl, rfl⟩

variable (d) in
theorem shifts_scrollTo (y : Length) (animated : Bool) : d.Shifts (d.scrollTo y animated) := by
  unfold Document.scrollTo
  split
  · exact .stay ⟨rfl, rfl, rfl, .aim y rfl rfl⟩ rfl ⟨rfl, rfl⟩
  · exact .inform ⟨rfl, rfl, rfl, .jump y rfl rfl⟩ ⟨rfl, rfl⟩

variable (d) in
theorem shifts_advanceFrame : d.Shifts d.advanceFrame := by
  unfold Document.advanceFrame
  split
  · exact .stay ⟨rfl, rfl, rfl, .stay rfl rfl⟩ rfl ⟨rfl, rfl⟩
  · obtain ⟨alike, dressed⟩ := alike_nextFrame ‹_›
    exact .inform alike dressed

namespace Shifts

variable {change : Document ω × List (Delivery ω)}

theorem page (shift : d.Shifts change) : change.1.page = d.page := by
  cases shift with
  | stay alike | inform alike => exact alike.page

theorem watches (shift : d.Shifts change) :
    change.1.watches.map Watch.blank = d.watches.map Watch.blank := by
  cases shift with
  | stay alike => rw [alike.watches]
  | inform alike => simp [Document.inform, Watch.blank, alike.watches]

theorem current (shift : d.Shifts change) (distinct : d.page.Distinct) (current : d.Current) :
    change.1.Current := by
  cases shift with
  | stay alike offset => simpa only [Current, alike.page, alike.watches, offset] using current
  | inform alike => exact current_inform (alike.page ▸ distinct)

theorem batches (shift : d.Shifts change) (distinct : d.page.Distinct) (current : d.Current) :
    change.2 = d.deltas change.1.scrollY := by
  cases shift with
  | stay alike offset => rw [offset, deltas_self]
  | inform alike =>
    simp only [Document.inform, deltas, alike.watches]
    congr 1
    refine List.map_congr_left fun w h ↦ ?_
    simp only [news, alike.page, (current w h).news_fst distinct]

end Shifts

theorem Current.observe (current : d.Current) (distinct : d.page.Distinct) (owner : ω)
    (ids : List String) (band : Band) : (d.observe owner ids band).Current := by
  intro w h
  obtain h | h := List.mem_append.1 h
  · exact current w h
  · obtain rfl := List.mem_singleton.1 h
    exact .first distinct

end Document

end Wayfinder
