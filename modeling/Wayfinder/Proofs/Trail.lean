import Wayfinder.Proofs.Changes

namespace Wayfinder

namespace Page

variable (p : Page) {ids : List String} {band : Band} {y y' : Length} {trail : List Length}
  {a : Anchor}

def story (ids : List String) (band : Band) : List Length → List (List Entry)
  | [] => []
  | [y] => [p.entries ids band y]
  | y' :: y :: trail => p.changes ids band y y' :: story ids band (y :: trail)

/-- The batches that a watch is sent along a trail, the latest in front. One without entries is not
sent. -/
def told (ids : List String) (band : Band) (trail : List Length) : List (List Entry) :=
  (p.story ids band trail).filter (!·.isEmpty)

@[simp] theorem told_nil : p.told ids band [] = [] := rfl

theorem told_one : p.told ids band [y] = [p.entries ids band y].filter (!·.isEmpty) := rfl

theorem told_cons : p.told ids band (y' :: y :: trail) =
    [p.changes ids band y y'].filter (!·.isEmpty) ++ p.told ids band (y :: trail) := by
  rw [told, story, told, ← List.filter_append, List.singleton_append]

@[simp] theorem told_stay : p.told ids band (y :: y :: trail) = p.told ids band (y :: trail) := by
  simp [told_cons]

theorem reverse_sent (batch : List Entry) :
    ([batch].filter (!·.isEmpty)).reverse = [batch].filter (!·.isEmpty) := by
  cases batch with
  | nil => rfl
  | cons e batch => simp

theorem flatten_sent (batch : List Entry) : ([batch].filter (!·.isEmpty)).flatten = batch := by
  cases batch with
  | nil => rfl
  | cons e batch => simp

variable {p} in
/-- One who heard everything in order knows which anchors touch the band now. -/
theorem Known.told (distinct : p.Distinct) :
    p.Known ids band y
      (({} : Table Bool).learn (p.told ids band (y :: trail)).reverse.flatten) := by
  induction trail generalizing y with
  | nil =>
    rw [told_one, reverse_sent, flatten_sent]
    exact .first distinct
  | cons y₀ trail ih =>
    rw [told_cons, List.reverse_append, List.flatten_append, reverse_sent, flatten_sent,
      Table.learn_append]
    exact ih.learn_changes distinct

/-- The anchor comes into the band at the latest offset: it did not touch the band at the one
before. -/
def enters (band : Band) (a : Anchor) : List Length → Bool
  | [] => false
  | [y] => p.touches band y a
  | y' :: y :: _ => p.touches band y' a && !p.touches band y a

/-- The anchor that came into the band last, and the lowest of those that came at the same time. -/
def lastIn (ids : List String) (band : Band) : List Length → Option Anchor
  | [] => none
  | y :: trail =>
    ((p.anchorsOf ids).filter (p.enters band · (y :: trail))).getLast?.or (lastIn ids band trail)

theorem touches_of_enters (h : p.enters band a (y :: trail)) : p.touches band y a := by
  cases trail with
  | nil => exact h
  | cons y₀ trail => exact (Bool.and_eq_true_iff.1 h).1

theorem touches_of_not_enters (touches : p.touches band y' a)
    (old : p.enters band a (y' :: y :: trail) = false) :
    p.touches band y a := by simpa [enters, touches] using old

theorem isSome_lastIn (member : a ∈ p.anchorsOf ids) (touches : p.touches band y a) :
    (p.lastIn ids band (y :: trail)).isSome := by
  have entered {trail : List Length} (enters : p.enters band a trail) :
      ((p.anchorsOf ids).filter (p.enters band · trail)).getLast?.isSome := by
    simpa using ⟨a, member, enters⟩
  induction trail generalizing y with
  | nil =>
    have first : p.enters band a [y] := touches
    rw [lastIn, Option.isSome_or, entered first, Bool.true_or]
  | cons y₀ trail ih =>
    rw [lastIn, Option.isSome_or, Bool.or_eq_true]
    cases old : p.enters band a (y :: y₀ :: trail) with
    | true => exact .inl (entered old)
    | false => exact .inr (ih (p.touches_of_not_enters touches old))

/-- The trail up to where the anchor that came in last did so, and since then: no anchor has come in
after it, and those that came at the same time are not below it. -/
theorem exists_recent (last : p.lastIn ids band trail = some a) :
    ∃ recent older, trail = recent ++ older ∧
    a ∈ p.anchorsOf ids ∧ p.enters band a older ∧
      (∀ b ∈ p.anchorsOf ids, p.enters band b older → b.rank ≤ a.rank) ∧
      ∀ b ∈ p.anchorsOf ids, ∀ y newer, y :: newer <:+ recent →
        p.enters band b (y :: newer ++ older) = false := by
  induction trail with
  | nil => cases last
  | cons y trail ih =>
    rw [lastIn] at last
    cases entering : ((p.anchorsOf ids).filter (p.enters band · (y :: trail))).getLast? with
    | some b =>
      rw [entering, Option.some_or] at last
      cases last
      obtain ⟨member, latest⟩ := List.mem_filter.1 (List.mem_of_getLast? entering)
      refine ⟨[], y :: trail, rfl, member, latest, fun c hc enters ↦ ?_, by simp⟩
      obtain ⟨above, split⟩ := List.getLast?_eq_some_iff.1 entering
      have sorted := (p.inOrder_anchorsOf ids).down.filter (p.enters band · (y :: trail))
      rw [split, List.pairwise_append] at sorted
      have together : c ∈ above ++ [a] := split ▸ List.mem_filter.2 ⟨hc, enters⟩
      obtain earlier | same := List.mem_append.1 together
      · exact sorted.2.2 c earlier a (.head _)
      · exact List.mem_singleton.1 same ▸ Int.le_refl _
    | none =>
      rw [entering, Option.none_or] at last
      obtain ⟨recent, older, rfl, member, enters, lowest, quiet⟩ := ih last
      refine ⟨y :: recent, older, rfl, member, enters, lowest, fun b hb y₀ newer part ↦ ?_⟩
      obtain whole | part := List.suffix_cons_iff.1 part
      · cases whole
        have none := List.filter_eq_nil_iff.1 (List.getLast?_eq_none_iff.1 entering) b hb
        exact Bool.eq_false_iff.2 none
      · exact quiet b hb y₀ newer part

/-- An anchor that has not come in again is still in the band only if it has never left it. -/
theorem touches_recent {recent older : List Length} (enters : p.enters band a older)
    (quiet : ∀ y newer, y :: newer <:+ recent → p.enters band a (y :: newer ++ older) = false)
    (head : y :: trail = recent ++ older) :
    p.touches band y a ↔ ∀ y' ∈ recent, p.touches band y' a := by
  induction recent generalizing y trail with
  | nil =>
    subst head
    simp [p.touches_of_enters enters]
  | cons y₀ recent ih =>
    obtain ⟨rfl, rfl⟩ := List.cons.inj head
    refine ⟨fun touches ↦ List.forall_mem_cons.2 ⟨touches, ?_⟩, fun all ↦ all y (.head _)⟩
    have shorter (y' newer) (part : y' :: newer <:+ recent) :=
      quiet y' newer (part.trans (List.suffix_cons y recent))
    have old := quiet y recent List.suffix_rfl
    cases rest : recent ++ older with
    | nil => simp [(List.append_eq_nil_iff.1 rest).1]
    | cons y₁ newer =>
      rw [List.cons_append, rest] at old
      exact (ih shorter rest.symm).1 (p.touches_of_not_enters touches old)

end Page

end Wayfinder
