import Mathlib.Data.List.Nodup
import Wayfinder.Registry

namespace Wayfinder

section Repetition

variable {seen ids : List String} {id : String} {j : Nat}

/-- The entry at place `j` also stands before it or in `seen`. -/
def RepeatsAt (seen ids : List String) (j : Nat) : Prop :=
  ∃ id, ids[j]? = some id ∧ (id ∈ seen ∨ ∃ i < j, ids[i]? = some id)

theorem repeatsAt_zero : RepeatsAt seen (id :: ids) 0 ↔ id ∈ seen := by simp [RepeatsAt]

/-- What has been passed counts as seen. -/
theorem repeatsAt_succ : RepeatsAt seen (id :: ids) (j + 1) ↔ RepeatsAt (id :: seen) ids j := by
  constructor
  · rintro ⟨other, here, old | ⟨i, before, same⟩⟩
    · exact ⟨other, here, .inl (.tail _ old)⟩
    · cases i with
      | zero =>
        obtain rfl : id = other := by simpa using same
        exact ⟨id, here, .inl (.head _)⟩
      | succ i => exact ⟨other, here, .inr ⟨i, by omega, same⟩⟩
  · rintro ⟨other, here, old | ⟨i, before, same⟩⟩
    · obtain rfl | old := List.mem_cons.1 old
      · exact ⟨other, here, .inr ⟨0, by omega, rfl⟩⟩
      · exact ⟨other, here, .inl old⟩
    · exact ⟨other, here, .inr ⟨i + 1, by omega, same⟩⟩

theorem firstRepeated_eq_some_iff :
    firstRepeated seen ids = some id ↔
      ∃ j, ids[j]? = some id ∧ RepeatsAt seen ids j ∧ ∀ k < j, ¬ RepeatsAt seen ids k := by
  induction ids generalizing seen with
  | nil => simp [firstRepeated]
  | cons first ids ih =>
    rw [firstRepeated]
    split
    · rename_i old
      constructor
      · intro found
        exact ⟨0, found, repeatsAt_zero.2 old, fun k before ↦ absurd before (Nat.not_lt_zero k)⟩
      · rintro ⟨j, here, -, least⟩
        cases j with
        | zero => exact here
        | succ j => exact absurd (repeatsAt_zero.2 old) (least 0 (by omega))
    · rename_i new
      rw [ih]
      constructor
      · rintro ⟨j, here, again, least⟩
        refine ⟨j + 1, here, repeatsAt_succ.2 again, fun k before ↦ ?_⟩
        cases k with
        | zero => rwa [repeatsAt_zero]
        | succ k =>
          rw [repeatsAt_succ]
          exact least k (by omega)
      · rintro ⟨j, here, again, least⟩
        cases j with
        | zero => exact absurd (repeatsAt_zero.1 again) new
        | succ j =>
          refine ⟨j, here, repeatsAt_succ.1 again, fun k before ↦ ?_⟩
          rw [← repeatsAt_succ]
          exact least (k + 1) (by omega)

/-- The first id that stands in a list again, by its place there. -/
theorem firstRepeated_nil_eq_some_iff :
    firstRepeated [] ids = some id ↔
      ∃ j, ids[j]? = some id ∧ (∃ i < j, ids[i]? = some id) ∧ ∀ i k : Nat, i < k → k < j →
        ids[i]? ≠ ids[k]? := by
  rw [firstRepeated_eq_some_iff]
  constructor
  · rintro ⟨j, here, ⟨other, here', earlier⟩, least⟩
    obtain rfl := Option.some.inj (here.symm.trans here')
    obtain ⟨bound, -⟩ := List.getElem?_eq_some_iff.1 here
    refine ⟨j, here, earlier.resolve_left List.not_mem_nil, fun i k between before same ↦ ?_⟩
    have there : ids[k]? = some ids[k] := List.getElem?_eq_getElem (by omega)
    exact least k before ⟨_, there, .inr ⟨i, between, same.trans there⟩⟩
  · rintro ⟨j, here, earlier, least⟩
    refine ⟨j, here, ⟨id, here, .inr earlier⟩, ?_⟩
    rintro k before ⟨other, there, old | ⟨i, between, same⟩⟩
    · exact List.not_mem_nil old
    · exact least i k between before (same.trans there.symm)

end Repetition

namespace Registry

variable {sections : List Section} {r : Registry} {id : String} {i : Nat}

section Construction

theorem ofSections_eq_empty_iff : ofSections sections = .error .empty ↔ sections = [] := by
  unfold ofSections
  split
  · simp [*]
  · split <;> simp [*]

theorem ofSections_eq_duplicate_iff :
    ofSections sections = .error (.duplicate id) ↔ firstRepeated []
    (sections.map Section.id) = some id := by
  unfold ofSections
  split
  · rename_i none
    simp [none, firstRepeated]
  · split <;> simp_all

theorem exists_ofSections_iff :
    (∃ r, ofSections sections = .ok r) ↔ sections ≠ [] ∧ (sections.map Section.id).Nodup := by
  have distinct : firstRepeated [] (sections.map Section.id) = none ↔
      (sections.map Section.id).Nodup := by
    simp [firstRepeated_eq_none_iff]
  rw [← distinct]
  unfold ofSections
  split
  · simp [*]
  · split <;> simp [*]

theorem sections_of_ofSections (valid : ofSections sections = .ok r) : r.sections = sections := by
  unfold ofSections at valid
  split at valid
  · cases valid
  · split at valid
    · cases valid
    · cases valid
      rfl

end Construction

section Lookup

theorem getElem?_first (r : Registry) : r.sections[0]? = some r.first := by
  rw [first, ← List.head?_eq_getElem?, List.head?_eq_some_head r.nonempty]

theorem first_mem_ids (r : Registry) : r.first.id ∈ r.ids :=
  List.mem_map_of_mem (List.head_mem r.nonempty)

theorem position?_eq_some : r.position? id = some i ↔ r.ids[i]? = some id := by
  rw [position?, List.findIdx?_eq_some_iff_getElem, ids, List.getElem?_map, Option.map_eq_some_iff]
  constructor
  · rintro ⟨bound, here, -⟩
    exact ⟨r.sections[i], List.getElem?_eq_getElem bound, of_decide_eq_true here⟩
  · rintro ⟨entry, found, rfl⟩
    obtain ⟨bound, rfl⟩ := List.getElem?_eq_some_iff.1 found
    refine ⟨bound, decide_eq_true rfl, fun j before same ↦ ?_⟩
    have length : (r.sections.map Section.id).length = r.sections.length := List.length_map _
    have earlier : j < (r.sections.map Section.id).length := by omega
    have later : i < (r.sections.map Section.id).length := by omega
    have repeated : (r.sections.map Section.id)[j] = (r.sections.map Section.id)[i] := by
      rw [List.getElem_map, List.getElem_map]
      exact of_decide_eq_true same
    have place := r.distinct.getElem_inj_iff.1 repeated
    omega

theorem exists_position (member : id ∈ r.ids) : ∃ i, r.position? id = some i := by
  obtain ⟨i, found⟩ := List.getElem?_of_mem member
  exact ⟨i, position?_eq_some.2 found⟩

theorem position?_first (r : Registry) : r.position? r.first.id = some 0 := by
  rw [position?_eq_some, ids, List.getElem?_map, getElem?_first]
  rfl

theorem position?_eq_none_iff : r.position? id = none ↔ id ∉ r.ids := by
  constructor
  · intro none member
    obtain ⟨i, found⟩ := exists_position member
    cases none.symm.trans found
  · intro absent
    refine Option.eq_none_iff_forall_ne_some.2 fun i found ↦ absent ?_
    exact List.mem_of_getElem? (position?_eq_some.1 found)

/-- The first section with the id is the one at its place. -/
theorem label?_eq (r : Registry) (id : String) :
    r.label? id = (r.position? id).bind fun i ↦ r.sections[i]?.map Section.label := by
  rw [label?, position?, List.find?_eq_bind_findIdx?_getElem?, Option.map_bind]
  rfl

theorem label?_of_position (position : r.position? id = some i) :
    ∃ entry, r.sections[i]? = some entry ∧ r.label? id = some entry.label := by
  have here := position?_eq_some.1 position
  rw [ids, List.getElem?_map, Option.map_eq_some_iff] at here
  obtain ⟨entry, found, -⟩ := here
  refine ⟨entry, found, ?_⟩
  rw [label?_eq, position, Option.bind_some, found, Option.map_some]

theorem label?_eq_none_iff : r.label? id = none ↔ id ∉ r.ids := by
  rw [← position?_eq_none_iff]
  constructor
  · intro none
    refine Option.eq_none_iff_forall_ne_some.2 fun i position ↦ ?_
    obtain ⟨entry, -, label⟩ := label?_of_position position
    cases none.symm.trans label
  · intro none
    rw [label?_eq, none, Option.bind_none]

theorem contains_eq_false_iff : r.contains id = false ↔ id ∉ r.ids := by
  rw [contains, Option.isSome_eq_false_iff, Option.isNone_iff_eq_none, position?_eq_none_iff]

end Lookup

/-- A list of sections makes a registry just if there is one and no id stands there twice; else it
is refused as empty, or for the first id that stands there again. The registry holds the list as it
is, and all that it answers about an id rests on the one place where the id stands. -/
theorem registers_distinct (sections : List Section) :
    ((∃ r, ofSections sections = .ok r) ↔ sections ≠ [] ∧ (sections.map Section.id).Nodup) ∧
    (ofSections sections = .error .empty ↔ sections = []) ∧
    (∀ id, ofSections sections = .error (.duplicate id) ↔
      ∃ j, (sections.map Section.id)[j]? = some id ∧
        (∃ i < j, (sections.map Section.id)[i]? = some id) ∧
        ∀ i k : Nat, i < k → k < j →
          (sections.map Section.id)[i]? ≠ (sections.map Section.id)[k]?) ∧
    ∀ r, ofSections sections = .ok r → r.sections = sections ∧ r.sections[0]? = some r.first ∧
      ∀ id, (∀ i, r.position? id = some i ↔ r.ids[i]? = some id) ∧
        (∀ i, r.position? id = some i →
          r.contains id ∧ ∃ entry, r.sections[i]? = some entry ∧ r.label? id = some entry.label) ∧
        (r.contains id = false ↔ id ∉ r.ids) ∧ (r.position? id = none ↔ id ∉ r.ids) ∧
        (r.label? id = none ↔ id ∉ r.ids) := by
  refine ⟨exists_ofSections_iff, ofSections_eq_empty_iff, fun id ↦ ?_, fun r valid ↦ ?_⟩
  · rw [ofSections_eq_duplicate_iff, firstRepeated_nil_eq_some_iff]
  · refine ⟨sections_of_ofSections valid, r.getElem?_first,
      fun id ↦ ⟨fun i ↦ position?_eq_some, fun i position ↦ ?_, contains_eq_false_iff,
        position?_eq_none_iff, label?_eq_none_iff⟩⟩
    exact ⟨by rw [contains, position, Option.isSome_some], label?_of_position position⟩

def recurring : List Section := [⟨"a", "A"⟩, ⟨"b", "B"⟩, ⟨"c", "A"⟩, ⟨"b", "Again"⟩, ⟨"a", "Again"⟩]

theorem registers_distinct_recurring :
    ofSections recurring = .error (.duplicate "b") ∧
      ∃ r, ofSections (recurring.take 3) = .ok r ∧ r.position? "c" = some 2 ∧
        r.label? "c" = some "A" ∧
        r.position? "Again" = none := by
  obtain ⟨-, -, duplicate, -⟩ := registers_distinct recurring
  obtain ⟨accepted, -, -, answers⟩ := registers_distinct (recurring.take 3)
  obtain ⟨r, valid⟩ := accepted.2 ⟨by decide, by decide⟩
  obtain ⟨same, -, about⟩ := answers r valid
  have ids : r.ids = ["a", "b", "c"] := by
    rw [Registry.ids, same]
    rfl
  obtain ⟨position, label, -⟩ := about "c"
  have third : r.position? "c" = some 2 := (position 2).2 (by rw [ids]; rfl)
  obtain ⟨-, entry, found, text⟩ := label 2 third
  rw [same] at found
  cases found
  have apart : ∀ k < 3, ∀ i < k, (recurring.map Section.id)[i]? ≠
      (recurring.map Section.id)[k]? := by decide
  refine ⟨(duplicate "b").2 ⟨3, rfl, ⟨1, by decide, rfl⟩,
    fun i k between before ↦ apart k before i between⟩, r, valid, third, text, ?_⟩
  rw [(about "Again").2.2.2.1, ids]
  decide

end Registry

end Wayfinder
