import Wayfinder.Proofs.Preferences

namespace Wayfinder.Session

def Move.loads (e : Move) (n : Nat) : Bool := e.machine.stage.use? e.job = some (n, .load)

def Move.toggles (e : Move) (n : Nat) : Bool := e.machine.stage.use? e.job = some (n, .toggle)

def Move.uses (e : Move) (n : Nat) : Bool := e.loads n || e.toggles n

def Stage.canRecall (s : Stage) (n : Nat) : Bool :=
  s.stores[n]?.all fun store ↦ s.documents[store.document]?.all (·.canRead s.faults)

def Stage.canSave (s : Stage) (n : Nat) : Bool :=
  s.stores[n]?.all fun store ↦ s.documents[store.document]?.all (·.canWrite s.faults)

/-- Storage does not fail where the move needs it for the preference. -/
def Move.storageHelps (e : Move) (n : Nat) : Bool :=
  (!e.loads n || e.machine.stage.canRecall n) && (!e.toggles n || e.machine.stage.canSave n)

section Agreement

variable {may : Stage → Step → Prop} {past : List Move} {m m' : Machine}
  {jobs jobs' : List Job} {j : Job} {n k : Nat} {p : Preference Hearer} {d : Document Receiver}

theorem Move.uses_of_use? {i : Nat} {use : Use} (used : m.stage.use? j = some (i, use)) :
    Move.uses ⟨m, jobs, j⟩ n = decide (i = n) := by
  simp only [uses, loads, toggles, used, Option.some.injEq, Prod.mk.injEq]
  cases use <;> simp

theorem Move.toggles_of_use? {i : Nat} {use : Use} (used : m.stage.use? j = some (i, use)) :
    Move.toggles ⟨m, jobs, j⟩ n = decide (i = n ∧ use = .toggle) := by
  simp only [toggles, used, Option.some.injEq, Prod.mk.injEq]

theorem Move.uses_of_unused (unused : m.stage.use? j = none) :
    Move.uses ⟨m, jobs, j⟩ n = false := by
  simp [uses, loads, toggles, unused]

/-- How a preference and its document agree after the moves of the past. -/
structure Agrees (past : List Move) (n : Nat) (p : Preference Hearer) (d : Document Receiver) :
    Prop where
  loaded : p.loaded → past.any (·.uses n)
  applied : d.applied = if past.any (·.uses n) then some p.theme else none
  stored : (∀ e ∈ past, e.storageHelps n) → past.any (·.toggles n) →
    d.storage.get? p.key = some p.theme.name

namespace Agrees

/-- A move that does not use the preference leaves both sides as they are. -/
theorem frame {p' : Preference Hearer} {d' : Document Receiver} {e : Move} (h : Agrees past n p d)
    (unused : e.uses n = false) (key : p'.key = p.key) (theme : p'.theme = p.theme)
    (loaded : p'.loaded = p.loaded) (dressed : d.DressedAlike d') : Agrees (e :: past) n p' d' := by
  have untoggled : e.toggles n = false := (Bool.or_eq_false_iff.1 unused).2
  refine ⟨?_, ?_, fun works toggled ↦ ?_⟩
  · rw [loaded, List.any_cons, unused]
    exact h.loaded
  · rw [dressed.applied, theme, List.any_cons, unused]
    exact h.applied
  · rw [Storage.get?, dressed.saved, key, theme]
    rw [List.any_cons, untoggled] at toggled
    exact h.stored (fun e made ↦ works e (.tail _ made)) toggled

theorem of_untouched {past : List Move} (theme : d.applied = none) (loaded : p.loaded = false)
    (unused : past.any (·.uses n) = false) : Agrees past n p d := by
  refine ⟨fun h ↦ ?_, ?_, fun _ toggled ↦ ?_⟩
  · rw [loaded] at h
    cases h
  · rw [theme, unused]
    rfl
  · obtain ⟨e, made, toggles⟩ := List.any_eq_true.1 toggled
    have uses : e.uses n := by rw [Move.uses, toggles, Bool.or_true]
    rw [List.any_eq_true.2 ⟨e, made, uses⟩] at unused
    cases unused

theorem use {use : Use} {store : Mounted (Preference Hearer)} (h : Agrees past n store.part d)
    (used : m.stage.use? j = some (n, use)) (found : m.stage.stores[n]? = some store)
    (document : m.stage.documents[store.document]? = some d) :
    Agrees (⟨m, jobs, j⟩ :: past) n (use.change store.part d m.stage.faults).preference
      (use.change store.part d m.stage.faults).document := by
  obtain ⟨k, p⟩ := store
  have uses : List.any (⟨m, jobs, j⟩ :: past) (·.uses n) = true := by
    rw [List.any_cons, Move.uses_of_use? used, decide_eq_true rfl, Bool.true_or]
  have now (works : ∀ e ∈ ⟨m, jobs, j⟩ :: past, e.storageHelps n) :
      (use = .load → d.canRead m.stage.faults) ∧ (use = .toggle → d.canWrite m.stage.faults) := by
    have here := works ⟨m, jobs, j⟩ (.head _)
    simpa [Move.storageHelps, Move.loads, Move.toggles, used, Stage.canRecall, Stage.canSave,
      found, document, imp_iff_not_or] using here
  have before (works : ∀ e ∈ ⟨m, jobs, j⟩ :: past, e.storageHelps n)
      (toggled : List.any (⟨m, jobs, j⟩ :: past) (·.toggles n)) (other : use = .load) :
      d.storage.get? p.key = some p.theme.name := by
    have untoggled : Move.toggles ⟨m, jobs, j⟩ n = false := by
      rw [Move.toggles_of_use? used, other]
      simp
    rw [List.any_cons, untoggled] at toggled
    exact h.stored (fun e made ↦ works e (.tail _ made)) toggled
  cases use with
  | load =>
    cases first : p.loaded with
    | true =>
      simp only [Use.change, Preference.load_of_loaded d m.stage.faults first]
      refine ⟨fun _ ↦ uses, ?_, fun works toggled ↦ before works toggled rfl⟩
      rw [uses, h.applied, h.loaded first]
    | false =>
      obtain ⟨preference, document⟩ := Preference.load_of_not_loaded d m.stage.faults first
      simp only [Use.change, preference, document]
      refine ⟨fun _ ↦ uses, by rw [uses]; rfl, fun works toggled ↦ ?_⟩
      have saved := before works toggled rfl
      rw [Preference.resolve_of_saved p d m.stage.faults ((now works).1 rfl) saved]
      exact saved
  | toggle =>
    simp only [Use.change, Preference.preference_toggle, Preference.document_toggle]
    refine ⟨fun _ ↦ uses, by rw [uses]; rfl, fun works _ ↦ ?_⟩
    rw [if_pos ((now works).2 rfl)]
    exact (Table.get?_insert _ _ _ _).trans (if_pos rfl)

end Agrees

def Stage.Alone (s : Stage) (n k : Nat) : Prop :=
  ∀ i store, s.stores[i]? = some store → store.document = k → i = n

theorem Use.key_change (use : Use) (p : Preference Hearer) (d : Document Receiver)
    (faults : Faults) :
    (use.change p d faults).preference.key = p.key := by
  cases use with
  | toggle => rw [Use.change, Preference.preference_toggle]
  | load =>
    cases first : p.loaded with
    | true => rw [Use.change, Preference.load_of_loaded d faults first]
    | false => rw [Use.change, (Preference.load_of_not_loaded d faults first).1]

/-- Preferences stay, each on its document and under its key. -/
theorem Turn.keepsStore {store : Mounted (Preference Hearer)} (turn : Turn may m jobs j m' jobs')
    (preferencesExist : PreferencesExist m.stage) (found : m.stage.stores[n]? = some store) :
    ∃ store', m'.stage.stores[n]? = some store' ∧ store'.document = store.document ∧
      store'.part.key = store.part.key := by
  obtain ⟨-, grows⟩ | ⟨i, use, store₁, d, -, found₁, -, stores, -⟩ := turn.stores preferencesExist
  · obtain ⟨store', found', same⟩ := grows.old found
    exact ⟨store', found', same.document, same.key⟩
  · rw [stores, Stage.getElem?_setStore found₁]
    split
    · subst i
      obtain rfl := Option.some.inj (found.symm.trans found₁)
      exact ⟨_, rfl, rfl, use.key_change _ _ _⟩
    · exact ⟨store, found, rfl, rfl⟩

theorem Turn.alone (turn : Turn may m jobs j m' jobs') (preferencesExist : PreferencesExist m.stage)
    (alone : m'.stage.Alone n k) :
    m.stage.Alone n k := by
  intro i store found here
  obtain ⟨store', found', document, -⟩ := turn.keepsStore preferencesExist found
  exact alone i store' found' (document.trans here)

theorem History.unused (run : History may past m jobs) (absent : m.stage.stores[n]? = none) :
    past.any (·.uses n) = false := by
  induction run with
  | opened page => rfl
  | @turn past m m' jobs jobs' j run turn ih =>
    have before : m.stage.stores[n]? = none := by
      cases found : m.stage.stores[n]? with
      | none => rfl
      | some store =>
        obtain ⟨store', found', -⟩ := turn.keepsStore run.preferencesExist found
        cases absent.symm.trans found'
    rw [List.any_cons, ih before, Bool.or_false]
    cases used : m.stage.use? j with
    | none => exact Move.uses_of_unused used
    | some u =>
      obtain ⟨i, use⟩ := u
      obtain ⟨store, -, found, -⟩ := run.preferencesExist.use used
      rw [Move.uses_of_use? used, decide_eq_false_iff_not]
      rintro rfl
      cases before.symm.trans found

theorem History.agrees (run : History (fun _ step ↦ step.restyles = false) past m jobs)
    (alone : m.stage.Alone n k) (document : m.stage.documents[k]? = some d) :
    (∀ store, m.stage.stores[n]? = some store → store.document = k → Agrees past n store.part d) ∧
      ((∀ store, m.stage.stores[n]? = some store → store.document ≠ k) → d.applied = none) := by
  induction run generalizing d with
  | opened page =>
    refine ⟨fun store found ↦ by simp [Machine.opened] at found, fun _ ↦ ?_⟩
    have first : ([page.build] : List (Document Receiver))[k]? = some d := document
    obtain rfl := List.mem_singleton.1 (List.mem_of_getElem? first)
    exact page.applied_build
  | @turn past m m' jobs jobs' j run turn ih =>
    have ih {d : Document Receiver} := @ih d (turn.alone run.preferencesExist alone)
    obtain ⟨unused, grows⟩ | ⟨i, use, store₁, d₁, used, found₁, document₁, stores, documents⟩ :=
      turn.stores run.preferencesExist
    · have dressed := turn.dressed unused fun step taken ↦ by
        subst taken
        exact turn.allows
      have plain : (∀ store, m.stage.stores[n]? = some store → store.document ≠ k) →
          d.applied = none := by
        intro away
        cases before : m.stage.documents[k]? with
        | none => exact dressed.new before document
        | some d₀ =>
          obtain ⟨d', document', alike⟩ := dressed.old before
          obtain rfl := Option.some.inj (document.symm.trans document')
          rw [alike.applied]
          exact (ih before).2 away
      refine ⟨fun store found here ↦ ?_, fun away ↦ plain fun store found here ↦ ?_⟩
      · cases before : m.stage.stores[n]? with
        | none =>
          have new := grows.new before found
          refine .of_untouched (plain fun store found ↦ ?_) new.2 ?_
          · cases before.symm.trans found
          · rw [List.any_cons, Move.uses_of_unused unused, run.unused before]
            rfl
        | some old =>
          obtain ⟨store', found', same⟩ := grows.old before
          obtain rfl := Option.some.inj (found.symm.trans found')
          have here' : old.document = k := same.document.symm.trans here
          obtain ⟨d₀, document₀⟩ : ∃ d₀, m.stage.documents[k]? = some d₀ :=
            ⟨_, List.getElem?_eq_getElem (here' ▸ run.preferencesExist.mounted before)⟩
          obtain ⟨d', document', alike⟩ := dressed.old document₀
          obtain rfl := Option.some.inj (document.symm.trans document')
          exact ((ih document₀).1 old before here').frame (Move.uses_of_unused unused)
            same.key same.theme
            same.loaded alike
      · obtain ⟨store', found', same⟩ := grows.old found
        exact away store' found' (same.document.trans here)
    · have looked (x : Nat) := Stage.getElem?_setStore (s := m.stage) (k := i)
        (p := (use.change store₁.part d₁ m.stage.faults).preference) found₁ x
      rw [documents, Stage.getElem?_setDocument document₁] at document
      rw [stores]
      by_cases here : store₁.document = k
      · obtain rfl := turn.alone run.preferencesExist alone i store₁ found₁ here
        rw [if_pos here.symm] at document
        cases document
        refine ⟨fun store found _ ↦ ?_, fun away ↦ ?_⟩
        · rw [looked, if_pos rfl] at found
          cases found
          exact ((ih (here ▸ document₁)).1 store₁ found₁ here).use used found₁ document₁
        · exact (away _ ((looked i).trans (if_pos rfl)) here).elim
      · rw [if_neg (Ne.symm here)] at document
        refine ⟨fun store found here' ↦ ?_, fun away ↦ (ih document).2 fun store found here' ↦ ?_⟩
        · have other : n ≠ i := by
            rintro rfl
            rw [looked, if_pos rfl] at found
            cases found
            exact here here'
          rw [looked, if_neg other] at found
          have unused : Move.uses ⟨m, jobs, j⟩ n = false := by
            rw [Move.uses_of_use? used, decide_eq_false (Ne.symm other)]
          exact ((ih document).1 store found here').frame unused rfl rfl rfl (dressed_refl d)
        · have other : n ≠ i := by
            rintro rfl
            obtain rfl := Option.some.inj (found.symm.trans found₁)
            exact here here'
          exact away store ((looked n).trans ((if_neg other).trans found)) here'

theorem Use.saved_load (p : Preference Hearer) (d : Document Receiver) (faults : Faults) :
    (Use.load.change p d faults).document.storage = d.storage := by
  cases first : p.loaded with
  | true => rw [Use.change, Preference.load_of_loaded d faults first]
  | false =>
    rw [Use.change, (Preference.load_of_not_loaded d faults first).2]
    rfl

theorem Use.get?_change (use : Use) (p : Preference Hearer) (d : Document Receiver)
    (faults : Faults) {key : String} (other : key ≠ p.key) :
    (use.change p d faults).document.storage.get? key = d.storage.get? key := by
  cases use with
  | load => rw [saved_load]
  | toggle =>
    rw [Use.change, Preference.document_toggle]
    split
    · exact (Table.get?_insert _ _ _ _).trans (if_neg other)
    · rfl

/-- The only preference on a document changes what is stored only when it is toggled, and only under
its key. -/
theorem Turn.saved {d' : Document Receiver} (turn : Turn may m jobs j m' jobs')
    (preferencesExist : PreferencesExist m.stage)
    (plain : ∀ step, j = .act step → step.restyles = false) (alone : m.stage.Alone n k)
    (document : m.stage.documents[k]? = some d) (document' : m'.stage.documents[k]? = some d') :
    (Move.toggles ⟨m, jobs, j⟩ n = false → d'.storage.saved = d.storage.saved) ∧
      ∀ key, (∀ store, m.stage.stores[n]? = some store → key ≠ store.part.key) →
        d'.storage.get? key = d.storage.get? key := by
  obtain ⟨unused, -⟩ | ⟨i, use, store, d₁, used, found, document₁, -, documents⟩ :=
    turn.stores preferencesExist
  · obtain ⟨d₁, document₁, alike⟩ := (turn.dressed unused plain).old document
    obtain rfl := Option.some.inj (document'.symm.trans document₁)
    exact ⟨fun _ ↦ alike.saved, fun key _ ↦ by rw [Storage.get?, alike.saved, Storage.get?]⟩
  · rw [documents, Stage.getElem?_setDocument document₁] at document'
    split at document'
    · rename_i here
      subst here
      obtain rfl := alone i store found rfl
      obtain rfl := Option.some.inj (document.symm.trans document₁)
      cases document'
      refine ⟨fun untoggled ↦ ?_, fun key other ↦ use.get?_change _ _ _ (other store found)⟩
      rw [Move.toggles_of_use? used] at untoggled
      cases use with
      | load => rw [Use.saved_load]
      | toggle => simp at untoggled
    · obtain rfl := Option.some.inj (document.symm.trans document')
      exact ⟨fun _ ↦ rfl, fun _ _ ↦ rfl⟩

theorem History.saved {e : Move} {d₀ : Document Receiver}
    (run : History (fun _ step ↦ step.restyles = false) past m jobs) (alone : m.stage.Alone n k)
    (made : e ∈ past) (document₀ : e.machine.stage.documents[k]? = some d₀)
    (document : m.stage.documents[k]? = some d) :
    (past.any (·.toggles n) = false → d.storage.saved = d₀.storage.saved) ∧
      ∀ key, (∀ store, m.stage.stores[n]? = some store → key ≠ store.part.key) →
        d.storage.get? key = d₀.storage.get? key := by
  induction run generalizing d with
  | opened page => cases made
  | @turn past m m' jobs jobs' j run turn ih =>
    have alone := turn.alone run.preferencesExist alone
    have plain (step : Step) (taken : j = .act step) : step.restyles = false := by
      subst taken
      exact turn.allows
    have others {key : String}
        (other : ∀ store, m'.stage.stores[n]? = some store → key ≠ store.part.key)
        (store : Mounted (Preference Hearer)) (found : m.stage.stores[n]? = some store) : key ≠
          store.part.key := by
      obtain ⟨store', found', -, same⟩ := turn.keepsStore run.preferencesExist found
      exact same ▸ other store' found'
    obtain rfl | earlier := List.mem_cons.1 made
    · obtain ⟨kept, rest⟩ := turn.saved run.preferencesExist plain alone document₀ document
      refine ⟨fun untoggled ↦ kept ?_, fun key other ↦ rest key (others other)⟩
      exact (Bool.or_eq_false_iff.1 untoggled).1
    · obtain ⟨d₁, document₁, -⟩ := (run.pages earlier).old document₀
      obtain ⟨kept, rest⟩ := turn.saved run.preferencesExist plain alone document₁ document
      obtain ⟨kept', rest'⟩ := ih alone earlier document₁
      refine ⟨fun untoggled ↦ ?_, fun key other ↦ ?_⟩
      · obtain ⟨now, before⟩ := Bool.or_eq_false_iff.1 untoggled
        exact (kept now).trans (kept' before)
      · exact (rest key (others other)).trans (rest' key (others other))

/-- At every state of a run, and for a preference that is alone on its document and in writing
there: from its first use on the document wears its theme, whatever storage refuses; where storage
worked whenever the preference was used, its theme is what is stored from the first change on;
before that, what is stored stays as it is, and under other keys it always does. -/
theorem applied_eq_theme (run : History (fun _ step ↦ step.restyles = false) past m jobs)
    (found : m.stage.stores[n]? = some ⟨k, p⟩) (alone : m.stage.Alone n k) :
    ∃ d, m.stage.documents[k]? = some d ∧
      d.applied = (if past.any (·.uses n) then some p.theme else none) ∧
      ((∀ e ∈ past, e.storageHelps n) → past.any (·.toggles n) →
        d.storage.get? p.key = some p.theme.name) ∧
      ∀ e ∈ past, ∀ d₀, e.machine.stage.documents[k]? = some d₀ →
        (past.any (·.toggles n) = false → d.storage.saved = d₀.storage.saved) ∧
        ∀ key, key ≠ p.key → d.storage.get? key = d₀.storage.get? key := by
  obtain ⟨d, document⟩ : ∃ d, m.stage.documents[k]? = some d :=
    ⟨_, List.getElem?_eq_getElem (run.preferencesExist.mounted found)⟩
  have agrees := (run.agrees alone document).1 _ found rfl
  refine ⟨d, document, agrees.applied, agrees.stored, fun e made d₀ document₀ ↦ ?_⟩
  obtain ⟨kept, rest⟩ := run.saved alone made document₀ document
  refine ⟨kept, fun key other ↦ rest key fun store found' ↦ ?_⟩
  obtain rfl := Option.some.inj (found.symm.trans found')
  exact other

end Agreement

def otherwiseStored : Blueprint where
  viewport := 100
  furnishings := [.saved "theme" "blue", .saved "lang" "en"]

def contrary : List Step :=
  [.store "p" (.create "theme"), .listen (.store "p") "l" [.store "p" .load, .store "p" .toggle] 1,
    .store "p" .toggle]

theorem applied_eq_theme_contrary :
    ∃ m past p d, Machine.journal? 50 contrary (.opened otherwiseStored) [] = some (m, past) ∧
      m.stage.stores[0]? = some ⟨0, p⟩ ∧ m.stage.documents[0]? = some d ∧ p.theme = .light ∧
      d.applied = some p.theme ∧ d.storage.get? p.key = some p.theme.name ∧
      d.storage.get? "lang" = some "en" := by
  have checked : ∃ r ∈ Machine.journal? 50 contrary (.opened otherwiseStored) [],
      (∀ e ∈ r.2, Allows (fun _ step ↦ step.restyles = false) e.machine.stage e.job) ∧
      r.1.stage.stores.length = 1 ∧ r.2.any (·.uses 0) ∧ r.2.any (·.toggles 0) ∧
      (∀ e ∈ r.2, e.storageHelps 0) ∧
      (∃ e ∈ r.2, ∃ d ∈ e.machine.stage.documents[0]?, d.storage.get? "lang" = some "en") ∧
      ∃ store ∈ r.1.stage.stores[0]?, store.document = 0 ∧ store.part.theme = .light ∧
        "lang" ≠ store.part.key := by decide +kernel
  obtain ⟨⟨m, past⟩, kept, moves, one, used, toggled, works, ⟨e, made, d₀, document₀, english⟩,
      ⟨k, p⟩, found, rfl,
    light, other⟩ := checked
  have run := (History.opened otherwiseStored).journal kept moves
  have alone : m.stage.Alone 0 0 := by
    intro i store present _
    have bound := (List.getElem?_eq_some_iff.1 present).1
    have one : m.stage.stores.length = 1 := one
    omega
  obtain ⟨d, document, applied, stored, since⟩ := applied_eq_theme run found alone
  rw [if_pos used] at applied
  exact ⟨m, past, p, d, kept, found, document, light, applied, stored works toggled,
    ((since e made d₀ document₀).2 "lang" other).trans english⟩

end Wayfinder.Session
