import Wayfinder.Proofs.Themes

namespace Wayfinder.Session

/-- The theme that the preference has if it is loaded for the first time now. -/
def Stage.resolve (s : Stage) (n : Nat) : Theme :=
  match s.stores[n]? with
  | none => .light
  | some store =>
    match s.documents[store.document]? with
    | none => .light
    | some d => store.part.resolve d s.faults

def settled (n : Nat) : List Move → Theme
  | [] => .light
  | e :: past =>
    if e.toggles n then (settled n past).toggled
    else if e.loads n && !past.any (·.loads n) then e.machine.stage.resolve n
    else settled n past

def Step.writes (key : String) : Step → Bool
  | .page (.write other _) => other = key
  | _ => false

section Settled

variable {n : Nat} {e t : Move} {past later earlier : List Move}

theorem settled_of_toggles (toggles : e.toggles n) :
    settled n (e :: past) = (settled n past).toggled := by
  rw [settled, if_pos toggles]

theorem settled_of_loads (untoggled : e.toggles n = false) (loads : e.loads n)
    (first : past.any (·.loads n) = false) : settled n (e :: past) = e.machine.stage.resolve n := by
  rw [settled, untoggled, loads, first]
  rfl

theorem settled_of_other (untoggled : e.toggles n = false)
    (other : e.loads n = false ∨ past.any (·.loads n)) :
    settled n (e :: past) = settled n past := by
  rw [settled, untoggled]
  obtain other | loaded := other
  · rw [other]
    rfl
  · rw [loaded, Bool.not_true, Bool.and_false]
    rfl

/-- A choice stands unless the preference is loaded for the first time after it. -/
theorem settled_append (toggles : t.toggles n) (latest : ∀ e ∈ later, e.toggles n = false) :
    settled n (later ++ t :: earlier) =
      if earlier.any (·.loads n) then (settled n earlier).toggled
      else ((later.filter (·.loads n)).getLast?.map fun e ↦ e.machine.stage.resolve n).getD
        (settled n earlier).toggled := by
  have unloading : t.loads n = false := by
    have toggles : t.machine.stage.use? t.job = some (n, .toggle) := of_decide_eq_true toggles
    simp [Move.loads, toggles]
  induction later with
  | nil =>
    rw [List.nil_append, settled_of_toggles toggles]
    simp
  | cons e later ih =>
    obtain ⟨untoggled, latest⟩ := List.forall_mem_cons.1 latest
    have before : (later ++ t :: earlier).any (·.loads n) =
        (later.any (·.loads n) || earlier.any (·.loads n)) := by simp [unloading]
    rw [List.cons_append]
    by_cases first : e.loads n ∧ (later ++ t :: earlier).any (·.loads n) = false
    · obtain ⟨loads, first⟩ := first
      rw [settled_of_loads untoggled loads first]
      obtain ⟨none, unloaded⟩ := Bool.or_eq_false_iff.1 (before.symm.trans first)
      have alone : (e :: later).filter (·.loads n) = [e] := by
        rw [List.filter_cons_of_pos (by exact loads),
          List.filter_eq_nil_iff.2 (by simpa using none)]
      rw [unloaded, alone]
      rfl
    · have other : e.loads n = false ∨ (later ++ t :: earlier).any (·.loads n) := by
        cases loads : e.loads n with
        | false => exact .inl rfl
        | true =>
          refine .inr ?_
          rw [← Bool.not_eq_false]
          exact fun none ↦ first ⟨loads, none⟩
      rw [settled_of_other untoggled other, ih latest]
      cases loaded : earlier.any (·.loads n) with
      | true => rfl
      | false =>
        rw [before, loaded, Bool.or_false] at other
        -- the first load among the moves is not `e`, unless there is none
        have same : ((e :: later).filter (·.loads n)).getLast? =
            (later.filter (·.loads n)).getLast? := by
          obtain other | some := other
          · rw [List.filter_cons_of_neg (by simp [other])]
          · obtain ⟨e', member, loads'⟩ := List.any_eq_true.1 some
            have nonempty : later.filter (·.loads n) ≠ [] :=
              List.ne_nil_of_mem (List.mem_filter.2 ⟨member, loads'⟩)
            by_cases loads : e.loads n
            · rw [List.filter_cons_of_pos (by exact loads), List.getLast?_cons_of_ne_nil nonempty]
            · rw [List.filter_cons_of_neg (by exact loads)]
        rw [same]

end Settled

section Runs

variable {may : Stage → Step → Prop} {past later earlier : List Move} {m m' : Machine}
  {jobs jobs' : List Job} {j : Job} {t : Move} {n k : Nat} {store : Mounted (Preference Hearer)}
    {d d' : Document Receiver}

theorem Stage.resolve_of_found {s : Stage} (found : s.stores[n]? = some store)
    (document : s.documents[store.document]? = some d) :
    s.resolve n = store.part.resolve d s.faults := by
  simp only [resolve, found, document]

theorem settled_of_unused (unused : past.any (·.uses n) = false) : settled n past = .light := by
  induction past with
  | nil => rfl
  | cons e past ih =>
    obtain ⟨now, before⟩ := Bool.or_eq_false_iff.1 unused
    obtain ⟨unloading, untoggled⟩ := Bool.or_eq_false_iff.1 now
    rw [settled_of_other untoggled (.inl unloading), ih before]

theorem History.theme_eq (run : History may past m jobs) (found : m.stage.stores[n]? = some store) :
    store.part.loaded = past.any (·.loads n) ∧ store.part.theme = settled n past := by
  induction run generalizing store with
  | opened page => simp [Machine.opened] at found
  | @turn past m m' jobs jobs' j run turn ih =>
    have still {old : Mounted (Preference Hearer)} (before : m.stage.stores[n]? = some old)
        (theme : store.part.theme = old.part.theme) (loaded : store.part.loaded = old.part.loaded)
        (unused : Move.uses ⟨m, jobs, j⟩ n = false) :
        store.part.loaded = List.any (⟨m, jobs, j⟩ :: past) (·.loads n) ∧
          store.part.theme = settled n (⟨m, jobs, j⟩ :: past) := by
      obtain ⟨unloading, untoggled⟩ := Bool.or_eq_false_iff.1 unused
      rw [List.any_cons, unloading, Bool.false_or, settled_of_other untoggled (.inl unloading),
        theme, loaded]
      exact ih before
    obtain ⟨unused, grows⟩ | ⟨i, use, store₁, d, used, found₁, document, stores, -⟩ :=
      turn.stores run.preferencesExist
    · have unused : Move.uses ⟨m, jobs, j⟩ n = false := Move.uses_of_unused unused
      cases before : m.stage.stores[n]? with
      | some old =>
        obtain ⟨store', found', same⟩ := grows.old before
        obtain rfl := Option.some.inj (found.symm.trans found')
        exact still before same.theme same.loaded unused
      | none =>
        obtain ⟨light, unloaded⟩ := grows.new before found
        have never : List.any (⟨m, jobs, j⟩ :: past) (·.uses n) = false := by
          rw [List.any_cons, unused, run.unused before]
          rfl
        have none : List.any (⟨m, jobs, j⟩ :: past) (·.loads n) = false := by
          rw [List.any_eq_false] at never ⊢
          intro e made loads
          refine never e made ?_
          rw [Move.uses, loads, Bool.true_or]
        rw [settled_of_unused never, none]
        exact ⟨unloaded, light⟩
    · rw [stores, Stage.getElem?_setStore found₁] at found
      split at found
      · rename_i same
        subst same
        cases found
        obtain ⟨loaded, theme⟩ := ih found₁
        cases use with
        | toggle =>
          have toggles : Move.toggles ⟨m, jobs, j⟩ n := decide_eq_true used
          have unloading : Move.loads ⟨m, jobs, j⟩ n = false := by simp [Move.loads, used]
          rw [List.any_cons, unloading, Bool.false_or, settled_of_toggles toggles, Use.change,
            Preference.preference_toggle, theme]
          exact ⟨loaded, rfl⟩
        | load =>
          have loads : Move.loads ⟨m, jobs, j⟩ n := decide_eq_true used
          have untoggled : Move.toggles ⟨m, jobs, j⟩ n = false := by simp [Move.toggles, used]
          rw [List.any_cons, loads, Bool.true_or]
          cases first : store₁.part.loaded with
          | true =>
            rw [settled_of_other untoggled (.inr (loaded.symm.trans first)), Use.change,
              Preference.load_of_loaded d m.stage.faults first]
            exact ⟨first, theme⟩
          | false =>
            rw [settled_of_loads untoggled loads (loaded.symm.trans first), Use.change,
              (Preference.load_of_not_loaded d m.stage.faults first).1,
                Stage.resolve_of_found found₁ document]
            exact ⟨rfl, rfl⟩
      · rename_i other
        refine still found rfl rfl ?_
        rw [Move.uses_of_use? used, decide_eq_false (Ne.symm other)]

/-- No other preference on document `k` is stored under the key. -/
def Stage.SoleWriter (s : Stage) (n k : Nat) (key : String) : Prop :=
  ∀ i store, s.stores[i]? = some store → store.document = k → store.part.key = key → i = n

theorem History.keepsStore {e : Move} (run : History may past m jobs) (made : e ∈ past)
    (found : e.machine.stage.stores[n]? = some store) :
    ∃ store', m.stage.stores[n]? = some store' ∧ store'.document = store.document ∧
      store'.part.key = store.part.key := by
  induction run with
  | opened page => cases made
  | turn run turn ih =>
    obtain rfl | earlier := List.mem_cons.1 made
    · exact turn.keepsStore run.preferencesExist found
    · obtain ⟨store₁, found₁, document₁, key₁⟩ := ih earlier
      obtain ⟨store', found', document', key'⟩ := turn.keepsStore run.preferencesExist found₁
      exact ⟨store', found', document'.trans document₁, key'.trans key₁⟩

theorem History.soleWriter {e : Move} {key : String} (run : History may past m jobs)
    (made : e ∈ past) (sole : m.stage.SoleWriter n k key) : e.machine.stage.SoleWriter n k key := by
  intro i store found here same
  obtain ⟨store', found', document, key⟩ := run.keepsStore made found
  exact sole i store' found' (document.trans here) (key.trans same)

/-- Writing under another key and styling the page leave what is stored under a key. -/
theorem Stage.get?_restyle {s : Stage} {probe : Nat} {step : Step} {key : String}
    (restyles : step.restyles) (unwritten : step.writes key = false)
    (document : s.documents[k]? = some d)
    (document' : (s.perform probe step).stage.documents[k]? = some d') :
    d'.storage.get? key = d.storage.get? key := by
  have same (unchanged : s.documents[k]? = some d') : d'.storage.get? key = d.storage.get? key := by
    rw [Option.some.inj (document.symm.trans unchanged)]
  have set {d₁ d₂ : Document Receiver} (current : s.documents[s.current]? = some d₁)
      (kept : d₂.storage.get? key = d₁.storage.get? key)
      (after : (s.setDocument s.current d₂).documents[k]? = some d') :
      d'.storage.get? key = d.storage.get? key := by
    rw [getElem?_setDocument current] at after
    split at after
    · subst k
      obtain rfl := Option.some.inj (document.symm.trans current)
      cases after
      exact kept
    · exact same after
  unfold Step.restyles at restyles
  split at restyles
  · rename_i other value
    simp only [perform, performPage, onDocument] at document'
    split at document'
    · rename_i d₁ current
      simp only [writePage] at document'
      split at document'
      · rename_i written ok
        refine set current ?_ document'
        have differs : key ≠ other := fun equal ↦ absurd equal.symm (of_decide_eq_false unwritten)
        unfold Document.writeSaved Storage.write at ok
        split at ok
        · cases ok
        · split at ok
          · cases ok
          · cases ok
            exact (Table.get?_insert _ _ _ _).trans (if_neg differs)
      · exact same document'
    · exact same document'
  · rename_i theme
    simp only [perform, performPage, onDocument] at document'
    split at document'
    · rename_i d₁ current
      have kept : (d₁.applyTheme theme).storage.get? key = d₁.storage.get? key := rfl
      exact set current kept document'
    · exact same document'
  · cases restyles

theorem Turn.get?_key {key : String} (turn : Turn may m jobs j m' jobs')
    (preferencesExist : PreferencesExist m.stage)
    (unwritten : ∀ step, j = .act step → step.writes key = false)
    (sole : m.stage.SoleWriter n k key) (untoggled : Move.toggles ⟨m, jobs, j⟩ n = false)
    (document : m.stage.documents[k]? = some d) (document' : m'.stage.documents[k]? = some d') :
    d'.storage.get? key = d.storage.get? key := by
  obtain ⟨unused, -⟩ | ⟨i, use, store, d₁, used, found, document₁, -, documents⟩ :=
    turn.stores preferencesExist
  · by_cases restyles : ∃ step, j = .act step ∧ step.restyles
    · obtain ⟨step, rfl, restyles⟩ := restyles
      rw [turn.effect_act.1] at document'
      exact Stage.get?_restyle restyles (unwritten step rfl) document document'
    · have plain (step : Step) (taken : j = .act step) : step.restyles = false := by
        rw [← Bool.not_eq_true]
        exact fun h ↦ restyles ⟨step, taken, h⟩
      obtain ⟨d₁, document₁, alike⟩ := (turn.dressed unused plain).old document
      obtain rfl := Option.some.inj (document'.symm.trans document₁)
      rw [Storage.get?, alike.saved, Storage.get?]
  · rw [documents, Stage.getElem?_setDocument document₁] at document'
    split at document'
    · rename_i here
      subst here
      obtain rfl := Option.some.inj (document.symm.trans document₁)
      cases document'
      cases use with
      | load => rw [Use.saved_load]
      | toggle =>
        refine Use.get?_change _ _ _ _ fun same ↦ ?_
        obtain rfl := sole i store found rfl same.symm
        simp [Move.toggles, used] at untoggled
    · rw [Option.some.inj (document.symm.trans document')]

/-- Where a choice could be stored, it is still stored as long as no other is made. -/
theorem History.saved_choice {key : String}
    (run : History (fun _ step ↦ step.writes key = false) past m jobs)
    (split : past = later ++ t :: earlier) (toggles : t.toggles n)
    (latest : ∀ e ∈ later, e.toggles n = false) (works : t.machine.stage.canSave n)
    (found : m.stage.stores[n]? = some store) (same : store.part.key = key)
    (sole : m.stage.SoleWriter n store.document key)
    (document : m.stage.documents[store.document]? = some d) :
    d.storage.get? key = some (t.machine.stage.theme n).toggled.name := by
  induction run generalizing later store d with
  | opened page => simp at split
  | @turn past m m' jobs jobs' j run turn ih =>
    cases later with
    | nil =>
      cases split
      have used : m.stage.use? j = some (n, .toggle) := of_decide_eq_true toggles
      obtain ⟨unused, -⟩ | ⟨i, use, store₁, d₁, used', found₁, document₁, stores, documents⟩ :=
        turn.stores run.preferencesExist
      · cases used.symm.trans unused
      · cases used.symm.trans used'
        rw [stores, Stage.getElem?_setStore found₁, if_pos rfl] at found
        cases found
        rw [documents, Stage.getElem?_setDocument document₁, if_pos rfl] at document
        cases document
        have writes : d₁.canWrite m.stage.faults := by
          simpa [Stage.canSave, found₁, document₁] using works
        rw [Use.key_change] at same
        rw [Stage.theme_of_found found₁, Use.change, Preference.document_toggle,
          if_pos writes, ← same]
        exact (Table.get?_insert _ _ _ _).trans (if_pos rfl)
    | cons e later =>
      cases split
      obtain ⟨untoggled, latest⟩ := List.forall_mem_cons.1 latest
      have unwritten (step : Step) (taken : j = .act step) : step.writes key = false := by
        subst taken
        exact turn.allows
      -- the preference was there when it was toggled, so it was there before this turn
      obtain ⟨store₁, found₁⟩ : ∃ store₁, m.stage.stores[n]? = some store₁ := by
        have used : t.machine.stage.use? t.job = some (n, .toggle) := of_decide_eq_true toggles
        obtain ⟨store₀, -, found₀, -⟩ := (run.before rfl).preferencesExist.use used
        obtain ⟨store₁, found₁, -⟩ := run.keepsStore (by simp) found₀
        exact ⟨store₁, found₁⟩
      obtain ⟨store', found', document', key'⟩ := turn.keepsStore run.preferencesExist found₁
      obtain rfl := Option.some.inj (found.symm.trans found')
      have soleBefore := (run.turn turn).soleWriter (.head _) sole
      obtain ⟨d₁, document₁⟩ : ∃ d₁, m.stage.documents[store₁.document]? = some d₁ :=
        ⟨_, List.getElem?_eq_getElem (run.preferencesExist.mounted found₁)⟩
      rw [document'] at document soleBefore
      rw [turn.get?_key run.preferencesExist unwritten soleBefore untoggled document₁ document]
      exact ih rfl latest found₁ (key'.symm.trans same) soleBefore document₁

/-- The stage at which the preference is loaded for the first time after these moves: now, unless
one of them does. -/
def firstLoad (n : Nat) (moves : List Move) (now : Stage) : Stage :=
  ((moves.filter (·.loads n)).getLast?.map (·.machine.stage)).getD now

theorem firstLoad_cases (n : Nat) (moves : List Move) (now : Stage) :
    moves.any (·.loads n) = false ∧ firstLoad n moves now = now ∨
      ∃ e ∈ moves, e.loads n ∧ (moves.filter (·.loads n)).getLast? = some e ∧
        firstLoad n moves now = e.machine.stage := by
  unfold firstLoad
  cases last : (moves.filter (·.loads n)).getLast? with
  | none =>
    have none := List.filter_eq_nil_iff.1 (List.getLast?_eq_none_iff.1 last)
    exact .inl ⟨by simpa using none, rfl⟩
  | some e =>
    obtain ⟨member, loads⟩ := List.mem_filter.1 (List.mem_of_getLast? last)
    exact .inr ⟨e, member, loads, rfl, rfl⟩

/-- What was stored of a choice is what the first load after it finds. -/
theorem History.resolve_choice {key : String}
    (run : History (fun _ step ↦ step.writes key = false) past m jobs)
    (split : past = later ++ t :: earlier) (toggles : t.toggles n)
    (latest : ∀ e ∈ later, e.toggles n = false) (saves : t.machine.stage.canSave n)
    (found : m.stage.stores[n]? = some store) (same : store.part.key = key)
    (sole : m.stage.SoleWriter n store.document key) (recalls : m.stage.canRecall n) :
    m.stage.resolve n = (t.machine.stage.theme n).toggled := by
  obtain ⟨d, document⟩ : ∃ d, m.stage.documents[store.document]? = some d :=
    ⟨_, List.getElem?_eq_getElem (run.preferencesExist.mounted found)⟩
  have saved := run.saved_choice split toggles latest saves found same sole document
  have reads : d.canRead m.stage.faults := by simpa [Stage.canRecall, found, document] using recalls
  rw [Stage.resolve_of_found found document]
  exact Preference.resolve_of_saved _ _ _ reads (same ▸ saved)

theorem Stage.theme_loadStore {s : Stage} (found : s.stores[n]? = some store)
    (document : s.documents[store.document]? = some d) :
    (s.loadStore n).stage.theme n =
      if store.part.loaded then store.part.theme else s.resolve n := by
  have after : (s.loadStore n).stage.stores[n]? =
      some { store with part := (store.part.load d s.faults).preference } := by
    rw [loadStore, changeStore_of_found found document]
    exact (getElem?_setStore found n).trans (if_pos rfl)
  rw [theme_of_found after, resolve_of_found found document]
  cases first : store.part.loaded with
  | true => rw [if_pos rfl, Preference.load_of_loaded d s.faults first]
  | false => rw [(Preference.load_of_not_loaded d s.faults first).1, if_neg Bool.false_ne_true]

/-- What a load gives after a choice. -/
theorem History.theme_load (run : History may past m jobs) (found : m.stage.stores[n]? = some store)
    (split : past = later ++ t :: earlier) (toggles : t.toggles n)
    (latest : ∀ e ∈ later, e.toggles n = false) :
    (m.stage.loadStore n).stage.theme n =
      if earlier.any (·.loads n) then (t.machine.stage.theme n).toggled
      else (firstLoad n later m.stage).resolve n := by
  obtain ⟨d, document⟩ : ∃ d, m.stage.documents[store.document]? = some d :=
    ⟨_, List.getElem?_eq_getElem (run.preferencesExist.mounted found)⟩
  obtain ⟨loaded, theme⟩ := run.theme_eq found
  have used : t.machine.stage.use? t.job = some (n, .toggle) := of_decide_eq_true toggles
  have chosen : settled n earlier = t.machine.stage.theme n := by
    have before := run.before split
    obtain ⟨store, -, found, -⟩ := before.preferencesExist.use used
    rw [Stage.theme_of_found found, (before.theme_eq found).2]
  have any : past.any (·.loads n) = (later.any (·.loads n) || earlier.any (·.loads n)) := by
    have unloading : t.loads n = false := by simp [Move.loads, used]
    simp [split, unloading]
  rw [Stage.theme_loadStore found document, loaded, theme, any, split,
    settled_append toggles latest, chosen]
  obtain ⟨none, first⟩ | ⟨e, member, loads, last, first⟩ := firstLoad_cases n later m.stage
  · rw [none, first, Bool.false_or]
    by_cases before : earlier.any (·.loads n)
    · rw [if_pos before, if_pos before, if_pos before]
    · rw [if_neg before, if_neg before]
  · have since : later.any (·.loads n) := List.any_eq_true.2 ⟨e, member, loads⟩
    rw [since, Bool.true_or, if_pos rfl, last, first]
    rfl

theorem History.resolve_firstLoad
    (run : History (fun _ step ↦ step.writes store.part.key = false) past m jobs)
    (found : m.stage.stores[n]? = some store)
    (sole : m.stage.SoleWriter n store.document store.part.key)
    (split : past = later ++ t :: earlier) (toggles : t.toggles n)
    (latest : ∀ e ∈ later, e.toggles n = false) (saves : t.machine.stage.canSave n)
    (recalls : (firstLoad n later m.stage).canRecall n) :
    (firstLoad n later m.stage).resolve n = (t.machine.stage.theme n).toggled := by
  obtain ⟨-, first⟩ | ⟨e, member, loads, -, first⟩ := firstLoad_cases n later m.stage
  · rw [first] at recalls ⊢
    exact run.resolve_choice split toggles latest saves found rfl sole recalls
  · -- the first load is a move of the run, and the choice was made before it
    rw [first] at recalls ⊢
    obtain ⟨after, since, rfl⟩ := List.append_of_mem member
    have split' : past = after ++ e :: (since ++ t :: earlier) := by simp [split]
    have made : e ∈ past := by simp [split]
    have before := run.before split'
    obtain ⟨store₁, -, found₁, -⟩ := before.preferencesExist.use (of_decide_eq_true loads)
    obtain ⟨store', found', document, key⟩ := run.keepsStore made found₁
    obtain rfl := Option.some.inj (found.symm.trans found')
    have soleBefore := run.soleWriter made sole
    rw [document] at soleBefore
    exact before.resolve_choice rfl toggles (fun e' between ↦ latest e' (by simp [between])) saves
      found₁ key.symm
      soleBefore recalls

/-- To load a preference after the reader has chosen a theme gives the chosen theme if the
preference had been loaded before the choice. Else it gives what the first load since the choice
found, be it this one or an earlier one: the chosen theme where that could be stored and found, and
otherwise perhaps another one. A load that is not the first leaves the theme as it is. -/
theorem load_after_toggle {p : Preference Hearer} {name : String}
    (run : History (fun _ step ↦ step.writes p.key = false) past m jobs)
    (named : m.stage.names.stores.get? name = some n) (found : m.stage.stores[n]? = some ⟨k, p⟩)
    (sole : m.stage.SoleWriter n k p.key) (split : past = later ++ t :: earlier)
    (toggles : t.toggles n) (latest : ∀ e ∈ later, e.toggles n = false) :
    ∃ result, (m.reply (.store name .load)).outcome = .theme (some result) ∧
      (m.take (.store name .load)).stage.theme n = result ∧
      result = (if earlier.any (·.loads n) then (t.machine.stage.theme n).toggled
        else (firstLoad n later m.stage).resolve n) ∧
      (past.any (·.loads n) → result = p.theme) ∧
      (t.machine.stage.canSave n → (firstLoad n later m.stage).canRecall n →
        result = (t.machine.stage.theme n).toggled) := by
  have outcome :
      (m.reply (.store name .load)).outcome =
        .theme (some ((m.stage.loadStore n).stage.theme n)) := by
    simp only [Machine.reply, Stage.perform, Stage.performStore, Stage.onStore, named, found]
    rfl
  have stage : (m.take (.store name .load)).stage = (m.stage.loadStore n).stage := by
    simp only [Machine.take, Machine.apply, Machine.reply, Stage.perform, Stage.performStore,
      Stage.onStore, named, found]
    rfl
  have result := run.theme_load found split toggles latest
  refine ⟨_, outcome, by rw [stage], result, fun again ↦ ?_, fun saves recalls ↦ ?_⟩
  · have document := List.getElem?_eq_getElem (run.preferencesExist.mounted found)
    rw [Stage.theme_loadStore found document, (run.theme_eq found).1, if_pos again]
  · rw [result]
    split_ifs
    · rfl
    · exact run.resolve_firstLoad found sole split toggles latest saves recalls

end Runs

def unstoredChoice : List Step :=
  [.store "p" (.create "theme"), .page (.disableStorage true), .store "p" .toggle]

/-- The choice is lost: dark is chosen, and the first load gives light. -/
theorem load_after_toggle_unstoredChoice :
    ∃ m t earlier, Machine.journal? 20 unstoredChoice (.opened {}) [] = some (m, t :: earlier) ∧
      t.toggles 0 ∧ (t.machine.stage.theme 0).toggled = .dark ∧ m.stage.theme 0 = .dark ∧
      (m.reply (.store "p" .load)).outcome = .theme (some .light) := by
  have checked : ∃ r ∈ Machine.journal? 20 unstoredChoice (.opened {}) [],
      (∀ e ∈ r.2, Allows (fun _ step ↦ step.writes "theme" = false) e.machine.stage e.job) ∧
      (∃ t ∈ r.2.head?, t.toggles 0 ∧ t.machine.stage.theme 0 = .light) ∧
      r.2.tail.any (·.loads 0) = false ∧
      r.1.stage.names.stores.get? "p" = some 0 ∧ r.1.stage.stores.length = 1 ∧
      r.1.stage.theme 0 = .dark ∧
      r.1.stage.resolve 0 = .light ∧
      ∃ store ∈ r.1.stage.stores[0]?, store.part.key = "theme" := by decide +kernel
  obtain ⟨⟨m, past⟩, kept, moves, ⟨t, latest, toggles, light⟩, first, named, one, dark, fallback,
      store, found, key⟩ :=
    checked
  obtain ⟨earlier, rfl⟩ : ∃ earlier, past = t :: earlier := ⟨_, List.eq_cons_of_mem_head? latest⟩
  have run := (History.opened {}).journal kept moves
  have sole : m.stage.SoleWriter 0 store.document store.part.key := by
    intro i store' present _ _
    have bound := (List.getElem?_eq_some_iff.1 present).1
    have one : m.stage.stores.length = 1 := one
    omega
  have unloaded : earlier.any (·.loads 0) = false := first
  have split : t :: earlier = [] ++ t :: earlier := rfl
  obtain ⟨result, outcome, -, value, -⟩ :=
    load_after_toggle (key ▸ run) named found sole split toggles (by simp)
  rw [unloaded, if_neg Bool.false_ne_true] at value
  refine ⟨m, t, earlier, kept, toggles, by rw [light]; rfl, dark, ?_⟩
  rw [outcome, value]
  exact congrArg (Outcome.theme ∘ some) fallback

end Wayfinder.Session
