import Wayfinder.Proofs.Preferences

namespace Wayfinder.Session

/-- What is done with a preference once it is loaded: its theme is changed, or the page is opened
anew. -/
inductive Visit where
  | toggle
  | reload
deriving DecidableEq

namespace Visit

def prepare (name key : String) : Visit → List Step
  | toggle => []
  | reload => [.store name .drop, .store name (.create key)]

def call (name : String) : Visit → Step
  | toggle => .store name .toggle
  | reload => .store name .load

def alter (held : Theme × Option String) : Visit → Theme × Option String
  | toggle => (held.1.toggled, some held.1.toggled.name)
  | reload => held

end Visit

structure Look where
  theme : Option Theme
  worn : Option Theme
  stored : Option String
deriving DecidableEq

def Stage.look (s : Stage) (name key : String) : Look where
  theme := (s.store? name).map (·.part.theme)
  worn := s.documents[s.current]?.bind (·.applied)
  stored := s.documents[s.current]?.bind (·.storage.get? key)

structure VisitRecord where
  visit : Visit
  returned : Option Theme
  look : Look
deriving DecidableEq

def Outcome.theme? : Outcome → Option Theme
  | .theme t => t
  | _ => none

namespace Machine

variable (m : Machine) (name key : String)

def returned (v : Visit) : Option Theme :=
  ((m.steps (v.prepare name key)).outcome (v.call name)).theme?

def visit (v : Visit) : Machine := (m.steps (v.prepare name key)).step (v.call name)

def visits (vs : List Visit) : Machine := vs.foldl (·.visit name key) m

def visitRecords (m : Machine) : List Visit → List VisitRecord
  | [] => []
  | v :: vs =>
    ⟨v, m.returned name key v, (m.visit name key v).stage.look name key⟩ :: visitRecords
      (m.visit name key v) vs

theorem step_of_errands_nil {s : Step} (none : (m.reply s).errands = []) : m.step s = m.take s := by
  rw [step, none, List.map_nil, run_nil]

end Machine

def starting (scheme : Option Theme) (stored : Option String) : Theme :=
  (Preference.choice? (.ok stored)).getD (scheme.getD .light)

theorem starting_name (scheme : Option Theme) (t : Theme) : starting scheme (some t.name) = t := by
  have named : t.name ≠ "" := by cases t <;> decide
  rw [starting, Preference.choice?, if_neg named, Theme.ofStored_name, Option.getD_some]

/-- The preference of this name holds a theme that the current page wears, and if it were made and
loaded anew it would start with this theme. -/
structure Reloadable (name key : String) (held : Theme × Option String) (s : Stage) : Prop where
  preference : ∃ n, s.names.stores.get? name = some n ∧
    s.stores[n]? = some ⟨s.current, { key, theme := held.1, loaded := true }⟩
  page : ∃ d, s.documents[s.current]? = some d ∧ d.canRead s.faults ∧ d.canWrite s.faults ∧
    d.applied = some held.1 ∧ d.storage.get? key = held.2 ∧ starting d.scheme held.2 = held.1

namespace Reloadable

variable {m : Machine} {d : Document Receiver} {n : Nat} {name key : String}
  {held : Theme × Option String}

theorem look_eq {s : Stage} (h : Reloadable name key held s) :
    s.look name key = ⟨some held.1, some held.1, held.2⟩ := by
  obtain ⟨n, named, found⟩ := h.preference
  obtain ⟨d, document, -, -, applied, stored, -⟩ := h.page
  simp [Stage.look, Stage.store?, named, found, document, applied, stored]

/-- A use of the preference that leaves a theme which the page wears, and which would be found
again. -/
theorem use (use : Use) (held : Theme × Option String) {p : Preference Hearer}
    (named : m.stage.names.stores.get? name = some n)
    (found : m.stage.stores[n]? = some ⟨m.stage.current, p⟩)
    (document : m.stage.documents[m.stage.current]? = some d)
    (untold : (use.change p d m.stage.faults).told = [])
    (preference : (use.change p d m.stage.faults).preference =
      { key, theme := held.1, loaded := true })
    (page : ∃ d', (use.change p d m.stage.faults).document = d' ∧ d'.canRead m.stage.faults ∧
      d'.canWrite m.stage.faults ∧ d'.applied = some held.1 ∧ d'.storage.get? key = held.2 ∧
      starting d'.scheme held.2 = held.1) :
    (m.outcome (.store name use.op)).theme? = some held.1 ∧
      Reloadable name key held (m.step (.store name use.op)).stage := by
  have performed := Stage.perform_op m.probes.length use named found document
  have stage : (m.step (.store name use.op)).stage =
      (m.stage.setStore n (use.change p d m.stage.faults).preference).setDocument m.stage.current
        (use.change p d m.stage.faults).document := by
    rw [m.step_of_errands_nil (by rw [Machine.reply, performed, untold]; rfl)]
    exact congrArg (·.stage) performed
  refine ⟨?_, ?_⟩
  · rw [Machine.outcome, Machine.reply, performed, preference]
    rfl
  · obtain ⟨d', changed, reads, writes, page⟩ := page
    rw [stage, changed, preference]
    exact
      { preference := ⟨n, named, (Stage.getElem?_setStore found n).trans (if_pos rfl)⟩
        page := ⟨d', (Stage.getElem?_setDocument document _).trans (if_pos rfl), reads,
          writes, page⟩ }

/-- A preference that is made and loaded on a page where storage works. -/
theorem create_load (document : m.stage.documents[m.stage.current]? = some d)
    (reads : d.canRead m.stage.faults) (writes : d.canWrite m.stage.faults)
    (stored : d.storage.get? key = held.2) (resolves : starting d.scheme held.2 = held.1) :
    ((m.step (.store name (.create key))).outcome (.store name .load)).theme? = some held.1 ∧
      Reloadable name key held
        ((m.step (.store name (.create key))).step (.store name .load)).stage := by
  have stage : (m.step (.store name (.create key))).stage = m.stage.createStore name key := by
    rw [m.step_of_errands_nil rfl]
    rfl
  have resolved : Preference.resolve ({ key } : Preference Hearer) d m.stage.faults = held.1 := by
    rw [Preference.resolve, Document.readSaved_of_canRead reads, stored]
    exact resolves
  have made :=
    Preference.load_of_not_loaded (p := ({ key } : Preference Hearer)) d m.stage.faults rfl
  rw [resolved] at made
  refine use .load held (n := m.stage.stores.length) (p := { key }) (d := d) ?_ ?_ ?_ ?_ ?_ ?_
  all_goals rw [stage]
  · exact (Table.get?_insert _ _ _ _).trans (if_pos rfl)
  · exact List.getElem?_concat_length
  · exact document
  · exact (Preference.told_load d m.stage.faults rfl).trans (ite_self _)
  · exact made.1
  · exact ⟨_, made.2, reads, writes, rfl, stored, resolves⟩

theorem toggle (h : Reloadable name key held m.stage) :
    (m.outcome (.store name .toggle)).theme? = some held.1.toggled ∧
      Reloadable name key (held.1.toggled, some held.1.toggled.name)
      (m.step (.store name .toggle)).stage := by
  obtain ⟨n, named, found⟩ := h.preference
  obtain ⟨d, document, reads, writes, -⟩ := h.page
  have written :=
    Preference.document_toggle ({ key, theme := held.1, loaded := true } : Preference Hearer) d
    m.stage.faults
  rw [if_pos writes] at written
  refine use .toggle (held.1.toggled, _) (p := { key, theme := held.1, loaded := true }) named found
    document ?_ ?_ ?_
  · exact Preference.told_toggle _ _ _
  · exact Preference.preference_toggle _ _ _
  · refine ⟨_, written, reads, writes, rfl, ?_, starting_name _ _⟩
    exact (Table.get?_insert _ _ _ _).trans (if_pos rfl)

/-- What is stored on the page, or what the system prefers, brings the theme back. -/
theorem reload (h : Reloadable name key held m.stage) :
    m.returned name key .reload = some held.1 ∧
    Reloadable name key held (m.visit name key .reload).stage := by
  obtain ⟨n, named, found⟩ := h.preference
  obtain ⟨d, document, reads, writes, -, stored, resolves⟩ := h.page
  have stage : (m.step (.store name .drop)).stage =
      { m.stage with names :=
        { m.stage.names with stores := m.stage.names.stores.erase name } } := by
    have performed : m.reply (.store name .drop) =
        { stage := { m.stage with names :=
          { m.stage.names with stores := m.stage.names.stores.erase name } } } := by
      simp only [Machine.reply, Stage.perform, Stage.performStore, Stage.onStore, named, found]
    rw [m.step_of_errands_nil (by rw [performed])]
    exact congrArg (·.stage) performed
  refine create_load (m := m.step (.store name .drop)) (d := d) ?_ ?_ ?_ stored resolves
  all_goals rw [stage]
  · exact document
  · exact reads
  · exact writes

theorem visit (h : Reloadable name key held m.stage) (v : Visit) :
    m.returned name key v = some (v.alter held).1 ∧ Reloadable name key (v.alter held)
    (m.visit name key v).stage := by
  cases v with
  | toggle => exact h.toggle
  | reload => exact h.reload

theorem visits (h : Reloadable name key held m.stage) (vs : List Visit) :
    Reloadable name key (vs.foldl Visit.alter held) (m.visits name key vs).stage := by
  induction vs generalizing m held with
  | nil => exact h
  | cons v vs ih => exact ih (h.visit v).2

end Reloadable

def expectedRecords (held : Theme × Option String) : List Visit → List VisitRecord
  | [] => []
  | v :: vs =>
    let next := v.alter held
    ⟨v, some next.1, some next.1, some next.1, next.2⟩ :: expectedRecords next vs

theorem Reloadable.visitRecords {m : Machine} {name key : String} {held : Theme × Option String}
    (h : Reloadable name key held m.stage) (vs : List Visit) :
    m.visitRecords name key vs = expectedRecords held vs := by
  induction vs generalizing m held with
  | nil => rfl
  | cons v vs ih =>
    obtain ⟨returned, after⟩ := h.visit v
    rw [Machine.visitRecords, returned, after.look_eq, ih after]
    rfl

/-- Reloads do not move what is due. -/
theorem filter_expectedRecords (held : Theme × Option String) (vs : List Visit) :
    (expectedRecords held vs).filter (·.visit = .toggle) =
      expectedRecords held (vs.filter (· = .toggle)) ∧
      vs.foldl Visit.alter held = (vs.filter (· = .toggle)).foldl Visit.alter held := by
  induction vs generalizing held with
  | nil => exact ⟨rfl, rfl⟩
  | cons v vs ih =>
    obtain ⟨due, last⟩ := ih (v.alter held)
    cases v with
    | toggle => exact ⟨congrArg (List.cons _) due, last⟩
    | reload => exact ⟨due, last⟩

/-- On any page where storage works, whatever is stored there under the key and whatever the system
prefers: a preference is made and loaded, and then its theme is changed and the page is reloaded any
number of times in any order. The changes return the themes, and leave the theme, the look of the
page and the stored text, that they would without the reloads; so does the whole. Each reload
returns the theme that was held before it and changes nothing that can be seen. -/
theorem reloads_unseen {m : Machine} {d : Document Receiver}
    (document : m.stage.documents[m.stage.current]? = some d) (reads : d.canRead m.stage.faults)
    (writes : d.canWrite m.stage.faults) (name key : String) (vs : List Visit) :
    let first := m.steps [.store name (.create key), .store name .load]
    let theme := starting d.scheme (d.storage.get? key)
    first.stage.look name key = ⟨some theme, some theme, d.storage.get? key⟩ ∧
    (first.visitRecords name key vs).filter (·.visit = .toggle) =
      first.visitRecords name key (vs.filter (· = .toggle)) ∧
    (first.visits name key vs).stage.look name key =
      (first.visits name key (vs.filter (· = .toggle))).stage.look name key ∧
    ∀ past v later, vs = past ++ v :: later →
      let before := first.visits name key past
      ∃ t, (before.stage.look name key).theme = some t ∧
        (v = .toggle → before.returned name key v = some t.toggled) ∧
        (v = .reload → before.returned name key v = some t ∧
          (before.visit name key v).stage.look name key = before.stage.look name key) := by
  intro first theme
  obtain ⟨-, reloadable⟩ : _ ∧ Reloadable name key (theme, d.storage.get? key) first.stage :=
    Reloadable.create_load document reads writes rfl rfl
  obtain ⟨due, last⟩ := filter_expectedRecords (theme, d.storage.get? key) vs
  refine ⟨reloadable.look_eq, ?_, ?_, ?_⟩
  · rw [reloadable.visitRecords, reloadable.visitRecords, due]
  · rw [(reloadable.visits _).look_eq, (reloadable.visits _).look_eq, last]
  · intro past v later _ before
    have held : Reloadable name key (past.foldl Visit.alter (theme, d.storage.get? key))
        before.stage :=
      reloadable.visits past
    obtain ⟨returned, after⟩ := held.visit v
    refine ⟨_, congrArg Look.theme held.look_eq, ?_, ?_⟩
    · rintro rfl
      exact returned
    · rintro rfl
      exact ⟨returned, after.look_eq.trans held.look_eq.symm⟩

def scribbled : Blueprint := { furnishings := [.saved "theme" "mauve", .scheme .dark] }

theorem reloads_unseen_scribbled :
    let page : Document Receiver := scribbled.build
    let first := (Machine.opened scribbled).steps [.store "p" (.create "theme"), .store "p" .load]
    page.canRead {} ∧ page.canWrite {} ∧
      first.stage.look "p" "theme" = ⟨some .light, some .light, some "mauve"⟩ ∧
      (first.visits "p" "theme" [.reload, .toggle, .reload, .reload]).stage.look "p" "theme" =
        (first.visits "p" "theme" [.toggle]).stage.look "p" "theme" := by
  intro page first
  have reads : page.canRead {} := by decide +kernel
  have writes : page.canWrite {} := by decide +kernel
  have light : starting page.scheme (page.storage.get? "theme") = .light := by decide +kernel
  obtain ⟨start, -, last, -⟩ :=
    reloads_unseen (m := .opened scribbled) (d := page) rfl reads writes "p" "theme"
    [.reload, .toggle, .reload, .reload]
  rw [light] at start
  exact ⟨reads, writes, start, last⟩

end Wayfinder.Session
