import Wayfinder.Proofs.Markup
import Wayfinder.Proofs.Quiet
import Wayfinder.Proofs.Registration
import Wayfinder.Site.Visit

namespace Wayfinder

namespace Session

variable {s s' : Stage} {r : Registry}

def Presents (s : Stage) (r : Registry) : Prop :=
  ∃ m v, s.menus[0]? = some m ∧ m.viewer = some v ∧ v.seen.active = some r.first.id ∧
    (m.contents.bind fun c ↦ s.outline? c.spy) = some (r, r.first.id)

namespace Presents

theorem exists_spy {m : Menu}
    (outline : (m.contents.bind fun c ↦ s.outline? c.spy) = some (r, r.first.id)) :
    ∃ c spy, m.contents = some c ∧ s.spies[c.spy]? = some spy ∧ spy.part.registry = r ∧
      spy.part.active = r.first.id := by
  obtain ⟨c, contents, outline⟩ := Option.bind_eq_some_iff.1 outline
  obtain ⟨spy, found, same⟩ := Option.map_eq_some_iff.1 outline
  obtain ⟨registry, active⟩ := Prod.mk.inj same
  exact ⟨c, spy, contents, found, registry, active⟩

theorem snapshot_active {m : Menu}
    (outline : (m.contents.bind fun c ↦ s.outline? c.spy) = some (r, r.first.id)) :
    (s.snapshot m).active = some r.first.id := by
  obtain ⟨c, spy, contents, found, -, active⟩ := exists_spy outline
  simp [Stage.snapshot, contents, Stage.active?, found, active]

theorem sections {m : Menu}
    (outline : (m.contents.bind fun c ↦ s.outline? c.spy) = some (r, r.first.id)) :
    s.sections m = r.sections := by
  obtain ⟨c, spy, contents, found, registry, -⟩ := exists_spy outline
  simp [Stage.sections, contents, found, registry]

theorem congr (h : Presents s r) (outlines : ∀ n, s'.outline? n = s.outline? n)
    (menus : ∀ m, s.menus[0]? = some m →
      ∃ m', s'.menus[0]? = some m' ∧ m'.contents = m.contents ∧ m'.viewer = m.viewer) :
      Presents s' r := by
  obtain ⟨m, v, found, viewer, seen, outline⟩ := h
  obtain ⟨m', found', contents, kept⟩ := menus m found
  refine ⟨m', v, found', kept.trans viewer, seen, ?_⟩
  rwa [contents, funext fun c : Contents ↦ outlines c.spy]

theorem setMenu {n : Nat} {m m' : Menu} (h : Presents s r) (found : s.menus[n]? = some m)
    (contents : m'.contents = m.contents) (viewer : m'.viewer = m.viewer) :
    Presents (s.setMenu n m') r := by
  refine h.congr (fun _ ↦ rfl) fun first present ↦ ?_
  rw [Stage.getElem?_setMenu found]
  split
  · subst n
    obtain rfl : first = m := Option.some.inj (present.symm.trans found)
    exact ⟨m', rfl, contents, viewer⟩
  · exact ⟨first, present, rfl, rfl⟩

theorem reclaim (h : Presents s r) (o : Object) : Presents (s.reclaim o) r := by
  refine h.congr (Stage.outline?_reclaim o) fun m found ↦ ?_
  unfold Stage.reclaim
  split
  · exact ⟨m, found, rfl, rfl⟩
  · rw [Stage.getElem?_destroy, found]
    refine ⟨_, rfl, ?_⟩
    split <;> exact ⟨rfl, rfl⟩

theorem redraw (h : Presents s r) (n : Nat) : Presents (s.redrawMenu n).stage r := by
  unfold Stage.redrawMenu
  split
  · exact h
  · rename_i m found
    split
    · exact h
    · rename_i v viewer
      obtain ⟨first, v', present, viewer', seen, outline⟩ := h
      by_cases zero : 0 = n
      · subst n
        obtain rfl : first = m := Option.some.inj (present.symm.trans found)
        refine ⟨{ first with viewer := some { v with seen := s.snapshot first } }, _, ?_, rfl,
          snapshot_active outline, outline⟩
        rw [Stage.getElem?_setMenu found, if_pos rfl]
      · refine ⟨first, v', ?_, viewer', seen, outline⟩
        rw [Stage.getElem?_setMenu found, if_neg zero, present]

theorem carry (h : Presents s r) {t : Errand} (spares : t.sparesSpies) :
    Presents (s.carry t).stage r := by
  cases t with
  | tell hearer news =>
    cases hearer with
    | probe probe => exact h
    | menu n =>
      simp only [Stage.carry, Stage.tellMenu]
      split
      · exact h
      · split
        · exact h.congr (fun _ ↦ rfl) fun m found ↦ ⟨m, found, rfl, rfl⟩
        · exact h
  | redraw n => exact h.redraw n
  | call probe notice => exact h
  | letGo o =>
    have erased : Presents { s with inUse := s.inUse.erase o } r :=
      h.congr (fun _ ↦ rfl) fun m found ↦ ⟨m, found, rfl, rfl⟩
    exact erased.reclaim o
  | frames | observe | hand | keepWatch | keepHandle => cases spares

/-- What one errand keeps, all of them keep. -/
theorem run {m : Machine} {ts : List Errand} (h : Presents m.stage r) (inert : m.Inert)
    (spares : ∀ t ∈ ts, t.sparesSpies) :
    Presents (m.run (ts.map .errand)).stage r ∧ (m.run (ts.map .errand)).Inert := by
  generalize same : ts.map Job.errand = jobs
  induction m, jobs using Machine.run.induct generalizing ts with
  | case1 m =>
    rw [Machine.run_nil]
    exact ⟨h, inert⟩
  | case2 m j jobs ih =>
    obtain ⟨t, ts, rfl, rfl, rfl⟩ := List.map_eq_cons_iff.1 same
    obtain ⟨stage, follow, inert⟩ := inert.advance t
    have next := h.carry (spares t List.mem_cons_self)
    have more := Stage.spares_carry m.stage (spares t List.mem_cons_self)
    rw [← stage] at next
    rw [Machine.run_cons]
    refine ih next inert (List.forall_mem_append.2 ⟨more, fun t' member ↦ ?_⟩)
      (by rw [follow, List.map_append])
    exact spares t' (List.mem_cons_of_mem t member)

theorem setOpen (h : Presents s r) (n : Nat) (isOpen : Bool) :
    Presents (s.setOpen n isOpen).stage r := by
  unfold Stage.setOpen
  split
  · exact h
  · rename_i m found
    exact h.setMenu found rfl rfl

theorem toggleStore (h : Presents s r) (n : Nat) : Presents (s.toggleStore n).stage r := by
  unfold Stage.toggleStore Stage.changeStore
  split
  · exact h
  · split
    · exact h
    · exact h.congr (fun _ ↦ rfl) fun m found ↦ ⟨m, found, rfl, rfl⟩

theorem revealWith (h : Presents s r) (n : Nat) (scroller : Scroller) (id : String) :
    Presents (s.revealWith n scroller id).stage r := by
  unfold Stage.revealWith
  split
  · exact h
  · exact h.congr (fun _ ↦ rfl) fun m found ↦ ⟨m, found, rfl, rfl⟩

theorem selectSection (h : Presents s r) (n : Nat) (m : Menu) (id : String) :
    Presents (s.selectSection n m id).stage r := by
  unfold Stage.selectSection
  dsimp only
  split
  · exact (h.revealWith _ _ id).setOpen n false
  · exact h.setOpen n false

end Presents

end Session

namespace Node

mutual

def within : Node → List Node
  | element tag attributes classes children =>
    element tag attributes classes children :: allWithin children
  | node => [node]

def allWithin : List Node → List Node
  | [] => []
  | node :: nodes => node.within ++ allWithin nodes

end

def hasTag (name : String) : Node → Bool
  | element tag _ _ _ | void tag _ _ => tag = name
  | text _ => false

def hasClass (name : String) : Node → Bool
  | element _ _ classes _ | void _ _ classes => name ∈ classes
  | text _ => false

def children : Node → List Node
  | element _ _ _ children => children
  | _ => []

def buttons (nodes : List Node) : List Node := (allWithin nodes).filter (hasTag "button")

end Node

namespace Site

open Session

/-- The buttons in the markup are the entries of a table of contents: one for each section, in their
order, with the label as its only content; one of them is marked active, the one of the active
section. -/
structure ListsSections (nodes : List Node) (sections : List Section) (active : Option String) :
    Prop where
  entries : ∀ b ∈ Node.buttons nodes, b.hasClass "toc-sidebar__entry"
  labels : (Node.buttons nodes).map Node.children = sections.map fun s ↦ [.text s.label]
  marked : (Node.buttons nodes).map (Node.hasClass "active") = sections.map fun s ↦
    decide (active = some s.id)
  sole : (Node.buttons nodes).countP (Node.hasClass "active") = 1

section Table

variable {shown : Snapshot} {sections : List Section}

theorem buttons_tocSidebar :
    Node.buttons [tocSidebar shown sections] = sections.map (tocEntry shown) := by
  have entries : (Node.allWithin (sections.map (tocEntry shown))).filter (Node.hasTag "button") =
      sections.map (tocEntry shown) := by
    induction sections with
    | nil => rfl
    | cons s sections ih =>
      have first : (tocEntry shown s).within = [tocEntry shown s, .text s.label] := by
        simp [tocEntry, Node.within, Node.allWithin]
      have button : (tocEntry shown s).hasTag "button" := by simp [tocEntry, Node.hasTag]
      rw [List.map_cons, Node.allWithin, first, List.filter_append, ih,
        List.filter_cons_of_pos button, List.filter_cons_of_neg (by simp [Node.hasTag])]
      rfl
  simpa [Node.buttons, tocSidebar, Node.allWithin, Node.within, Node.hasTag] using entries

theorem hasClass_tocEntry (s : Section) :
    (tocEntry shown s).hasClass "active" = decide (shown.active = some s.id) := by
  by_cases active : shown.active = some s.id <;> simp [tocEntry, Node.hasClass, classIf, active]

theorem plain_tocEntry {s : Section} (labelled : s.label ≠ "") : (tocEntry shown s).Plain := by
  rw [tocEntry, Node.Plain]
  refine ⟨⟨by decide, by decide, by simp, ?_⟩, by decide, ?_⟩
  · by_cases active : shown.active = some s.id
    · rw [active, classIf]
      simp
    · simp [classIf, active]
  · simp [Node.AllPlain, Node.Plain, Node.startsWithText, labelled]

theorem plain_tocSidebar (labelled : ∀ s ∈ sections, s.label ≠ "") :
    Node.AllPlain [tocSidebar shown sections] := by
  have entries : Node.AllPlain (sections.map (tocEntry shown)) := by
    induction sections with
    | nil =>
      rw [List.map_nil, Node.AllPlain]
      trivial
    | cons s sections ih =>
      rw [List.map_cons, Node.AllPlain]
      exact ⟨plain_tocEntry (labelled s List.mem_cons_self), rfl,
        ih fun s' member ↦ labelled s' (List.mem_cons_of_mem s member)⟩
  have list : PlainTag "nav" [⟨"aria-label", "Table of contents"⟩] ["toc-sidebar__list"] :=
    ⟨by decide, by decide, by decide, by decide⟩
  have around : PlainTag "aside" [] ["toc-sidebar"] := ⟨by decide, by decide, by decide, by decide⟩
  have nav : "nav" ∉ voidTags := by decide
  have aside : "aside" ∉ voidTags := by decide
  simp only [tocSidebar, Node.AllPlain, Node.Plain, Node.startsWithText, Bool.and_self, and_true]
  exact ⟨around, aside, list, nav, entries⟩

theorem listsSections_tocSidebar (distinct : (sections.map Section.id).Nodup) {s : Section}
    (member : s ∈ sections) (active : shown.active = some s.id) :
    ListsSections [tocSidebar shown sections] sections shown.active := by
  have marks : Node.hasClass "active" ∘ tocEntry shown = fun s ↦
      decide (shown.active = some s.id) :=
    funext hasClass_tocEntry
  constructor
  all_goals rw [buttons_tocSidebar]
  case entries =>
    intro b listed
    obtain ⟨s, -, rfl⟩ := List.mem_map.1 listed
    simp [tocEntry, Node.hasClass]
  case labels =>
    rw [List.map_map]
    rfl
  case marked => rw [List.map_map, marks]
  case sole =>
    -- The ids are distinct, so the active one is the id of a single section.
    have once : (sections.map Section.id).count s.id = 1 :=
      List.count_eq_one_of_mem distinct (List.mem_map_of_mem member)
    rw [List.countP_map, marks, ← once, List.count, List.countP_map]
    refine List.countP_congr fun s' _ ↦ ?_
    simp only [active, decide_eq_true_eq, Option.some.injEq, Function.comp_apply, beq_iff_eq]
    exact ⟨Eq.symm, Eq.symm⟩

end Table

namespace PageView

variable {view : PageView} {r : Registry}

structure Presents (view : PageView) (r : Registry) : Prop where
  stage : Session.Presents view.stage r
  inert : view.machine.Inert

theorem presents_ofRegistry (r : Registry) : (ofRegistry r).Presents r := by
  constructor
  · exact ⟨_, _, rfl, rfl, rfl, rfl⟩
  · intro p member
    exact .inl (List.mem_singleton.1 member ▸ rfl)

namespace Presents

theorem forget (h : view.Presents r) : view.forget.Presents r := ⟨h.stage, h.inert⟩

theorem operate {op : Stage → Menu → Progress} (h : view.Presents r)
    (keeps : ∀ m, Session.Presents (op view.stage m).stage r)
    (spares : ∀ m, ∀ t ∈ (op view.stage m).errands, t.sparesSpies) :
    (view.operate op).Presents r := by
  unfold PageView.operate
  split
  · rename_i m _
    obtain ⟨stage, inert⟩ :=
      Session.Presents.run (m := view.machine.apply (op view.stage m)) (keeps m) h.inert (spares m)
    exact ⟨stage, inert⟩
  · exact h

theorem shown_active (h : view.Presents r) : view.shown.active = some r.first.id := by
  obtain ⟨m, v, found, viewer, seen, -⟩ := h.stage
  have menu : view.menu? = some m := found
  rw [shown, menu, Option.bind_some, viewer]
  exact seen

theorem sections (h : view.Presents r) : view.sections = r.sections := by
  obtain ⟨m, v, found, -, -, outline⟩ := h.stage
  have menu : view.menu? = some m := found
  rw [PageView.sections, menu]
  exact Session.Presents.sections outline

end Presents

end PageView

def VisitStep.opens : VisitStep → Bool
  | .openPage _ | .openBare => true
  | _ => false

namespace Visit

variable {view : PageView} {r : Registry}

def after (v : Visit) (steps : List VisitStep) : Visit :=
  steps.foldl (fun v step ↦ (v.perform step).1) v

theorem perform_presents (h : view.Presents r) {step : VisitStep} (stays : step.opens = false) :
    ∃ view', (perform (some view) step).1 = some view' ∧ view'.Presents r := by
  have fresh := h.forget
  cases step with
  | openPage | openBare => cases stays
  | toggleMenu =>
    exact ⟨_, rfl, fresh.operate (fun m ↦ fresh.stage.setOpen 0 !m.isOpen) fun _ ↦
      Stage.spares_setOpen _ 0 _⟩
  | closeMenu =>
    exact ⟨_, rfl, fresh.operate (fun _ ↦ fresh.stage.setOpen 0 false) fun _ ↦
      Stage.spares_setOpen _ 0 _⟩
  | toggleTheme =>
    exact ⟨_, rfl, fresh.operate (fun m ↦ fresh.stage.toggleStore m.store) fun m ↦
      Stage.spares_toggleStore _ m.store⟩
  | select id =>
    exact ⟨_, rfl, fresh.operate (fun m ↦ fresh.stage.selectSection 0 m id) fun m ↦
      Stage.spares_selectSection _ 0 m id⟩
  | isActive | sections | part | home | docs | route | shell | malformed => exact ⟨_, rfl, fresh⟩

theorem after_presents (h : view.Presents r) {steps : List VisitStep}
    (stays : ∀ step ∈ steps, step.opens = false) :
    ∃ view', after (some view) steps = some view' ∧ view'.Presents r := by
  induction steps generalizing view with
  | nil => exact ⟨view, rfl, h⟩
  | cons step steps ih =>
    obtain ⟨next, same, presents⟩ := perform_presents h (stays step List.mem_cons_self)
    obtain ⟨last, reached, presents⟩ :=
      ih presents fun step' member ↦ stays step' (List.mem_cons_of_mem step member)
    refine ⟨last, ?_, presents⟩
    rw [after, List.foldl_cons, same]
    exact reached

/-- Whatever is done in a view after it has been opened on sections with labels, its table of
contents is rendered as markup that lists these sections, with the first of them active. -/
theorem tocSidebar_listsSections {sections : List Section} {r : Registry}
    (valid : Registry.ofSections sections = .ok r) (labelled : ∀ s ∈ sections, s.label ≠ "")
    (visit : Visit) {steps : List VisitStep} (stays : ∀ step ∈ steps, step.opens = false) :
    ∃ view html nodes, (visit.perform (.openPage sections)).1.after steps = some view ∧
      (perform (some view) (.part .tocSidebar)).2 = .html html ∧ Node.read? html = some nodes ∧
      view.shown.active = some r.first.id ∧ ListsSections nodes sections view.shown.active := by
  have same := Registry.sections_of_ofSections valid
  subst same
  have opened : (visit.perform (.openPage r.sections)).1 = some (PageView.ofRegistry r) := by
    simp only [perform, PageView.ofSections?, valid]
  obtain ⟨view, reached, presents⟩ := after_presents (PageView.presents_ofRegistry r) stays
  have rendered : (perform (some view) (.part .tocSidebar)).2 =
      .html (Node.renderAll [tocSidebar view.shown r.sections]) := by
    rw [← presents.sections]
    rfl
  have first : r.first ∈ r.sections := List.head_mem r.nonempty
  exact ⟨view, _, _, by rw [opened, reached], rendered,
    Node.read?_renderAll (plain_tocSidebar labelled), presents.shown_active,
      listsSections_tocSidebar r.distinct first presents.shown_active⟩

def smuggled : List Section :=
  [⟨"top", "</button><button class=\"toc-sidebar__entry active\">two"⟩, ⟨"\">", "&lt;b&gt; & <i"⟩,
    ⟨"", " \" active"⟩]

def bustle : List VisitStep :=
  [.toggleMenu, .toggleTheme, .select "\">", .part .navBar, .closeMenu, .select "nowhere"]

theorem tocSidebar_listsSections_smuggled : (∃ r, Registry.ofSections smuggled = .ok r) ∧
    ∃ view html nodes, (perform none (.openPage smuggled)).1.after bustle = some view ∧
      (perform (some view) (.part .tocSidebar)).2 = .html html ∧ Node.read? html = some nodes ∧
      (Node.buttons nodes).map Node.children =
        [[.text "</button><button class=\"toc-sidebar__entry active\">two"],
          [.text "&lt;b&gt; & <i"], [.text " \" active"]] ∧
      (Node.buttons nodes).map (Node.hasClass "active") = [true, false, false] := by
  have valid : Registry.ofSections smuggled = .ok ⟨smuggled, by decide, by decide⟩ := rfl
  have stays : ∀ step ∈ bustle, step.opens = false := by decide
  obtain ⟨view, html, nodes, reached, rendered, read, active, lists⟩ :=
    tocSidebar_listsSections valid (by decide) none stays
  refine ⟨⟨_, valid⟩, view, html, nodes, reached, rendered, read, lists.labels, ?_⟩
  rw [lists.marked, active]
  decide

end Visit

end Site

end Wayfinder
