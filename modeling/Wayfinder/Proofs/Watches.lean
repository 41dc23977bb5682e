import Wayfinder.Proofs.History

namespace Wayfinder

namespace Document

variable {ω : Type} {d d' : Document ω}

def registered (d : Document ω) : Subscribers ω :=
  ⟨d.watches.map fun w ↦ (w.token, w.owner), d.nextToken⟩

theorem Alike.registered (alike : Alike d d') : d'.registered = d.registered := by
  simp only [Document.registered, alike.watches, alike.token]

@[simp] theorem registered_inform : d.inform.1.registered = d.registered := by
  simp [registered, inform]

@[simp] theorem registered_observe (owner : ω) (ids : List String) (band : Band) :
    (d.observe owner ids band).registered = d.registered.add owner := by
  simp [registered, observe, Subscribers.add]

@[simp] theorem registered_release (token : Nat) :
    (d.release token).registered = d.registered.remove token := by
  simp [registered, release, Subscribers.remove, List.filter_map, Function.comp_def]

end Document

theorem Blueprint.registered_build {ω : Type} (page : Blueprint) :
    (page.build : Document ω).registered = {} := by
  have furnished (d : Document ω) (empty : d.registered = {}) :
    (page.furnishings.foldl furnish d).registered = {} := by
    induction page.furnishings generalizing d with
    | nil => exact empty
    | cons f fs ih => exact ih _ (by cases f <;> exact empty)
  exact furnished _ rfl

namespace Session

def Errand.isKeeping : Errand → Bool
  | .keepWatch _ _ | .keepHandle _ _ => true
  | _ => false

def keepings (ts : List Errand) : List Errand := ts.filter Errand.isKeeping

theorem keepings_cons {t : Errand} {ts : List Errand} (other : t.isKeeping = false) :
    keepings (t :: ts) = keepings ts := List.filter_cons_of_neg (by simp [other])

theorem keepings_append {ts ts' : List Errand} (others : ∀ t ∈ ts', t.isKeeping = false) :
    keepings (ts' ++ ts) = keepings ts := by
  rw [keepings, List.filter_append, List.filter_eq_nil_iff.2 (by simpa using others),
    List.nil_append, keepings]

@[simp] theorem keepings_handAll (ds : List (Delivery Receiver)) (ts : List Errand) :
    keepings (handAll ds ++ ts) = keepings ts :=
  keepings_append (by simp [handAll, Errand.isKeeping])

@[simp] theorem keepings_tellAll (hearers : List Hearer) (news : Notice) (ts : List Errand) :
    keepings (tellAll hearers news ++ ts) = keepings ts :=
  keepings_append (by simp [tellAll, Errand.isKeeping])

@[simp] theorem keepings_handFirst (receiver : Receiver) (batch : List Entry) (ts : List Errand) :
    keepings (handFirst receiver batch ++ ts) = keepings ts := by
  refine keepings_append ?_
  unfold handFirst
  split <;> simp [Errand.isKeeping]

def Errand.keeper? : Errand → Option Nat
  | .keepWatch n _ => some n
  | _ => none

structure Post where
  document : Nat
  phase : Spy.Phase
  watch : Option Nat

def Mounted.post (m : Mounted (Spy Hearer)) : Post := ⟨m.document, m.part.phase, m.part.watch⟩

namespace Stage

variable {s : Stage} {k n : Nat}

def register? (s : Stage) (k : Nat) : Option (Subscribers Receiver) :=
  s.documents[k]?.map Document.registered

def post? (s : Stage) (n : Nat) : Option Post := s.spies[n]?.map Mounted.post

theorem register?_of_found {d : Document Receiver} (found : s.documents[k]? = some d) :
    s.register? k = some d.registered := by rw [register?, found, Option.map_some]

theorem post?_of_found {m : Mounted (Spy Hearer)} (found : s.spies[n]? = some m) :
    s.post? n = some m.post := by
  rw [post?, found, Option.map_some]

theorem register?_setDocument {d d' : Document Receiver}
    (found : s.documents[k]? = some d) (i : Nat) :
    (s.setDocument k d').register? i = if i = k then some d'.registered else s.register? i := by
  rw [register?, getElem?_setDocument found]
  split <;> rfl

theorem register?_releaseLink (link : Link) (i : Nat) : (s.releaseLink link).register? i =
    if i = link.document then (s.register? i).map (·.remove link.token) else s.register? i := by
  simp only [register?, releaseLink, List.getElem?_modify]
  by_cases h : i = link.document
  · cases s.documents[i]? <;> simp [h]
  · cases s.documents[i]? <;> simp [h, Ne.symm h]

theorem register?_openPage (page : Blueprint) (i : Nat) :
    (s.openPage page).register? i = if i = s.documents.length then some {} else s.register? i := by
  simp only [register?, openPage, List.getElem?_append]
  split
  · rename_i below
    rw [if_neg (Nat.ne_of_lt below)]
  · by_cases last : i = s.documents.length
    · simp [last, page.registered_build]
    · have above : s.documents.length < i := by omega
      simp [last, List.getElem?_eq_none (Nat.le_of_lt above), Nat.sub_eq_zero_iff_le, above]

theorem post?_addSpy (spy : Mounted (Spy Hearer)) (i : Nat) :
    ({ s with spies := s.spies ++ [spy] } : Stage).post? i =
      if i = s.spies.length then some spy.post else s.post? i := by
  simp only [post?, List.getElem?_append]
  split
  · rename_i below
    rw [if_neg (Nat.ne_of_lt below)]
  · by_cases last : i = s.spies.length
    · simp [last]
    · have above : s.spies.length < i := by omega
      simp [last, List.getElem?_eq_none (Nat.le_of_lt above), Nat.sub_eq_zero_iff_le, above]

theorem post?_setSpy {m : Mounted (Spy Hearer)} {spy : Spy Hearer}
    (found : s.spies[n]? = some m) (i : Nat) :
    (s.setSpy n spy).post? i =
      if i = n then some ⟨m.document, spy.phase, spy.watch⟩ else s.post? i := by
  rw [post?, getElem?_setSpy found]
  split <;> rfl

end Stage

namespace Stage

variable {s s' : Stage} {ts ts' : List Errand} {k t n : Nat}

def Registered (s : Stage) (k t n : Nat) : Prop := ∃ r, s.register? k = some r ∧
    (t, .spy n) ∈ r.entries

/-- Spy `n` works on document `k` and knows its watch there by token `t`, or will. -/
def Holds (s : Stage) (ts : List Errand) (k t n : Nat) : Prop :=
  ∃ p, s.post? n = some p ∧ p.document = k ∧ (p.watch = some t ∨ .keepWatch n (some t) ∈ ts)

def Issued (s : Stage) (k t : Nat) : Prop := ∃ r, s.register? k = some r ∧ t < r.next

/-- A handle stands for the watch, or will as soon as its first batch is handed over. -/
def Linked (s : Stage) (ts : List Errand) (link : Link) : Prop :=
  (∃ name, s.names.handles.get? name = some (some link)) ∨ ∃ name, .keepHandle name link ∈ ts

theorem linked_keepWatch {link : Link} {w : Option Nat} :
    s.Linked (.keepWatch n w :: ts) link ↔ s.Linked ts link := by
  simp [Linked]

theorem linked_keepHandle {link link' : Link} {name : String} :
    s.Linked (.keepHandle name link' :: ts) link ↔ link = link' ∨ s.Linked ts link := by
  simp only [Linked, List.mem_cons, Errand.keepHandle.injEq]
  grind

theorem registered_releaseLink {link : Link} :
    (s.releaseLink link).Registered k t n ↔ s.Registered k t n ∧
    ¬ (k = link.document ∧ t = link.token) := by
  simp only [Registered, register?_releaseLink]
  by_cases same : k = link.document
  · cases s.register? k <;> simp [same, Subscribers.mem_entries_remove]
  · simp [same]

theorem issued_releaseLink {link : Link} : (s.releaseLink link).Issued k t ↔ s.Issued k t := by
  simp only [Issued, register?_releaseLink]
  split
  · cases s.register? k <;> simp
  · rfl

theorem registered_observe {i : Nat} {d : Document Receiver} (found : s.documents[i]? = some d)
    (owner : Receiver)
    (ids : List String) (band : Band) :
    (s.setDocument i (d.observe owner ids band)).Registered k t n ↔
      s.Registered k t n ∨ k = i ∧ t = d.nextToken ∧ owner = .spy n := by
  simp only [Registered, register?_setDocument found]
  by_cases same : k = i
  · have next : d.registered.next = d.nextToken := rfl
    simp [same, register?_of_found found, Subscribers.add, next, eq_comm]
  · simp [same]

theorem issued_observe {i : Nat} {d : Document Receiver} (found : s.documents[i]? = some d)
    (owner : Receiver) (ids : List String) (band : Band) :
    (s.setDocument i (d.observe owner ids band)).Issued k t ↔
      s.Issued k t ∨ k = i ∧ t = d.nextToken := by
  simp only [Issued, register?_setDocument found]
  by_cases same : k = i
  · have next : d.registered.next = d.nextToken := rfl
    simp [same, register?_of_found found, next]
    omega
  · simp [same]

theorem holds_of_found {m : Mounted (Spy Hearer)} (found : s.spies[n]? = some m) :
    s.Holds ts k t n ↔ m.document = k ∧ (m.part.watch = some t ∨ .keepWatch n (some t) ∈ ts) := by
  simp [Holds, post?_of_found found, Mounted.post]

theorem holds_setSpy {m : Mounted (Spy Hearer)} {spy : Spy Hearer}
    (found : s.spies[n]? = some m) (i : Nat) :
    (s.setSpy n spy).Holds ts k t i ↔
      if i = n then m.document = k ∧ (spy.watch = some t ∨
        .keepWatch n (some t) ∈ ts) else s.Holds ts k t i := by
  simp only [Holds, post?_setSpy found]
  by_cases same : i = n <;> simp [same]

end Stage

/-- The books are in order, where `ts` are the errands that someone is waiting for to learn a
token. -/
structure Kept (s : Stage) (ts : List Errand) : Prop where
  sound : ∀ {k : Nat} {r : Subscribers Receiver}, s.register? k = some r → r.Sound
  /-- The watches of a spy are those that the spy knows of, or will. -/
  exact : ∀ {k t n : Nat}, s.Registered k t n ↔ s.Holds ts k t n
  /-- No spy is waiting twice, and none that is waiting has a watch or is idle. -/
  once : (ts.filterMap Errand.keeper?).Nodup
  waiting : ∀ {n : Nat} {w : Option Nat}, .keepWatch n w ∈ ts → ∃ p,
    s.post? n = some p ∧ p.watch = none ∧ p.phase ≠ .idle
  idle : ∀ {n : Nat} {p : Post}, s.post? n = some p → p.phase = .idle → p.watch = none
  links : ∀ {link : Link}, s.Linked ts link → s.Issued link.document link.token ∧
    ∀ n, ¬ s.Registered link.document link.token n

namespace Kept

variable {s s' : Stage} {ts ts' : List Errand} {k n : Nat}

/-- Handles may give up their links, and errands to name a handle may be done. -/
theorem relink (h : Kept s ts) (registers : ∀ k, s'.register? k = s.register? k)
    (posts : ∀ n, s'.post? n = s.post? n)
    (links : ∀ link, s'.Linked ts' link → s.Linked ts link)
    (same : ∀ n w, .keepWatch n w ∈ ts' ↔ .keepWatch n w ∈ ts)
    (once : ts'.filterMap Errand.keeper? = ts.filterMap Errand.keeper?) : Kept s' ts' where
  sound found := h.sound (registers _ ▸ found)
  exact {k t n} := by
    have old := h.exact (k := k) (t := t) (n := n)
    simpa only [Stage.Registered, Stage.Holds, registers, posts, same] using old
  once := once ▸ h.once
  waiting {n w} pending := by simpa only [posts] using h.waiting ((same n w).1 pending)
  idle post := h.idle (posts _ ▸ post)
  links {link} linked := by
    simpa only [Stage.Issued, Stage.Registered, registers] using h.links (links link linked)

theorem frame (h : Kept s ts) (registers : ∀ k, s'.register? k = s.register? k)
    (posts : ∀ n, s'.post? n = s.post? n) (handles : s'.names.handles = s.names.handles) :
    Kept s' ts :=
  h.relink registers posts (fun link ↦ by rw [Stage.Linked, Stage.Linked, handles]; exact id)
    (fun _ _ ↦ .rfl) rfl

theorem sound_releaseLink {link : Link} (h : Kept s ts) {r : Subscribers Receiver}
    (found : (s.releaseLink link).register? k = some r) : r.Sound := by
  rw [Stage.register?_releaseLink] at found
  split at found
  · obtain ⟨r, found', rfl⟩ := Option.map_eq_some_iff.1 found
    exact (h.sound found').remove _
  · exact h.sound found

theorem eq_of_registered {t i : Nat} (h : Kept s ts) (a : s.Registered k t n)
    (b : s.Registered k t i) :
    n = i := by
  obtain ⟨r, found, member⟩ := a
  obtain ⟨r', found', member'⟩ := b
  obtain rfl := Option.some.inj (found.symm.trans found')
  cases (h.sound found).eq_of_token member member'
  rfl

theorem releaseLink {link : Link} (h : Kept s ts)
    (free : ∀ n, ¬ s.Registered link.document link.token n) :
    Kept (s.releaseLink link) ts := by
  have same {k t n : Nat} : (s.releaseLink link).Registered k t n ↔ s.Registered k t n := by
    rw [Stage.registered_releaseLink, and_iff_left_iff_imp]
    rintro registered ⟨rfl, rfl⟩
    exact free n registered
  exact {
    sound := h.sound_releaseLink
    exact := same.trans h.exact
    once := h.once
    waiting := h.waiting
    idle := h.idle
    links := fun linked ↦ by simpa only [same, Stage.issued_releaseLink] using h.links linked }

theorem disconnect {link : Option Link} (h : Kept s ts)
    (free : ∀ l, link = some l → ∀ n, ¬ s.Registered l.document l.token n) :
    Kept (s.disconnect link) ts := by
  cases link with
  | none => exact h
  | some link => exact h.releaseLink (free link rfl)

theorem setSpy {m : Mounted (Spy Hearer)} {spy : Spy Hearer} (h : Kept s ts)
    (found : s.spies[n]? = some m) (watch : spy.watch = m.part.watch)
    (phase : spy.phase = .idle → m.part.phase = .idle) :
    Kept (s.setSpy n spy) ts where
  sound := h.sound
  exact {k t i} := by
    refine h.exact.trans ?_
    rw [Stage.holds_setSpy found]
    split
    · subst i
      rw [Stage.holds_of_found found, watch]
    · rfl
  once := h.once
  waiting {i w} pending := by
    obtain ⟨p, post, none, busy⟩ := h.waiting pending
    rw [Stage.post?_setSpy found]
    split
    · subst i
      obtain rfl := Option.some.inj ((Stage.post?_of_found found).symm.trans post)
      exact ⟨_, rfl, watch.trans none, fun idle ↦ busy (phase idle)⟩
    · exact ⟨p, post, none, busy⟩
  idle {i p} post idle := by
    rw [Stage.post?_setSpy found] at post
    split at post
    · subst i
      cases post
      exact watch.trans (h.idle (Stage.post?_of_found found) (phase idle))
    · exact h.idle post idle
  links := h.links

theorem not_waiting {m : Mounted (Spy Hearer)} {w : Option Nat} (h : Kept s ts)
    (found : s.spies[n]? = some m) (free : m.part.phase = .idle ∨ m.part.watch ≠ none) :
    .keepWatch n w ∉ ts := by
  intro pending
  obtain ⟨p, post, none, busy⟩ := h.waiting pending
  obtain rfl := Option.some.inj ((Stage.post?_of_found found).symm.trans post)
  exact free.elim busy fun some ↦ some none

theorem dispose_some {m : Mounted (Spy Hearer)} {t : Nat} (h : Kept s ts)
    (found : s.spies[n]? = some m) (watch : m.part.watch = some t) :
    Kept ((s.setSpy n m.part.dispose).releaseLink ⟨m.document, t⟩) ts where
  sound := h.sound_releaseLink
  exact {k t' i} := by
    have free {w : Option Nat} : .keepWatch n w ∉ ts := h.not_waiting found (.inr (by simp [watch]))
    have kept : ((s.setSpy n m.part.dispose).releaseLink ⟨m.document, t⟩).Holds ts k t' i ↔ _ :=
      Stage.holds_setSpy found i
    have before : (s.setSpy n m.part.dispose).Registered k t' i ↔ s.Registered k t' i := .rfl
    rw [Stage.registered_releaseLink, before, h.exact, kept]
    split
    · subst i
      simp only [Stage.holds_of_found found, watch, free, or_false, Option.some.injEq, Spy.dispose,
        reduceCtorEq]
      grind
    · rename_i other
      rw [and_iff_left_iff_imp]
      rintro holds ⟨rfl, rfl⟩
      have registered : s.Registered m.document t' n :=
        h.exact.2 ((Stage.holds_of_found found).2 ⟨rfl, .inl watch⟩)
      exact other (h.eq_of_registered (h.exact.2 holds) registered)
  once := h.once
  waiting {i w} pending := by
    obtain ⟨p, post, none, busy⟩ := h.waiting pending
    have kept : ((s.setSpy n m.part.dispose).releaseLink ⟨m.document, t⟩).post? i = _ :=
      Stage.post?_setSpy found i
    rw [kept]
    split
    · exact ⟨_, rfl, rfl, nofun⟩
    · exact ⟨p, post, none, busy⟩
  idle {i p} post idle := by
    have kept : ((s.setSpy n m.part.dispose).releaseLink ⟨m.document, t⟩).post? i = _ :=
      Stage.post?_setSpy found i
    rw [kept] at post
    split at post
    · cases post
      rfl
    · exact h.idle post idle
  links {link} linked := by
    obtain ⟨issued, free⟩ := h.links linked
    exact ⟨Stage.issued_releaseLink.2 issued,
      fun i registered ↦ free i (Stage.registered_releaseLink.1 registered).1⟩

/-- A spy that is disposed releases the watch that it knows of, and no other. -/
theorem disposeSpy (h : Kept s ts) (n : Nat) : Kept (s.disposeSpy n) ts := by
  unfold Stage.disposeSpy
  split
  · exact h
  · rename_i m found
    cases watch : m.part.watch with
    | none => exact h.setSpy found watch.symm (nofun)
    | some t => exact h.dispose_some found watch

/-- A spy without a watch that is past being idle may wait for one. -/
theorem wait {p : Post} (h : Kept s ts) (post : s.post? n = some p) (free : p.watch = none)
    (busy : p.phase ≠ .idle) (fresh : ∀ w, .keepWatch n w ∉ ts) :
    Kept s (.keepWatch n none :: ts) where
  sound := h.sound
  exact {k t i} := by simpa [Stage.Holds] using h.exact (k := k) (t := t) (n := i)
  once := by
    refine List.nodup_cons.2 ⟨fun keeper ↦ ?_, h.once⟩
    obtain ⟨t, pending, keeps⟩ := List.mem_filterMap.1 keeper
    cases t <;> simp only [Errand.keeper?, reduceCtorEq, Option.some.injEq] at keeps
    subst keeps
    exact fresh _ pending
  waiting {i w} pending := by
    obtain ⟨rfl, -⟩ | pending := by simpa using pending
    · exact ⟨p, post, free, busy⟩
    · exact h.waiting pending
  idle := h.idle
  links linked := h.links (Stage.linked_keepWatch.1 linked)

theorem beginObserving {m : Mounted (Spy Hearer)} (h : Kept s ts) (found : s.spies[n]? = some m)
    (idle : m.part.phase = .idle) (d : Document Receiver) :
    Kept (s.setSpy n (Session.beginObserving m.part d)) (.keepWatch n none :: ts) := by
  have begun : Kept (s.setSpy n (Session.beginObserving m.part d)) ts := h.setSpy found rfl nofun
  have none : m.part.watch = none := h.idle (Stage.post?_of_found found) idle
  exact begun.wait ((Stage.post?_setSpy found n).trans (if_pos rfl)) none nofun fun w ↦
    h.not_waiting found (.inl idle)

section Observe

variable {d : Document Receiver} {owner : Receiver} {ids : List String} {band : Band}

theorem sound_observe {i : Nat} {r : Subscribers Receiver} (h : Kept s ts)
    (found : s.documents[i]? = some d)
    (register : (s.setDocument i (d.observe owner ids band)).register? k = some r) : r.Sound := by
  rw [Stage.register?_setDocument found] at register
  split at register
  · cases register
    rw [Document.registered_observe]
    exact (h.sound (Stage.register?_of_found found)).add _
  · exact h.sound register

theorem links_observe {i t : Nat} (found : s.documents[i]? = some d) (issued : s.Issued k t)
    (free : ∀ n, ¬ s.Registered k t n) : (s.setDocument i (d.observe owner ids band)).Issued k t ∧
      ∀ n, ¬ (s.setDocument i (d.observe owner ids band)).Registered k t n := by
  refine ⟨(Stage.issued_observe found owner ids band).2 (.inl issued), fun n registered ↦ ?_⟩
  obtain registered | ⟨rfl, rfl, -⟩ := (Stage.registered_observe found owner ids band).1 registered
  · exact free n registered
  · obtain ⟨r, register, below⟩ := issued
    obtain rfl := Option.some.inj ((Stage.register?_of_found found).symm.trans register)
    exact Nat.lt_irrefl _ below

theorem observe {i : Nat} {m : Mounted (Spy Hearer)} (h : Kept s (.keepWatch n none :: ts))
    (spy : s.spies[n]? = some m) (document : m.document = i) (found : s.documents[i]? = some d) :
    Kept (s.setDocument i (d.observe (.spy n) ids band))
    (.keepWatch n (some d.nextToken) :: ts) where
  sound := h.sound_observe found
  exact {k t j} := by
    have posts : (s.setDocument i (d.observe (.spy n) ids band)).Holds
      (.keepWatch n (some d.nextToken) :: ts) k t j ↔
      s.Holds (.keepWatch n (some d.nextToken) :: ts) k t j := .rfl
    rw [Stage.registered_observe found, h.exact, posts]
    by_cases same : j = n
    · subst j
      simp only [Stage.holds_of_found spy, List.mem_cons, Errand.keepWatch.injEq, reduceCtorEq]
      grind
    · simp [Stage.Holds, same, Ne.symm same]
  once := h.once
  waiting {i w} pending := by
    obtain ⟨rfl, -⟩ | pending := by simpa using pending
    · exact h.waiting (.head _)
    · exact h.waiting (.tail _ pending)
  idle := h.idle
  links {link} linked := by
    have linked : s.Linked (.keepWatch n none :: ts) link :=
      Stage.linked_keepWatch.2 (Stage.linked_keepWatch.1 linked)
    obtain ⟨issued, free⟩ := h.links linked
    exact links_observe found issued free

theorem watch {i probe : Nat} (h : Kept s ts) (found : s.documents[i]? = some d) (name : String) :
    Kept (s.setDocument i (d.observe (.probe probe) ids band))
    (.keepHandle name ⟨i, d.nextToken⟩ :: ts) where
  sound := h.sound_observe found
  exact {k t n} := by
    rw [Stage.registered_observe found, h.exact]
    simp [Stage.Holds, Stage.post?, Stage.setDocument]
  once := h.once
  waiting pending := h.waiting (by simpa using pending)
  idle := h.idle
  links {link} linked := by
    have linked : s.Linked (.keepHandle name ⟨i, d.nextToken⟩ :: ts) link := linked
    obtain rfl | linked := Stage.linked_keepHandle.1 linked
    · refine ⟨(Stage.issued_observe found _ ids band).2 (.inr ⟨rfl, rfl⟩), fun n registered ↦ ?_⟩
      obtain ⟨r, register, member⟩ | ⟨-, -, other⟩ :=
        (Stage.registered_observe found _ ids band).1 registered
      · obtain rfl := Option.some.inj ((Stage.register?_of_found found).symm.trans register)
        exact Nat.lt_irrefl _ ((h.sound register).below _ member)
      · cases other
    · obtain ⟨issued, free⟩ := h.links linked
      exact links_observe found issued free

end Observe

theorem keepWatch {w : Option Nat} (h : Kept s (.keepWatch n w :: ts)) :
    Kept (s.keepWatch n w) ts := by
  obtain ⟨p, post, free, busy⟩ := h.waiting (.head _)
  obtain ⟨m, found, rfl⟩ := Option.map_eq_some_iff.1 post
  have last {w : Option Nat} : .keepWatch n w ∉ ts := by
    intro pending
    exact (List.nodup_cons.1 h.once).1 (List.mem_filterMap.2 ⟨_, pending, rfl⟩)
  rw [Stage.keepWatch, found]
  exact {
    sound := h.sound
    exact := fun {k t i} ↦ by
      refine h.exact.trans ?_
      rw [Stage.holds_setSpy found]
      split
      · subst i
        have free : m.part.watch = none := free
        simp [Stage.holds_of_found found, free, last, eq_comm]
      · rename_i other
        simp [Stage.Holds, other]
    once := (List.nodup_cons.1 h.once).2
    waiting := fun {i w} pending ↦ by
      rw [Stage.post?_setSpy found]
      split
      · subst i
        exact absurd pending last
      · exact h.waiting (.tail _ pending)
    idle := fun {i p} post' idle ↦ by
      rw [Stage.post?_setSpy found] at post'
      split at post'
      · cases post'
        exact absurd idle busy
      · exact h.idle post' idle
    links := fun linked ↦ h.links (Stage.linked_keepWatch.2 linked) }

theorem openPage (h : Kept s ts) (page : Blueprint) : Kept (s.openPage page) ts := by
  have none : s.register? s.documents.length = none := by simp [Stage.register?]
  have registered {k t n : Nat} : (s.openPage page).Registered k t n ↔ s.Registered k t n := by
    simp only [Stage.Registered, Stage.register?_openPage]
    by_cases last : k = s.documents.length <;> simp [last, none]
  have issued {k t : Nat} (issued : s.Issued k t) : (s.openPage page).Issued k t := by
    obtain ⟨r, register, below⟩ := issued
    have old : k ≠ s.documents.length := by
      rintro rfl
      simp [none] at register
    exact ⟨r, by rwa [Stage.register?_openPage, if_neg old], below⟩
  exact {
    sound := fun {k r} register ↦ by
      rw [Stage.register?_openPage] at register
      split at register
      · cases register
        exact Subscribers.sound_empty
      · exact h.sound register
    exact := registered.trans h.exact
    once := h.once
    waiting := h.waiting
    idle := h.idle
    links := fun linked ↦
      ⟨issued (h.links linked).1, fun n old ↦ (h.links linked).2 n (registered.1 old)⟩ }

theorem addSpy {m : Mounted (Spy Hearer)} (h : Kept s ts) (none : m.part.watch = none) :
    Kept { s with spies := s.spies ++ [m] } ts := by
  have absent : s.post? s.spies.length = Option.none := by simp [Stage.post?]
  have fresh (w : Option Nat) : .keepWatch s.spies.length w ∉ ts := by
    intro pending
    obtain ⟨p, post, -⟩ := h.waiting pending
    simp [absent] at post
  have holds {k t i : Nat} : ({ s with spies := s.spies ++ [m] } : Stage).Holds ts k t i ↔
    s.Holds ts k t i := by
    simp only [Stage.Holds, Stage.post?_addSpy]
    by_cases last : i = s.spies.length
    · simp [last, absent, Mounted.post, none, fresh]
    · simp [last]
  exact {
    sound := h.sound
    exact := h.exact.trans holds.symm
    once := h.once
    waiting := fun {i w} pending ↦ by
      have old : i ≠ s.spies.length := by
        rintro rfl
        exact fresh w pending
      rw [Stage.post?_addSpy, if_neg old]
      exact h.waiting pending
    idle := fun {i p} post idle' ↦ by
      rw [Stage.post?_addSpy] at post
      split at post
      · cases post
        exact none
      · exact h.idle post idle'
    links := h.links }

theorem reclaimOld (h : Kept s ts) (o : Option Object) : Kept (s.reclaimOld o) ts :=
  Stage.reclaimOld_ind (P := fun s ↦ Kept s ts) h (fun h ↦ h.frame (fun _ ↦ rfl) (fun _ ↦ rfl) rfl)
    (fun h ↦ h.frame (fun _ ↦ rfl) (fun _ ↦ rfl) rfl) fun _ k _ _ _ ↦ h.disposeSpy k

theorem reclaim (h : Kept s ts) (o : Object) : Kept (s.reclaim o) ts := h.reclaimOld (some o)

theorem releaseMenu (h : Kept s ts) (n : Nat) : Kept (s.releaseMenu n) ts :=
  Stage.releaseMenu_ind (P := fun s ↦ Kept s ts) h (fun h ↦ h.frame (fun _ ↦ rfl) (fun _ ↦ rfl) rfl)
    (fun h ↦ h.frame (fun _ ↦ rfl) (fun _ ↦ rfl) rfl) fun k _ ↦ h.disposeSpy k

theorem setDocument {d d' : Document Receiver} (h : Kept s ts) (found : s.documents[k]? = some d)
    (same : d'.registered = d.registered) : Kept (s.setDocument k d') ts := by
  refine h.frame (fun i ↦ ?_) (fun _ ↦ rfl) rfl
  rw [Stage.register?_setDocument found]
  split
  · rename_i here
    rw [here, same, Stage.register?_of_found found]
  · rfl

/-- The watch that a handle stood for is released when the handle is given another link. -/
theorem rename {handles : Table (Option Link)} {link : Option Link} (h : Kept s ts)
    (links : ∀ l, Stage.Linked { s with names := { s.names with handles } } ts' l → s.Linked ts l)
    (same : ∀ n w, .keepWatch n w ∈ ts' ↔ .keepWatch n w ∈ ts)
    (once : ts'.filterMap Errand.keeper? = ts.filterMap Errand.keeper?)
    (old : ∀ l, link = some l → s.Linked ts l) :
    Kept (Stage.disconnect { s with names := { s.names with handles } } link) ts' := by
  have renamed : Kept { s with names := { s.names with handles } } ts' :=
    h.relink (fun _ ↦ rfl) (fun _ ↦ rfl) links same once
  exact renamed.disconnect fun l given ↦ (h.links (old l given)).2

theorem linked_old {name : String} {l : Link}
    (given : (s.names.handles.get? name).getD none = some l) :
    s.Linked ts l := by
  cases named : s.names.handles.get? name with
  | none => simp [named] at given
  | some link => exact .inl ⟨name, by rw [named]; simpa [named] using given⟩

theorem nameHandle {name : String} {link : Option Link} (h : Kept s ts)
    (linked : ∀ l, link = some l → s.Linked ts l)
    (same : ∀ n w, .keepWatch n w ∈ ts' ↔ .keepWatch n w ∈ ts)
    (once : ts'.filterMap Errand.keeper? = ts.filterMap Errand.keeper?)
    (fewer : ∀ t ∈ ts', t ∈ ts) :
    Kept (s.nameHandle name link) ts' := by
  refine h.rename (fun l given ↦ ?_) same once fun l given ↦ linked_old given
  obtain ⟨other, given⟩ | ⟨other, pending⟩ := given
  · rw [Table.get?_insert] at given
    split at given
    · exact linked l (Option.some.inj given)
    · exact .inl ⟨other, given⟩
  · exact .inr ⟨other, fewer _ pending⟩

theorem dropHandle {name : String} {link : Option Link} (h : Kept s ts)
    (named : s.names.handles.get? name = some link) : Kept (s.dropHandle name link) ts := by
  refine h.rename (fun l given ↦ ?_) (fun _ _ ↦ .rfl) rfl fun l given ↦ .inl ⟨name, given ▸ named⟩
  obtain ⟨other, given⟩ | pending := given
  · rw [Table.get?_erase] at given
    split at given
    · cases given
    · exact .inl ⟨other, given⟩
  · exact .inr pending

theorem nameMenu (h : Kept s ts) (name : String) (n : Nat) : Kept (s.nameMenu name n) ts := by
  refine Kept.reclaimOld ?_ _
  exact h.frame (fun _ ↦ rfl) (fun _ ↦ rfl) rfl

theorem edit {may : Stage → Job → Prop} (h : Kept s (keepings ts)) (e : Edit may s ts s' ts') :
    Kept s' (keepings ts') := by
  have apart {s' : Stage} (documents : s'.documents = s.documents) (spies : s'.spies = s.spies)
      (handles : s'.names.handles = s.names.handles) : Kept s' (keepings ts) :=
    h.frame (fun _ ↦ by rw [Stage.register?, documents, Stage.register?])
      (fun _ ↦ by rw [Stage.post?, spies, Stage.post?]) handles
  cases e with
  | @skip t _ idle =>
    have other : t.isKeeping = false := by cases t <;> simp_all [Errand.isIdle, Errand.isKeeping]
    exact keepings_cons other ▸ h
  | @push t _ free =>
    have other : t.isKeeping = false := by cases t <;> simp_all [Errand.isFree, Errand.isKeeping]
    exact (keepings_cons other).symm ▸ h
  | animate | handOn | passOn | deaf | unseen => exact h
  | amend found alike => exact h.setDocument found alike.registered
  | inform found alike =>
    rw [keepings_handAll]
    exact h.setDocument found (Document.registered_inform.trans alike.registered)
  | emit => rwa [keepings_handAll]
  | openPage page => exact h.openPage page
  | faults | createStore | subscribeStore | dropStore | createScroller | listenMenu | hold
  | tellMenu | redraw =>
    exact apart rfl rfl rfl
  | setOpen =>
    rw [keepings_append (by split <;> simp [Errand.isKeeping])]
    exact apart rfl rfl rfl
  | watch found probe name ids band =>
    rw [keepings_handFirst]
    exact h.watch found name
  | @keepHandle _ name link =>
    have pending : .keepHandle name link ∈ keepings (.keepHandle name link :: ts') := .head _
    refine Kept.nameHandle h ?_ ?_ rfl fun t member ↦ .tail _ member
    · rintro l ⟨rfl⟩
      exact .inr ⟨name, pending⟩
    · intro n w
      simp [keepings, Errand.isKeeping]
  | freeHandle name => exact h.nameHandle nofun (fun _ _ ↦ .rfl) rfl fun _ member ↦ member
  | dropHandle named => exact h.dropHandle named
  | adopt =>
    rw [keepings_tellAll]
    exact apart rfl rfl rfl
  | unsubscribeStore =>
    unfold Stage.unsubscribeStore
    split
    · exact h
    · exact apart rfl rfl rfl
  | createSpy =>
    refine Kept.reclaimOld ?_ _
    exact (h.addSpy rfl).frame (fun _ ↦ rfl) (fun _ ↦ rfl) rfl
  | @observe _ n m d found document idle =>
    rw [keepings_handFirst]
    have begun := h.beginObserving found idle d
    have spy : (s.setSpy n (Session.beginObserving m.part d)).spies[n]? =
      some { m with part := Session.beginObserving m.part d } :=
        (Stage.getElem?_setSpy found n).trans (if_pos rfl)
    exact begun.observe spy rfl document
  | observeNothing found document idle =>
    exact (h.beginObserving found idle _).setDocument document rfl
  | keepWatch => exact Kept.keepWatch h
  | disposeSpy => exact h.disposeSpy _
  | subscribeSpy found => exact h.setSpy found rfl id
  | unsubscribeSpy found => exact h.setSpy found rfl id
  | receive found moved =>
    obtain ⟨-, id, -, -, rfl⟩ := Spy.receive?_eq_some moved
    rw [keepings_tellAll]
    exact h.setSpy found rfl fun idle ↦ idle
  | dropSpy | dropMenu | letGo =>
    refine Kept.reclaim ?_ _
    exact apart rfl rfl rfl
  | createMenu =>
    refine Kept.nameMenu ?_ _ _
    exact (h.addSpy rfl).frame (fun _ ↦ rfl) (fun _ ↦ rfl) rfl
  | createBare =>
    refine Kept.nameMenu ?_ _ _
    exact apart rfl rfl rfl
  | shareMenu => exact h.nameMenu _ _
  | disposeMenu => exact h.releaseMenu _

end Kept

theorem kept_opened (page : Blueprint) : Kept { documents := [page.build] } [] := by
  have empty : Kept { documents := [] } [] := {
    sound := nofun
    exact := ⟨nofun, nofun⟩
    once := .nil
    waiting := nofun
    idle := nofun
    links := nofun }
  exact empty.openPage page

theorem History.kept {may : Stage → Step → Prop} {past : List Move} {m : Machine} {jobs : List Job}
    (run : History may past m jobs) : Kept m.stage (keepings (errandsOf jobs)) :=
  run.keeps (I := fun s ts ↦ Kept s (keepings ts)) kept_opened fun e h ↦ h.edit e

end Session

end Wayfinder
