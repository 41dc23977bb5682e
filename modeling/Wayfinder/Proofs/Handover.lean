import Wayfinder.Proofs.Notices

namespace Wayfinder.Session

def Errand.upon (n : Nat) (spy : Spy Hearer) : Errand → Spy Hearer
  | .hand (.spy k) batch => if k = n then (spy.receive? batch).getD spy else spy
  | .keepWatch k watch => if k = n then { spy with watch } else spy
  | _ => spy

def Mounted.carried (n : Nat) (ts : List Errand) (m : Mounted (Spy Hearer)) :
    Mounted (Spy Hearer) :=
  { m with part := ts.foldl (Errand.upon n) m.part }

/-- The errand neither scrolls a document nor begins or names a watch, and lets go only of what goes
by a name. -/
def Stage.isLight (s : Stage) : Errand → Bool
  | .frames _ _ | .observe _ | .keepHandle _ _ => false
  | .letGo o => s.isNamed o
  | _ => true

def Stage.MenusNamed (s : Stage) : Prop :=
  ∀ (i : Nat) (m : Menu), s.menus[i]? = some m → m.alive → s.isNamed (.menu i)

/-- Documents, names and what menus go over stay, and each spy becomes what the errands make of
it. -/
structure Carries (ts : List Errand) (s s' : Stage) : Prop where
  documents : s'.documents = s.documents
  current : s'.current = s.current
  names : s'.names = s.names
  faults : s'.faults = s.faults
  spies : ∀ n, s'.spies[n]? = s.spies[n]?.map (Mounted.carried n ts)
  contents : ∀ i : Nat, s'.menus[i]?.map Menu.contents = s.menus[i]?.map Menu.contents

variable {s s' s'' : Stage} {t : Errand} {ts ts' : List Errand} {n : Nat}

namespace Stage

theorem MenusNamed.congr (h : s.MenusNamed) (menus : s'.menus = s.menus)
    (names : s'.names = s.names) : s'.MenusNamed := by
  intro i m found alive
  rw [isNamed_congr names]
  exact h i m (menus ▸ found) alive

theorem MenusNamed.setMenu {m m' : Menu} (h : s.MenusNamed) (found : s.menus[n]? = some m)
    (alive : m'.alive = m.alive) :
    (s.setMenu n m').MenusNamed := by
  intro i m₁ found₁ alive₁
  rw [getElem?_setMenu found] at found₁
  split at found₁
  · subst i
    cases found₁
    exact h n m found (alive ▸ alive₁)
  · exact h i m₁ found₁ alive₁

theorem contents_setMenu {m m' : Menu} (found : s.menus[n]? = some m)
    (contents : m'.contents = m.contents) (i : Nat) :
    (s.setMenu n m').menus[i]?.map Menu.contents = s.menus[i]?.map Menu.contents := by
  rw [getElem?_setMenu found]
  split
  · subst i
    rw [found, Option.map_some, Option.map_some, contents]
  · rfl

theorem isLight_congr (names : s'.names = s.names) (t : Errand) : s'.isLight t = s.isLight t := by
  cases t with
  | letGo o => exact isNamed_congr names o
  | _ => rfl

theorem isLight_tellAll {hearers : List Hearer} {news : Notice} :
    ∀ t ∈ tellAll hearers news, s.isLight t := by
  simp [tellAll, isLight]

end Stage

theorem carried_of_idle (idle : ∀ spy, t.upon n spy = spy) : Mounted.carried n [t] = id := by
  funext m
  simp [Mounted.carried, idle]

namespace Carries

theorem of_same (documents : s'.documents = s.documents) (current : s'.current = s.current)
    (names : s'.names = s.names) (faults : s'.faults = s.faults) (spies : s'.spies = s.spies)
    (contents : ∀ i : Nat, s'.menus[i]?.map Menu.contents = s.menus[i]?.map Menu.contents)
    (idle : ∀ n spy, t.upon n spy = spy) : Carries [t] s s' where
  documents := documents
  current := current
  names := names
  faults := faults
  spies n := by rw [spies, carried_of_idle (idle n), Option.map_id, id]
  contents := contents

theorem trans (first : Carries ts s s') (next : Carries ts' s' s'') :
    Carries (ts ++ ts') s s'' where
  documents := next.documents.trans first.documents
  current := next.current.trans first.current
  names := next.names.trans first.names
  faults := next.faults.trans first.faults
  spies n := by
    rw [next.spies, first.spies, Option.map_map]
    congr 1
    funext m
    simp [Mounted.carried, List.foldl_append]
  contents i := (next.contents i).trans (first.contents i)

section Own

variable (own : ∀ i spy, n ≠ i → t.upon i spy = spy)
include own

theorem setSpy {m : Mounted (Spy Hearer)} (found : s.spies[n]? = some m) :
    Carries [t] s (s.setSpy n (t.upon n m.part)) where
  documents := rfl
  current := rfl
  names := rfl
  faults := rfl
  spies i := by
    rw [Stage.getElem?_setSpy found]
    split
    · subst i
      rw [found]
      rfl
    · rename_i other
      rw [carried_of_idle fun spy ↦ own i spy (Ne.symm other), Option.map_id, id]
  contents _ := rfl

theorem absent (absent : s.spies[n]? = none) : Carries [t] s s where
  documents := rfl
  current := rfl
  names := rfl
  faults := rfl
  spies i := by
    by_cases same : n = i
    · rw [← same, absent, Option.map_none]
    · rw [carried_of_idle fun spy ↦ own i spy same, Option.map_id, id]
  contents _ := rfl

end Own

end Carries

theorem upon_tellAll {hearers : List Hearer} {news : Notice} :
    ∀ t ∈ tellAll hearers news, ∀ n spy, t.upon n spy = spy := by
  intro t member n spy
  obtain ⟨hearer, -, rfl⟩ := List.mem_map.1 member
  rfl

theorem foldl_upon (idle : ∀ t ∈ ts, ∀ n spy, t.upon n spy = spy) (n : Nat) (spy : Spy Hearer) :
    ts.foldl (Errand.upon n) spy = spy := by
  induction ts with
  | nil => rfl
  | cons t ts ih =>
    rw [List.foldl_cons, idle t (.head _)]
    exact ih fun t member ↦ idle t (.tail _ member)

structure CarriesOne (t : Errand) (s : Stage) (p : Progress) : Prop where
  carries : Carries [t] s p.stage
  menusNamed : p.stage.MenusNamed
  light : ∀ t' ∈ p.errands, s.isLight t'
  idle : ∀ t' ∈ p.errands, ∀ n spy, t'.upon n spy = spy

namespace CarriesOne

theorem nothing (menusNamed : s.MenusNamed)
    (idle : ∀ n spy, t.upon n spy = spy) : CarriesOne t s { stage := s } where
  carries := .of_same rfl rfl rfl rfl rfl (fun _ ↦ rfl) idle
  menusNamed := menusNamed
  light := by simp
  idle := by simp

theorem hand {batch : List Entry} (menusNamed : s.MenusNamed) :
    CarriesOne (.hand (.spy n) batch) s (s.handSpy n batch) := by
  have own (i : Nat) (spy : Spy Hearer) (other : n ≠ i) :
      (Errand.hand (.spy n) batch).upon i spy = spy :=
    if_neg other
  unfold Stage.handSpy
  split
  · rename_i unmoved
    cases found : s.spies[n]? with
    | none => exact ⟨.absent own found, menusNamed, by simp, by simp⟩
    | some m =>
      rw [found, Option.bind_some] at unmoved
      refine ⟨?_, menusNamed, by simp, by simp⟩
      have stays : s.setSpy n ((Errand.hand (.spy n) batch).upon n m.part) = s := by
        rw [Errand.upon, if_pos rfl, unmoved, Option.getD_none, Stage.setSpy_self found]
      have carried := Carries.setSpy own found
      rwa [stays] at carried
  · rename_i spy moved
    obtain ⟨m, found, received⟩ := Option.bind_eq_some_iff.1 moved
    have carried := Carries.setSpy own found
    rw [Errand.upon, if_pos rfl, received, Option.getD_some] at carried
    exact ⟨carried, menusNamed.congr rfl rfl, Stage.isLight_tellAll, upon_tellAll⟩

theorem tell {i : Nat} {news : Notice} (menusNamed : s.MenusNamed) :
    CarriesOne (.tell (.menu i) news) s (s.tellMenu i) := by
  unfold Stage.tellMenu
  split
  · exact nothing menusNamed fun _ _ ↦ rfl
  · rename_i m found
    split
    · rename_i alive
      refine ⟨.of_same rfl rfl rfl rfl rfl (fun _ ↦ rfl) fun _ _ ↦ rfl,
        menusNamed.congr rfl rfl, ?_, ?_⟩
      · simp [Stage.isLight, menusNamed i m found alive]
      · simp [Errand.upon]
    · exact nothing menusNamed fun _ _ ↦ rfl

theorem redraw {i : Nat} (menusNamed : s.MenusNamed) :
    CarriesOne (.redraw i) s (s.redrawMenu i) := by
  unfold Stage.redrawMenu
  split
  · exact nothing menusNamed fun _ _ ↦ rfl
  · rename_i m found
    split
    · exact nothing menusNamed fun _ _ ↦ rfl
    · refine ⟨.of_same rfl rfl rfl rfl rfl (Stage.contents_setMenu found rfl) fun _ _ ↦ rfl,
        menusNamed.setMenu found rfl, ?_, ?_⟩
      · simp [Stage.isLight]
      · simp [Errand.upon]

theorem keepWatch {watch : Option Nat} (menusNamed : s.MenusNamed) :
    CarriesOne (.keepWatch n watch) s { stage := s.keepWatch n watch } := by
  have own (i : Nat) (spy : Spy Hearer) (other : n ≠ i) :
      (Errand.keepWatch n watch).upon i spy = spy :=
    if_neg other
  unfold Stage.keepWatch
  split
  · exact ⟨.absent own ‹_›, menusNamed, by simp, by simp⟩
  · rename_i m found
    have carried := Carries.setSpy own found
    rw [Errand.upon, if_pos rfl] at carried
    exact ⟨carried, menusNamed.congr rfl rfl, by simp, by simp⟩

theorem letGo {o : Object} (menusNamed : s.MenusNamed)
    (named : s.isNamed o) : CarriesOne (.letGo o) s { stage := s.letGo o } := by
  have kept : s.letGo o = { s with inUse := s.inUse.erase o } := by
    refine if_pos ?_
    rw [Stage.isHeld, Bool.or_eq_true]
    left
    cases o <;> exact named
  rw [kept]
  exact ⟨.of_same rfl rfl rfl rfl rfl (fun _ ↦ rfl) fun _ _ ↦ rfl, menusNamed.congr rfl rfl, by
    simp, by simp⟩

theorem carry (menusNamed : s.MenusNamed) (light : s.isLight t) : CarriesOne t s (s.carry t) := by
  cases t with
  | frames | observe | keepHandle => cases light
  | hand receiver batch =>
    cases receiver with
    | probe p =>
      exact ⟨.of_same rfl rfl rfl rfl rfl (fun _ ↦ rfl) fun _ _ ↦ rfl, menusNamed, by
        simp [Stage.carry, Stage.isLight], by simp [Stage.carry, Errand.upon]⟩
    | spy k => exact hand menusNamed
  | tell hearer news =>
    cases hearer with
    | probe p =>
      exact ⟨.of_same rfl rfl rfl rfl rfl (fun _ ↦ rfl) fun _ _ ↦ rfl, menusNamed, by
        simp [Stage.carry, Stage.isLight], by simp [Stage.carry, Errand.upon]⟩
    | menu i => exact tell menusNamed
  | redraw i => exact redraw menusNamed
  | call p notice => exact nothing menusNamed fun _ _ ↦ rfl
  | keepWatch k watch => exact keepWatch menusNamed
  | letGo o => exact letGo menusNamed light

end CarriesOne

/-- A round of light errands, and all that follow from them. -/
theorem Machine.Inert.carries {m : Machine} (inert : m.Inert) (menusNamed : m.stage.MenusNamed)
    (light : ∀ t ∈ ts, m.stage.isLight t) :
    Carries ts m.stage (m.run (ts.map .errand)).stage ∧ (m.run (ts.map .errand)).stage.MenusNamed ∧
      (m.run (ts.map .errand)).Inert := by
  generalize same : ts.map Job.errand = jobs
  induction m, jobs using Machine.run.induct generalizing ts with
  | case1 m =>
    obtain rfl := List.map_eq_nil_iff.1 same
    rw [Machine.run_nil]
    have none (n : Nat) : Mounted.carried n [] = id := rfl
    exact ⟨⟨rfl, rfl, rfl, rfl, fun n ↦ by rw [none, Option.map_id, id], fun _ ↦ rfl⟩,
      menusNamed, inert⟩
  | case2 m j jobs ih =>
    obtain ⟨t, ts, rfl, rfl, rfl⟩ := List.map_eq_cons_iff.1 same
    obtain ⟨stage, follow, inert⟩ := inert.advance t
    obtain ⟨carries, menusNamed, new, idle⟩ := CarriesOne.carry menusNamed (light t (.head _))
    rw [← stage] at carries menusNamed
    have later : ∀ t' ∈ (m.stage.carry t).errands ++ ts,
        (m.advance (.errand t)).1.stage.isLight t' := by
      intro t' member
      rw [Stage.isLight_congr carries.names]
      obtain member | member := List.mem_append.1 member
      · exact new t' member
      · exact light t' (.tail _ member)
    obtain ⟨rest, menusNamed, inert⟩ := ih inert menusNamed later (by rw [follow, List.map_append])
    rw [Machine.run_cons]
    refine ⟨?_, menusNamed, inert⟩
    have whole := carries.trans rest
    refine { whole with spies := fun n ↦ ?_ }
    rw [whole.spies]
    congr 1
    funext m
    simp only [Mounted.carried, List.foldl_append, List.foldl_cons, List.foldl_nil, foldl_upon idle]

theorem History.menusNamed {may : Stage → Step → Prop} {past : List Move} {m : Machine}
    (run : History may past m []) :
    m.stage.MenusNamed :=
  fun _ _ found alive ↦ run.named_of_alive found alive

end Wayfinder.Session
