import Wayfinder.Proofs.Commands
import Wayfinder.Proofs.Glide

namespace Wayfinder

open Float.Model (UnpackedFloat)

theorem Proper.isFinite_iff {u : UnpackedFloat} (h : Proper u) :
    u.isFinite ↔ |worth u| < limit := by
  cases h with
  | infinity s =>
    have large : ¬ |worth (.infinity s)| < limit := by
      rw [worth_infinity, abs_signed, abs_of_pos excess_pos]
      linarith [limit_pos, two_mul_limit_lt_excess]
    exact iff_of_false Bool.false_ne_true large
  | zero s => exact iff_of_true rfl (by rw [worth_zero, abs_zero]; exact limit_pos)
  | @finite s m e pos tidy fits =>
    refine iff_of_true rfl ?_
    rw [worth_finite, abs_signed, abs_of_pos (size_pos pos e)]
    exact tidy.size_lt_limit fits

namespace Length

variable {x y : Length}

theorem isFinite_iff : x.isFinite ↔ x.isNaN = false ∧ |x.value| < limit := by
  obtain ⟨nan, unpacked⟩ | ⟨number, proper⟩ := x.eq_notANumber_or_proper
  · have infinite : x.isFinite = false := congrArg UnpackedFloat.isFinite unpacked
    rw [infinite, nan]
    simp
  · rw [and_iff_right number]
    exact proper.isFinite_iff

theorem isFinite_of_le (nonneg : 0 ≤ x) (le : x ≤ y) (finite : y.isFinite) : x.isFinite := by
  obtain ⟨hx, hy⟩ := number_of_le le
  rw [isFinite_iff, abs_of_nonneg (value_nonneg nonneg)]
  refine ⟨hx, ?_⟩
  calc x.value ≤ y.value := (le_iff hx hy).1 le
    _ ≤ |y.value| := le_abs_self _
    _ < limit := (isFinite_iff.1 finite).2

theorem number_add (finite : x.isFinite) (hy : y.isNaN = false) : (x + y).isNaN = false := by
  obtain ⟨hx, small⟩ := isFinite_iff.1 finite
  obtain ⟨infinite, -, -⟩ | ⟨-, number, -⟩ := add_spec hx hy
  · linarith [limit_pos, two_mul_limit_lt_excess]
  · exact number

theorem number_sub (finite : x.isFinite) (hy : y.isNaN = false) : (x - y).isNaN = false := by
  rw [sub_eq_add]
  apply number_add finite
  have opposite : (-y).isNaN = y.toModel.unpack.neg.isNaN :=
    congrArg UnpackedFloat.isNaN (unpack_neg y)
  rw [opposite]
  exact (proper hy).neg.1.isNaN

theorem number_mul (finite : x.isFinite) (finite' : y.isFinite) : (x * y).isNaN = false := by
  have bounded {z : Length} {s : UnpackedFloat.Sign} (finite : z.isFinite) :
      z.toModel.unpack ≠ .infinity s := by
    intro infinite
    have finite : z.toModel.unpack.isFinite = true := finite
    rw [infinite] at finite
    cases finite
  have stored :=
    (proper (isFinite_iff.1 finite).1).mul (proper (isFinite_iff.1 finite').1) fun s t ↦
    ⟨fun infinite ↦ absurd infinite (bounded finite), fun _ ↦ bounded finite'⟩
  exact stored.proper.isNaN

/-- The way between two places on a page is no longer than the way from its top to one of them. -/
theorem isFinite_sub (low : 0 ≤ x) (low' : 0 ≤ y) (finite : x.isFinite) (finite' : y.isFinite) :
    (x - y).isFinite := by
  obtain ⟨hx, small⟩ := isFinite_iff.1 finite
  obtain ⟨hy, small'⟩ := isFinite_iff.1 finite'
  have number := number_sub finite hy
  have nonneg := value_nonneg low
  have nonneg' := value_nonneg low'
  have above : fitted (x.value - y.value) ≤ x.value := by
    calc fitted (x.value - y.value) ≤ fitted x.value := fitted_mono (by linarith)
      _ = x.value := fitted_value hx
  have below : -y.value ≤ fitted (x.value - y.value) := by
    calc -y.value = fitted (-y.value) := by rw [fitted_neg, fitted_value hy]
      _ ≤ fitted (x.value - y.value) := fitted_mono (by linarith)
  rw [isFinite_iff, value_sub number, abs_lt]
  rw [abs_of_nonneg nonneg] at small
  rw [abs_of_nonneg nonneg'] at small'
  exact ⟨number, by linarith, by linarith⟩

theorem number_strided (low : 0 ≤ x) (low' : 0 ≤ y) (finite : x.isFinite) (finite' : y.isFinite) :
    (strided x y).isNaN = false :=
  number_add finite (number_mul (isFinite_sub low' low finite' finite) (by decide))

end Length

namespace Page

variable {p : Page} {x y : Length}

/-- The place is finite and on the page. -/
structure FiniteInRange (p : Page) (y : Length) : Prop where
  finite : y.isFinite
  low : 0 ≤ y
  high : y ≤ p.maxScroll

theorem finiteInRange_zero (p : Page) : p.FiniteInRange 0 where
  finite := by decide
  low := Length.le_refl rfl
  high := p.maxScroll_nonneg

theorem finiteInRange_clampScroll (p : Page) (finite : y.isFinite) :
    p.FiniteInRange (p.clampScroll y) := by
  obtain ⟨number, small⟩ := Length.isFinite_iff.1 finite
  obtain ⟨number', value⟩ := p.value_clampScroll number
  obtain ⟨low, high⟩ := p.inRange_clampScroll y number'
  have nonneg := Length.value_nonneg low
  refine ⟨Length.isFinite_iff.2 ⟨number', ?_⟩, low, high⟩
  rw [abs_of_nonneg nonneg, value]
  calc min (max y.value 0) p.maxScroll.value ≤ max y.value 0 := min_le_left _ _
    _ ≤ |y.value| := max_le (le_abs_self _) (abs_nonneg _)
    _ < limit := small

/-- A frame ends between where it begins and its target. -/
theorem FiniteInRange.strided (hx : p.FiniteInRange x) (hy : p.FiniteInRange y)
    (far : ¬ (y - x).abs ≤ Document.snap) :
    p.FiniteInRange (Length.strided x y) ∧
    (x ≤ y → x ≤ Length.strided x y ∧ Length.strided x y ≤ y) ∧
      (y ≤ x → y ≤ Length.strided x y ∧ Length.strided x y ≤ x) := by
  have number := Length.number_strided hx.low hy.low hx.finite hy.finite
  have down := Length.le_strided hx.low hy.low far number
  have up := Length.strided_le hy.low far number
  refine ⟨?_, down, up⟩
  obtain le | le :=
    Length.le_total (Length.isFinite_iff.1 hx.finite).1 (Length.isFinite_iff.1 hy.finite).1
  · obtain ⟨below, above⟩ := down le
    have low := Length.le_trans hx.low below
    exact ⟨Length.isFinite_of_le low above hy.finite, low, Length.le_trans above hy.high⟩
  · obtain ⟨below, above⟩ := up le
    have low := Length.le_trans hy.low below
    exact ⟨Length.isFinite_of_le low above hx.finite, low, Length.le_trans above hx.high⟩

end Page

namespace Document

variable {ω : Type} {d d' : Document ω} {c : Command} {t : Length}

theorem advanceFrame_of_target (target : d.target = some t) :
    d.advanceFrame.1.scrollY =
      (if (t - d.scrollY).abs ≤ snap then t else Length.strided d.scrollY t) ∧
      d.advanceFrame.1.target = if (t - d.scrollY).abs ≤ snap then none else some t := by
  by_cases near : (t - d.scrollY).abs ≤ snap
  · simp [advanceFrame, nextFrame?, inform, target, near]
  · simp [advanceFrame, nextFrame?, inform, target, near, Length.strided]

/-- The document stands at such a place, and so does the target of a smooth scroll. -/
structure FiniteInRange (d : Document ω) : Prop where
  offset : d.page.FiniteInRange d.scrollY
  target : ∀ t, d.target = some t → d.page.FiniteInRange t

namespace FiniteInRange

theorem alike (h : d.FiniteInRange) (page : d'.page = d.page) (alike : d.SteeredAlike d') :
    d'.FiniteInRange := by
  constructor
  · rw [page, alike.offset]
    exact h.offset
  · rw [page, alike.target]
    exact h.target

theorem obey (h : d.FiniteInRange) (finite : c.position.isFinite) : (d.obey c).FiniteInRange := by
  have there := d.page.finiteInRange_clampScroll finite
  constructor
  · rw [page_obey]
    cases c with
    | user y => exact there
    | request y animated =>
      cases animated with
      | true => exact h.offset
      | false => exact there
  · rw [page_obey, target_obey]
    intro t goal
    cases c with
    | user y => cases goal
    | request y animated =>
      cases animated with
      | true =>
        cases goal
        exact there
      | false => cases goal

theorem advanceFrame (h : d.FiniteInRange) :
    d.advanceFrame.1.FiniteInRange ∧ ∀ t, d.target = some t →
    (d.scrollY ≤ t → d.scrollY ≤ d.advanceFrame.1.scrollY ∧ d.advanceFrame.1.scrollY ≤ t) ∧
      (t ≤ d.scrollY → t ≤ d.advanceFrame.1.scrollY ∧ d.advanceFrame.1.scrollY ≤ d.scrollY) := by
  cases target : d.target with
  | none =>
    rw [advanceFrame_of_rest target]
    exact ⟨h, by simp⟩
  | some t =>
    have ahead := h.target t target
    obtain ⟨offset, rest⟩ := advanceFrame_of_target target
    have page := d.shifts_advanceFrame.page
    split at offset
    · rename_i near
      rw [if_pos near] at rest
      have number := (Length.isFinite_iff.1 ahead.finite).1
      refine ⟨⟨?_, ?_⟩, ?_⟩
      · rw [page, offset]
        exact ahead
      · rw [rest]
        simp
      · rintro _ ⟨⟩
        rw [offset]
        exact ⟨fun le ↦ ⟨le, Length.le_refl number⟩, fun le ↦ ⟨Length.le_refl number, le⟩⟩
    · rename_i far
      rw [if_neg far] at rest
      obtain ⟨bears, down, up⟩ := h.offset.strided ahead far
      refine ⟨⟨?_, ?_⟩, ?_⟩
      · rw [page, offset]
        exact bears
      · rw [page, rest, ← target]
        exact h.target
      · rintro _ ⟨⟩
        rw [offset]
        exact ⟨down, up⟩

end FiniteInRange

end Document

namespace Session

variable {may : Stage → Step → Prop} {m : Machine} {jobs : List Job} {past : List Move} {k : Nat}
  {d d' : Document Receiver}

/-- Whatever document `k` was told, the places were finite. -/
def FiniteCommands (past : List Move) (k : Nat) : Prop := ∀ e ∈ past, ∀ c, e.command? k = some c →
    c.position.isFinite

instance : Decidable (FiniteCommands past k) :=
  decidable_of_iff (∀ e ∈ past, (e.command? k).all (·.position.isFinite))
    (by simp only [FiniteCommands, Option.all_eq_true])

theorem History.finiteInRange (run : History may past m jobs)
    (found : m.stage.documents[k]? = some d) (commands : FiniteCommands past k) :
    d.FiniteInRange := by
  revert commands
  apply run.steer found
  · intro past d _ fresh _
    constructor
    · rw [fresh.1]
      exact d.page.finiteInRange_zero
    · rw [fresh.2.1]
      simp
  · intro past d d' e h found page alike commands
    obtain ⟨finite, earlier⟩ := List.forall_mem_cons.1 commands
    have before := h earlier
    have page' :=
      page.trans (Stage.page_steered (s := e.machine.stage) (k := k) (j := e.job) d).symm
    refine Document.FiniteInRange.alike ?_ page' alike
    unfold Stage.steered
    split
    · exact before.advanceFrame.1
    · cases told : e.machine.stage.tells? k d e.job with
      | none => exact before
      | some c =>
        apply before.obey (finite c _)
        rw [Move.command?, found, Option.bind_some, told]

/-- The viewport stays inside the document. Whatever the shape of a page, the range that places are
clamped to is one from nothing to a number. If all the places that the page was told to go to were
finite, then it is at a finite place within that range, and so is its target; and no frame goes past
the target. -/
theorem stays_on_page (run : History may past m jobs) (found : m.stage.documents[k]? = some d)
    (commands : FiniteCommands past k) :
    (d.page.maxScroll.isNaN = false ∧ 0 ≤ d.page.maxScroll) ∧
    (d.scrollY.isFinite ∧ 0 ≤ d.scrollY ∧ d.scrollY ≤ d.page.maxScroll) ∧
    (∀ t, d.target = some t → t.isFinite ∧ 0 ≤ t ∧ t ≤ d.page.maxScroll) ∧
    ∀ {j m' jobs' t}, Turn may m jobs j m' jobs' → m.stage.frames k j → d.target = some t →
      ∃ d', m'.stage.documents[k]? = some d' ∧
        (d.scrollY ≤ t → d.scrollY ≤ d'.scrollY ∧ d'.scrollY ≤ t) ∧
        (t ≤ d.scrollY → t ≤ d'.scrollY ∧ d'.scrollY ≤ d.scrollY) := by
  have finiteInRange := run.finiteInRange found commands
  refine ⟨⟨d.page.number_maxScroll, d.page.maxScroll_nonneg⟩, ?_, fun t target ↦ ?_, ?_⟩
  · exact ⟨finiteInRange.offset.finite, finiteInRange.offset.low, finiteInRange.offset.high⟩
  · obtain ⟨finite, low, high⟩ := finiteInRange.target t target
    exact ⟨finite, low, high⟩
  · intro j m' jobs' t turn frames target
    obtain ⟨d', found', -, alike⟩ := turn.document found
    rw [Stage.steered, if_pos frames] at alike
    refine ⟨d', found', ?_⟩
    rw [alike.offset]
    exact finiteInRange.advanceFrame.2 t target

def boundless : Blueprint where
  viewport := Float.nan
  furnishings := [.anchor "a" Float.nan 100, .anchor "b" (-Float.inf) 50, .height Float.inf]

def farAway : List Step :=
  [.page (.userScroll (-5)), .page (.userScroll 1e308), .page (.scrollTo (-1e308) true),
    .page .frame]

theorem stays_on_page_boundless : ∃ m past, ∃ d d' : Document Receiver,
    Machine.journal? 50 farAway (.opened boundless) [] = some (m, past) ∧
    m.stage.documents[0]? = some d ∧
      d.page.maxScroll = Float.inf ∧ d.target = some 0 ∧ FiniteCommands past 0 ∧
      d.scrollY.isFinite ∧ 0 ≤ d.scrollY ∧
      (m.take (.page .frame)).stage.documents[0]? = some d' ∧ 0 ≤ d'.scrollY ∧
      d'.scrollY ≤ d.scrollY := by
  have checked : ∃ r : Machine × List Move, r ∈ Machine.journal? 50 farAway (.opened boundless) [] ∧
      (∀ e ∈ r.2, Allows (fun _ _ ↦ True) e.machine.stage e.job) ∧
      FiniteCommands r.2 0 ∧ r.1.stage.current = 0 ∧
      ∃ d : Document Receiver, d ∈ r.1.stage.documents[0]? ∧ d.page.maxScroll = Float.inf ∧
        d.target = some 0 := by
    decide +kernel
  obtain ⟨⟨m, past⟩, kept, moves, commands, current, d, found, endless, target⟩ := checked
  have run := (History.opened boundless).journal kept moves
  obtain ⟨-, ⟨bounded, low, -⟩, -, frame⟩ := stays_on_page run found commands
  have turn : Turn (fun _ _ ↦ True) m [] (.act (.page .frame)) _ _ := .step trivial
  obtain ⟨d', found', -, up⟩ := frame turn (decide_eq_true current) target
  obtain ⟨below, above⟩ := up low
  exact ⟨m, past, d, d', kept, found, endless, target, commands, bounded, low, found', below, above⟩

end Session

end Wayfinder
