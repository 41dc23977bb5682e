import Wayfinder.Proofs.LengthArithmetic
import Wayfinder.Proofs.Traffic

namespace Wayfinder

namespace Length

variable {x y z : Length}

theorem value_snap : value Document.snap = 1 / 2 := by
  change ((4503599627370496 : ℕ) : ℚ) * 2 ^ (-53 : ℤ) = 1 / 2
  norm_num

theorem value_ease : 1 / 4 ≤ value Document.ease ∧ value Document.ease ≤ 1 / 2 := by
  change 1 / 4 ≤ ((6305039478318694 : ℕ) : ℚ) * 2 ^ (-54 : ℤ) ∧
    ((6305039478318694 : ℕ) : ℚ) * 2 ^ (-54 : ℤ) ≤ 1 / 2
  norm_num

theorem value_clamp {low high : Length} (number : x.isNaN = false) (le : low ≤ high) :
    (clamp low high x).isNaN = false ∧
    (clamp low high x).value = min (max x.value low.value) high.value := by
  obtain ⟨hl, hh⟩ := number_of_le le
  rw [le_iff hl hh] at le
  unfold clamp
  dsimp only
  split
  · rename_i less
    rw [lt_iff number hl] at less
    rw [if_neg ((not_lt hh hl).2 ((le_iff hl hh).2 le)), max_eq_right less.le, min_eq_left le]
    exact ⟨hl, rfl⟩
  · rename_i inside
    rw [not_lt number hl, le_iff hl number] at inside
    rw [max_eq_left inside]
    split
    · rename_i greater
      rw [lt_iff hh number] at greater
      exact ⟨hh, (min_eq_right greater.le).symm⟩
    · rename_i inside'
      rw [not_lt hh number, le_iff number hh] at inside'
      exact ⟨number, (min_eq_left inside').symm⟩

theorem number_of_clamp {low high : Length} (number : (clamp low high x).isNaN = false) :
    x.isNaN = false := by
  by_contra nan
  have incomparable {y : Length} : ¬ x < y ∧ ¬ y < x :=
    ⟨fun h ↦ nan (number_of_lt h).1, fun h ↦ nan (number_of_lt h).2⟩
  rw [clamp, if_neg incomparable.1, if_neg incomparable.2] at number
  exact nan number

/-- A part of the way, as one frame covers it. -/
def strided (x y : Length) : Length := x + (y - x) * Document.ease

structure Stride (x y : Length) (way part : ℚ) : Prop where
  way_eq : way = fitted (y.value - x.value)
  part_eq : part = fitted (way * value Document.ease)
  value_eq : (strided x y).value = fitted (x.value + part)
  far : 1 / 2 < |way|
  apart : |x.value| = excess → part ≠ -x.value

theorem exists_stride (far : ¬ (y - x).abs ≤ Document.snap) (number : (strided x y).isNaN = false) :
    ∃ way part, Stride x y way part := by
  obtain ⟨hx, hp⟩ := number_of_add number
  obtain ⟨hr, -⟩ := number_of_mul hp
  refine ⟨(y - x).value, ((y - x) * Document.ease).value, value_sub hr, value_mul hp,
    value_add number, ?_, ?_⟩
  · obtain ⟨ha, size⟩ := value_abs hr
    rw [le_iff ha rfl, size, value_snap] at far
    exact not_le.1 far
  · obtain ⟨-, -, nan⟩ | ⟨apart, -⟩ := add_spec hx hp
    · rw [strided, nan] at number
      cases number
    · exact apart

namespace Stride

variable {way part : ℚ}

/-- A frame covers some of the way, and if the page is not infinite then no more than all of it. -/
theorem share_between {z w : ℚ} (le : z ≤ w) (fixed : fitted w = w) (far : 1 / 2 < fitted z) :
    0 ≤ fitted (fitted z * value Document.ease) ∧
    (w < limit → fitted (fitted z * value Document.ease) ≤ z) := by
  obtain ⟨low, half⟩ := value_ease
  constructor
  · rw [← fitted_zero]
    exact fitted_mono (by nlinarith)
  · intro finite
    refine fitted_share_le far ?_ half
    calc fitted z ≤ fitted w := fitted_mono le
      _ = w := fixed
      _ < limit := finite

theorem down (stride : Stride x y way part) (hy : y.isNaN = false) (nonneg : 0 ≤ x.value)
    (le : x.value ≤ y.value) : 0 ≤ part ∧ (y.value < limit → x.value + part ≤ y.value) := by
  have ahead : 0 ≤ way := by
    rw [stride.way_eq, ← fitted_zero]
    exact fitted_mono (by linarith)
  have far := stride.far
  rw [abs_of_nonneg ahead, stride.way_eq] at far
  obtain ⟨some, most⟩ := share_between (by linarith) (fitted_value hy) far
  rw [← stride.way_eq, ← stride.part_eq] at some most
  exact ⟨some, fun finite ↦ by linarith [most finite]⟩

theorem up (stride : Stride x y way part) (hx : x.isNaN = false) (nonneg : 0 ≤ y.value)
    (le : y.value ≤ x.value) : part ≤ 0 ∧ (x.value < limit → y.value ≤ x.value + part) := by
  have back : -way = fitted (x.value - y.value) := by rw [stride.way_eq, ← fitted_neg, neg_sub]
  have ahead : 0 ≤ -way := by
    rw [back, ← fitted_zero]
    exact fitted_mono (by linarith)
  have far := stride.far
  rw [abs_of_nonpos (by linarith), back] at far
  obtain ⟨some, most⟩ := share_between (by linarith) (fitted_value hx) far
  rw [← back, neg_mul, fitted_neg, ← stride.part_eq] at some most
  exact ⟨by linarith, fun finite ↦ by linarith [most finite]⟩

/-- There is no way back from infinity. -/
theorem lt_limit (stride : Stride x y way part) (hx : x.isNaN = false) (hy : y.isNaN = false)
    (nonneg : 0 ≤ y.value) (le : y.value ≤ x.value) : x.value < limit := by
  obtain finite | infinite := abs_value hx
  · exact lt_of_abs_lt finite
  · exfalso
    have top : x.value = excess := by rw [← infinite, abs_of_nonneg (nonneg.trans le)]
    have large : 2 ^ (2 : ℤ) * limit < excess := zpow_mul_limit_lt_excess (by norm_num)
    norm_num at large
    obtain finite | infinite' := abs_value hy
    · have way_eq : way = -excess := by
        rw [stride.way_eq, ← neg_sub, fitted_neg, fitted_of_ge]
        linarith [lt_of_abs_lt finite, limit_pos]
      refine stride.apart infinite ?_
      rw [stride.part_eq, way_eq, neg_mul, fitted_neg, top, fitted_of_ge]
      nlinarith [value_ease.1, limit_pos]
    · have bottom : y.value = excess := by rw [← infinite', abs_of_nonneg nonneg]
      have none : way = 0 := by rw [stride.way_eq, top, bottom, sub_self, fitted_zero]
      have far := stride.far
      rw [none] at far
      norm_num at far

end Stride

section Strided

variable (nonneg : 0 ≤ x) (nonneg' : 0 ≤ y) (far : ¬ (y - x).abs ≤ Document.snap)
  (number : (strided x y).isNaN = false)
include nonneg nonneg' far number

theorem le_strided (le : x ≤ y) : x ≤ strided x y ∧ strided x y ≤ y := by
  obtain ⟨hx, hy⟩ := number_of_le le
  obtain ⟨way, part, stride⟩ := exists_stride far number
  obtain ⟨some, most⟩ := stride.down hy (value_nonneg nonneg) ((le_iff hx hy).1 le)
  rw [le_iff hx number, le_iff number hy, stride.value_eq]
  constructor
  · rw [← fitted_value hx]
    exact fitted_mono (by linarith [fitted_value hx])
  · obtain finite | infinite := abs_value hy
    · rw [← fitted_value hy]
      exact fitted_mono (by linarith [fitted_value hy, most (lt_of_abs_lt finite)])
    · rw [← stride.value_eq, ← abs_of_nonneg (value_nonneg nonneg'), infinite]
      exact value_le_excess number

omit nonneg in
theorem strided_le (le : y ≤ x) : y ≤ strided x y ∧ strided x y ≤ x := by
  obtain ⟨hy, hx⟩ := number_of_le le
  obtain ⟨way, part, stride⟩ := exists_stride far number
  have le := (le_iff hy hx).1 le
  obtain ⟨some, most⟩ := stride.up hx (value_nonneg nonneg') le
  have finite := stride.lt_limit hx hy (value_nonneg nonneg') le
  rw [le_iff hy number, le_iff number hx, stride.value_eq]
  constructor
  · rw [← fitted_value hy]
    exact fitted_mono (by linarith [fitted_value hy, most finite])
  · rw [← fitted_value hx]
    exact fitted_mono (by linarith [fitted_value hx])

end Strided

theorem number_of_strided (number : (strided x y).isNaN = false) :
    x.isNaN = false ∧ y.isNaN = false := by
  obtain ⟨hx, product⟩ := number_of_add number
  exact ⟨hx, (number_of_sub (number_of_mul product).1).1⟩

end Length

namespace Page

variable {p : Page} {x y : Length}

/-- Unless it is a NaN, the position is on the page. -/
def InRange (p : Page) (y : Length) : Prop := y.isNaN = false → 0 ≤ y ∧ y ≤ p.maxScroll

theorem maxScroll_nonneg (p : Page) : 0 ≤ p.maxScroll := Length.zero_le_nonneg _

theorem number_maxScroll (p : Page) : p.maxScroll.isNaN = false :=
  (Length.number_of_le p.maxScroll_nonneg).2

theorem value_clampScroll (p : Page) (number : y.isNaN = false) : (p.clampScroll y).isNaN = false ∧
    (p.clampScroll y).value = min (max y.value 0) p.maxScroll.value :=
  Length.value_clamp number p.maxScroll_nonneg

theorem inRange_clampScroll (p : Page) (y : Length) : p.InRange (p.clampScroll y) := by
  intro number
  have top := p.number_maxScroll
  have nonneg := Length.value_nonneg p.maxScroll_nonneg
  obtain ⟨-, value⟩ := p.value_clampScroll (Length.number_of_clamp number)
  rw [Length.le_iff rfl number, Length.le_iff number top, value]
  exact ⟨le_min (le_max_right _ _) nonneg, min_le_right _ _⟩

theorem inRange_strided (hx : p.InRange x) (hy : p.InRange y)
    (far : ¬ (y - x).abs ≤ Document.snap) :
    p.InRange (Length.strided x y) := by
  intro number
  obtain ⟨nx, ny⟩ := Length.number_of_strided number
  obtain ⟨low, high⟩ := hx nx
  obtain ⟨low', high'⟩ := hy ny
  obtain le | le := Length.le_total nx ny
  · obtain ⟨below, above⟩ := Length.le_strided low low' far number le
    exact ⟨Length.le_trans low below, Length.le_trans above high'⟩
  · obtain ⟨below, above⟩ := Length.strided_le low' far number le
    exact ⟨Length.le_trans low' below, Length.le_trans above high⟩

end Page

namespace Document

variable {ω : Type} {d d' : Document ω}

/-- The document is scrolled to a place on its page, and so is the target of a smooth scroll. -/
structure InRange (d : Document ω) : Prop where
  offset : d.page.InRange d.scrollY
  target : ∀ y, d.target = some y → d.page.InRange y

theorem InRange.moves (h : d.InRange) (page : d'.page = d.page) (moves : d.Moves d') :
    d'.InRange := by
  cases moves with
  | stay offset target =>
    constructor
    · rw [page, offset]
      exact h.offset
    · rw [page, target]
      exact h.target
  | aim y offset target =>
    constructor
    · rw [page, offset]
      exact h.offset
    · rw [page, target]
      rintro _ ⟨⟩
      exact d.page.inRange_clampScroll y
  | jump y offset target =>
    constructor
    · rw [page, offset]
      exact d.page.inRange_clampScroll y
    · rw [target]
      rintro _ ⟨⟩
  | frame next =>
    obtain ⟨y, target, rfl⟩ := Option.map_eq_some_iff.1 next
    have ahead := h.target y target
    dsimp only
    split
    · exact ⟨ahead, by rintro _ ⟨⟩⟩
    · rename_i far
      exact ⟨Page.inRange_strided h.offset ahead far, h.target⟩

end Document

theorem Blueprint.inRange_build {ω : Type} (page : Blueprint) :
    (page.build : Document ω).InRange := by
  have furnished (d : Document ω) (start : d.scrollY = 0 ∧ d.target = none) :
      (page.furnishings.foldl furnish d).scrollY = 0 ∧
      (page.furnishings.foldl furnish d).target = none := by
    induction page.furnishings generalizing d with
    | nil => exact start
    | cons f fs ih => exact ih _ (by cases f <;> exact start)
  obtain ⟨offset, target⟩ := furnished { page := { viewport := page.viewport.nonneg } } ⟨rfl, rfl⟩
  constructor
  · rw [build, offset]
    exact fun _ ↦ ⟨Length.le_refl rfl, Page.maxScroll_nonneg _⟩
  · rw [build, target]
    rintro _ ⟨⟩

/-- Whatever happens, no document is scrolled beyond its ends. -/
theorem Session.History.inRange {may : Stage → Step → Prop} {past : List Move} {m : Machine}
    {jobs : List Job} (run : History may past m jobs) : ∀ d ∈ m.stage.documents, d.InRange := by
  refine run.forall_documents Blueprint.inRange_build ?_ ?_ ?_ ?_
  · intro d d' h alike _
    exact h.moves alike.page alike.moves
  · intro d d' h alike
    obtain ⟨offset, target⟩ := h.moves alike.page alike.moves
    exact ⟨offset, target⟩
  · intro d o ids band h
    exact ⟨h.offset, h.target⟩
  · intro d token h
    exact ⟨h.offset, h.target⟩

end Wayfinder
