import Wayfinder.Proofs.Confines
import Wayfinder.Proofs.Handover

namespace Wayfinder

/-- From a power of two on, rounded numbers differ by a whole number of units. -/
theorem next_unit_le {v w : ℚ} {e : ℤ} (fixed : rounded v = v) (fixed' : rounded w = w)
    (large : 2 ^ e ≤ v) (large' : 2 ^ e ≤ w) (k : ℤ) (lt : k * 2 ^ (e - 52) < |v - w|) :
    (k + 1) * 2 ^ (e - 52) ≤ |v - w| := by
  obtain ⟨a, ha⟩ := exists_units fixed large
  obtain ⟨b, hb⟩ := exists_units fixed' large'
  have unit := two_zpow_pos (e - 52)
  have units : |v - w| = (|a - b| : ℤ) * 2 ^ (e - 52) := by
    rw [ha, hb, ← sub_mul, abs_mul, abs_of_pos unit]
    push_cast
    rfl
  rw [units] at lt ⊢
  have less : k < |a - b| := by exact_mod_cast lt_of_mul_lt_mul_right lt unit.le
  refine mul_le_mul_of_nonneg_right ?_ unit.le
  exact_mod_cast less

def OnWay (x t v : ℚ) : Prop := x ≤ v ∧ v ≤ t ∨ t ≤ v ∧ v ≤ x

namespace OnWay

variable {x t v b : ℚ}

theorem remaining (h : OnWay x t v) : |t - v| = |t - x| - |v - x| := by
  obtain ⟨start, stop⟩ | ⟨stop, start⟩ := h
  · rw [abs_of_nonneg (by linarith), abs_of_nonneg (by linarith), abs_of_nonneg (by linarith)]
    ring
  · rw [abs_of_nonpos (by linarith), abs_of_nonpos (by linarith), abs_of_nonpos (by linarith)]
    ring

theorem rounded (h : OnWay x t v) (fixed : rounded x = x) (fixed' : Wayfinder.rounded t = t) :
    OnWay x t (Wayfinder.rounded v) := by
  obtain ⟨start, stop⟩ | ⟨stop, start⟩ := h
  · left
    rw [← fixed, ← fixed']
    exact ⟨rounded_mono start, rounded_mono stop⟩
  · right
    rw [← fixed, ← fixed']
    exact ⟨rounded_mono stop, rounded_mono start⟩

theorem le (h : OnWay x t v) (le : b ≤ x) (le' : b ≤ t) : b ≤ v := by
  obtain ⟨start, -⟩ | ⟨stop, -⟩ := h
  · exact le.trans start
  · exact le'.trans stop

theorem lt (h : OnWay x t v) (lt : x < b) (lt' : t < b) : v < b := by
  obtain ⟨-, stop⟩ | ⟨-, start⟩ := h
  · exact stop.trans_lt lt'
  · exact start.trans_lt lt

end OnWay

/-- What a frame that does not land leaves of the way `w`. -/
structure Closes (w w' : ℚ) : Prop where
  far : 1 / 2 < w
  share : w' ≤ 651 / 1000 * w + 1 / 2
  progress : w ≤ 2 → w' ≤ w - 1 / 21

/-- From `x` to `v`, at least a third of the way to `t` is covered, and not more than all of it. -/
structure Leap (x t v : ℚ) : Prop where
  share : 3499 / 10000 * |t - x| ≤ |v - x|
  onWay : OnWay x t v

namespace Leap

variable {x t v : ℚ}

/-- What remains of the way, if the new place is rounded. -/
theorem remaining_le (leap : Leap x t v) :
    |t - rounded v| ≤ |t - x| - |v - x| + |rounded v - v| := by
  calc |t - rounded v| ≤ |t - v| + |v - rounded v| := abs_sub_le _ _ _
    _ = |t - x| - |v - x| + |rounded v - v| := by
      rw [leap.onWay.remaining, abs_sub_comm v (rounded v)]

section

variable (low : 0 ≤ x) (low' : 0 ≤ t) (below : t < 2 ^ (52 : ℤ))
include low low' below

/-- Far from the target, a frame covers a third of the way. -/
theorem remaining_le_mul (leap : Leap x t v) : |t - rounded v| ≤ 651 / 1000 * |t - x| + 1 / 2 := by
  have remaining := leap.remaining_le
  have share := leap.share
  have way := abs_nonneg (t - x)
  obtain small | large := lt_or_ge v (2 ^ (53 : ℤ))
  · have error := abs_rounded_sub_le (leap.onWay.le low low') small (by norm_num)
    norm_num at error
    linarith
  · -- places as far down as this lie below the target, which is less than half as far down
    have error : |rounded v - v| ≤ 2 ^ (-53 : ℤ) * v := by
      refine abs_rounded_sub_le_mul (le_trans ?_ large)
      exact zpow_le_zpow_right₀ one_le_two (by norm_num)
    norm_num at large below error
    obtain ⟨-, stop⟩ | ⟨-, start⟩ := leap.onWay
    · linarith
    · have behind : |t - x| = x - t := by rw [abs_of_nonpos (by linarith), neg_sub]
      linarith

omit below in
/-- Where places are stored with quarters, the error does not use up what a frame covers. -/
theorem remaining_le_of_quarters (leap : Leap x t v) (far : 1 / 2 < |t - x|)
    (high : x < 2 ^ (51 : ℤ)) (high' : t < 2 ^ (51 : ℤ)) : |t - rounded v| ≤ |t - x| - 1 / 21 := by
  have error := abs_rounded_sub_le (leap.onWay.le low low') (leap.onWay.lt high high') (by norm_num)
  norm_num at error
  linarith [leap.remaining_le, leap.share]

/-- Where places are a quarter or more apart, a frame covers more than the error. -/
theorem rounded_ne (leap : Leap x t v) (fixed : rounded x = x) (fixed' : rounded t = t)
    (far : 1 / 2 < |t - x|) (close : |t - x| ≤ 2) (down : 2 ^ (50 : ℤ) ≤ x)
    (down' : 2 ^ (50 : ℤ) ≤ t) : rounded v ≠ x := by
  intro stuck
  have share := leap.share
  have nonneg := leap.onWay.le low low'
  have quarters := next_unit_le fixed' fixed down' down 2 (by norm_num; exact far)
  norm_num at quarters
  obtain small | large := lt_or_ge v (2 ^ (52 : ℤ))
  · have error := abs_rounded_sub_le nonneg small (by norm_num)
    rw [stuck, abs_sub_comm] at error
    norm_num at error
    linarith
  · -- the way leads up across the place from which on only whole numbers are stored
    obtain ⟨-, stop⟩ | ⟨-, start⟩ := leap.onWay
    · exact absurd (large.trans stop) below.not_ge
    · have behind : |t - x| = x - t := by rw [abs_of_nonpos (by linarith), neg_sub]
      have covered : |v - x| = x - v := by rw [abs_of_nonpos (by linarith), neg_sub]
      have power : rounded (2 ^ (52 : ℤ)) = 2 ^ (52 : ℤ) := rounded_zpow (by norm_num)
      have whole := next_unit_le fixed power (large.trans start) le_rfl 0 (by
        rw [Int.cast_zero, zero_mul, abs_pos]
        linarith)
      have half :=
        next_unit_le power fixed' (e := 51) (zpow_le_zpow_right₀ one_le_two (by norm_num))
        (by norm_num at large ⊢; linarith) 0 (by
        rw [Int.cast_zero, zero_mul, abs_pos]
        linarith)
      rw [abs_of_nonneg (by linarith)] at whole half
      have error := abs_rounded_sub_le nonneg (e := 53) (by norm_num at below ⊢; linarith)
        (by norm_num)
      rw [stuck, abs_sub_comm] at error
      norm_num at whole half error
      linarith

/-- Close to the target, a frame still makes some progress. -/
theorem remaining_le_sub (leap : Leap x t v) (fixed : rounded x = x) (fixed' : rounded t = t)
    (fixed'' : rounded (rounded v) = rounded v) (far : 1 / 2 < |t - x|) (close : |t - x| ≤ 2) :
    |t - rounded v| ≤ |t - x| - 1 / 21 := by
  by_cases high : x < 2 ^ (51 : ℤ) ∧ t < 2 ^ (51 : ℤ)
  · exact leap.remaining_le_of_quarters low low' far high.1 high.2
  · have deep : 2 ^ (50 : ℤ) ≤ x ∧ 2 ^ (50 : ℤ) ≤ t := by
      rw [not_and_or, not_lt, not_lt] at high
      rw [abs_le] at close
      norm_num at high ⊢
      obtain deep | deep := high
      · constructor <;> linarith
      · constructor <;> linarith
    have onWay := leap.onWay.rounded fixed fixed'
    have moved : (0 : ℤ) * 2 ^ ((50 : ℤ) - 52) < |rounded v - x| := by
      rw [Int.cast_zero, zero_mul, abs_pos, sub_ne_zero]
      exact leap.rounded_ne low low' below fixed fixed' far close deep.1 deep.2
    have unit := next_unit_le fixed'' fixed (onWay.le deep.1 deep.2) deep.1 0 moved
    norm_num at unit
    rw [onWay.remaining]
    linarith

end

end Leap

namespace Length

variable {x t : Length}

theorem value_ease_between :
    34999 / 100000 ≤ value Document.ease ∧ value Document.ease ≤ 35001 / 100000 := by
  change 34999 / 100000 ≤ ((6305039478318694 : ℕ) : ℚ) * 2 ^ (-54 : ℤ) ∧
    ((6305039478318694 : ℕ) : ℚ) * 2 ^ (-54 : ℤ) ≤ 35001 / 100000
  norm_num

/-- A frame covers about its share of the way, although the way and the share are rounded. -/
theorem share_le_fitted {z : ℚ} (far : 1 / 2 < fitted z) (fits : fitted z < limit) :
    3499 / 10000 * z ≤ fitted (fitted z * value Document.ease) := by
  have beyond := half_lt_of_fitted far
  obtain ⟨ease, -⟩ := value_ease_between
  have least (v : ℚ) (large : 1 / 8 ≤ v) : 9999 / 10000 * v ≤ rounded v := by
    linarith [(abs_le.1 (abs_rounded_sub_le_of_le large)).1]
  have covers := fitted_share_le far fits value_ease.2
  have way : fitted z = rounded z := fitted_eq_rounded (by linarith) fits
  have positive : 0 ≤ fitted z * value Document.ease := by nlinarith
  rw [fitted_eq_rounded positive (covers.trans_lt (lt_limit_of_fitted fits))]
  have far' : 9999 / 10000 * z ≤ fitted z := way ▸ least z (by linarith)
  calc 3499 / 10000 * z ≤ 9999 / 10000 * (9999 / 10000 * z * (34999 / 100000)) := by linarith
    _ ≤ 9999 / 10000 * (fitted z * value Document.ease) := by
      gcongr
    _ ≤ rounded (fitted z * value Document.ease) := least _ (by nlinarith)

/-- What a frame does to the place, unless it lands. -/
theorem exists_leap (low : 0 ≤ x) (low' : 0 ≤ t) (finite : x.isFinite) (finite' : t.isFinite)
    (far : ¬ (t - x).abs ≤ Document.snap) : 1 / 2 < |t.value - x.value| ∧
      ∃ v, Leap x.value t.value v ∧ (strided x t).value = rounded v := by
  obtain ⟨hx, small⟩ := isFinite_iff.1 finite
  obtain ⟨ht, small'⟩ := isFinite_iff.1 finite'
  have nonneg := value_nonneg low
  have nonneg' := value_nonneg low'
  rw [abs_of_nonneg nonneg] at small
  rw [abs_of_nonneg nonneg'] at small'
  obtain ⟨way, part, stride⟩ := exists_stride far (number_strided low low' finite finite')
  have far := stride.far
  have fits {z b : ℚ} (le : z ≤ b) (fixed : fitted b = b) (small : b < limit) : fitted z < limit :=
    (fixed ▸ fitted_mono le).trans_lt small
  have stored (above : 0 ≤ x.value + part) (small : fitted (x.value + part) < limit) :
      (strided x t).value = rounded (x.value + part) := by
    rw [stride.value_eq, fitted_eq_rounded above small]
  obtain le | less := le_or_gt x.value t.value
  · obtain ⟨some, most⟩ := stride.down ht nonneg le
    have ahead : 0 ≤ way := by
      rw [stride.way_eq, ← fitted_zero]
      exact fitted_mono (by linarith)
    rw [abs_of_nonneg ahead, stride.way_eq] at far
    have share := share_le_fitted far (fits (by linarith) (fitted_value ht) small')
    rw [← stride.way_eq, ← stride.part_eq] at share
    have length : |t.value - x.value| = t.value - x.value := abs_of_nonneg (by linarith)
    refine ⟨by linarith [half_lt_of_fitted far], x.value + part,
      ⟨?_, .inl ⟨by linarith, most small'⟩⟩, ?_⟩
    · rw [length, add_sub_cancel_left, abs_of_nonneg some]
      exact share
    · exact stored (by linarith) (fits (most small') (fitted_value ht) small')
  · obtain ⟨some, most⟩ := stride.up hx nonneg' less.le
    have back : -way = fitted (x.value - t.value) := by rw [stride.way_eq, ← fitted_neg, neg_sub]
    have ahead : 0 ≤ -way := by
      rw [back, ← fitted_zero]
      exact fitted_mono (by linarith)
    rw [abs_of_nonpos (by linarith), back] at far
    have share := share_le_fitted far (fits (by linarith) (fitted_value hx) small)
    rw [← back, neg_mul, fitted_neg, ← stride.part_eq] at share
    have length : |t.value - x.value| = x.value - t.value := by
      rw [abs_of_nonpos (by linarith), neg_sub]
    refine ⟨by linarith [half_lt_of_fitted far], x.value + part,
      ⟨?_, .inr ⟨most small, by linarith⟩⟩, ?_⟩
    · rw [length, add_sub_cancel_left, abs_of_nonpos some]
      exact share
    · exact stored (by linarith [most small]) (fits (by linarith) (fitted_value hx) small)

/-- A frame on the way to the top of the page leaves at least half of the way. -/
theorem le_value_strided_zero {n : ℕ} (low : 0 ≤ x) (finite : x.isFinite)
    (large : 2 ^ (n + 1) ≤ x.value) :
    ¬ (0 - x).abs ≤ Document.snap ∧ 2 ^ n ≤ (strided x 0).value := by
  obtain ⟨hx, small⟩ := isFinite_iff.1 finite
  have nonneg := value_nonneg low
  rw [abs_of_nonneg nonneg] at small
  have zero : value 0 = 0 := rfl
  have one : (1 : ℚ) ≤ 2 ^ n := one_le_pow₀ one_le_two
  rw [pow_succ] at large
  have far : ¬ (0 - x).abs ≤ Document.snap := by
    intro near
    have number := number_sub (x := 0) (by decide) hx
    obtain ⟨number', size⟩ := value_abs number
    rw [le_iff number' rfl, size, value_snap, value_sub number, zero, zero_sub, fitted_neg,
      fitted_value hx, abs_neg, abs_of_nonneg nonneg] at near
    linarith
  refine ⟨far, ?_⟩
  obtain ⟨way, part, stride⟩ :=
    exists_stride far (number_strided low (le_refl rfl) finite (by decide))
  have way_eq : way = -x.value := by rw [stride.way_eq, zero, zero_sub, fitted_neg, fitted_value hx]
  have part_eq : part = -fitted (x.value * value Document.ease) := by
    rw [stride.part_eq, way_eq, neg_mul, fitted_neg]
  obtain ⟨least, most⟩ := value_ease_between
  have fits : fitted (x.value * value Document.ease) < limit := by
    calc fitted (x.value * value Document.ease) ≤ fitted x.value := fitted_mono (by nlinarith)
      _ = x.value := fitted_value hx
      _ < limit := small
  have share : fitted (x.value * value Document.ease) ≤ x.value / 2 := by
    rw [fitted_eq_rounded (by nlinarith) fits]
    have error :=
      (abs_le.1 (abs_rounded_sub_le_of_le (v := x.value * value Document.ease) (by nlinarith))).2
    nlinarith
  have power : fitted (2 ^ n) = 2 ^ n := fitted_pow (by linarith)
  rw [stride.value_eq, ← power]
  exact fitted_mono (by linarith)

theorem rounded_value (low : 0 ≤ x) (finite : x.isFinite) : rounded x.value = x.value := by
  obtain ⟨number, small⟩ := isFinite_iff.1 finite
  have nonneg := value_nonneg low
  rw [abs_of_nonneg nonneg, ← fitted_value number] at small
  rw [← fitted_eq_rounded nonneg small, fitted_value number]

end Length

namespace Document

variable {ω : Type} {d : Document ω} {t : Length}

def settled : Nat → Document ω → Document ω
  | 0, d => d
  | n + 1, d =>
    if d.advanceFrame.1.isAnimating then d.advanceFrame.1.settled n else d.advanceFrame.1

def Lands (d : Document ω) (t : Length) (n : Nat) : Prop := (d.settled n).target = none ∧
    (d.settled n).scrollY = t

def way (d : Document ω) (t : Length) : ℚ := |t.value - d.scrollY.value|

structure Glides (d : Document ω) (t : Length) : Prop where
  finiteInRange : d.advanceFrame.1.FiniteInRange
  target : d.advanceFrame.1.target = some t
  closes : Closes (d.way t) (d.advanceFrame.1.way t)

theorem Glides.lands {n : Nat} (h : d.Glides t) (lands : d.advanceFrame.1.Lands t n) :
    d.Lands t (n + 1) := by
  have animating : d.advanceFrame.1.isAnimating := by rw [isAnimating, h.target, Option.isSome_some]
  rw [Lands, settled, if_pos animating]
  exact lands

theorem lands_or_glides (finiteInRange : d.FiniteInRange) (target : d.target = some t)
    (below : t.value < 2 ^ 52) :
    (∀ n, d.Lands t (n + 1)) ∨ d.Glides t := by
  obtain ⟨offset, rest⟩ := advanceFrame_of_target target
  split at offset
  · rename_i near
    rw [if_pos near] at rest
    have landed : d.advanceFrame.1.isAnimating = false := by
      rw [isAnimating, rest, Option.isSome_none]
    refine .inl fun n ↦ ?_
    rw [Lands, settled, if_neg (by simp [landed])]
    exact ⟨rest, offset⟩
  · rename_i far
    rw [if_neg far] at rest
    obtain ⟨finite, low, -⟩ := finiteInRange.offset
    obtain ⟨finite', low', -⟩ := finiteInRange.target t target
    obtain ⟨finiteInRange', -⟩ := finiteInRange.advanceFrame
    obtain ⟨far, v, leap, value⟩ := Length.exists_leap low low' finite finite' far
    have nonneg := Length.value_nonneg low
    have nonneg' := Length.value_nonneg low'
    have below : t.value < 2 ^ (52 : ℤ) := below
    refine .inr ⟨finiteInRange', rest, far, ?_, fun close ↦ ?_⟩
    · rw [way, offset, value]
      exact leap.remaining_le_mul nonneg nonneg' below
    · have fixed := Length.rounded_value finiteInRange'.offset.low finiteInRange'.offset.finite
      rw [offset, value] at fixed
      rw [way, offset, value]
      exact leap.remaining_le_sub nonneg nonneg' below (Length.rounded_value low finite)
        (Length.rounded_value low' finite') fixed far close

section

variable (finiteInRange : d.FiniteInRange) (target : d.target = some t) (below : t.value < 2 ^ 52)
include finiteInRange target below

theorem lands_of_close {n : Nat} (close : d.way t ≤ 1 / 2 + n / 21) (near : d.way t ≤ 2) :
    d.Lands t (n + 1) := by
  induction n generalizing d with
  | zero =>
    obtain lands | glides := lands_or_glides finiteInRange target below
    · exact lands 0
    · norm_num at close
      linarith [glides.closes.far]
  | succ n ih =>
    obtain lands | glides := lands_or_glides finiteInRange target below
    · exact lands (n + 1)
    · have progress := glides.closes.progress near
      push_cast at close
      exact glides.lands (ih glides.finiteInRange glides.target (by linarith) (by linarith))

/-- A third of the way in each frame soon comes to all but a little. -/
theorem lands_of_way {n : Nat} (bound : d.way t ≤ 500 / 349 + (1000 / 651) ^ n / 13) :
    d.Lands t (n + 23) := by
  -- a frame keeps the way above 500 / 349, where what it covers is as large as the error, and cuts
  -- the excess down
  induction n generalizing d with
  | zero =>
    rw [pow_zero] at bound
    exact lands_of_close finiteInRange target below (by norm_num; linarith) (by linarith)
  | succ n ih =>
    rw [Nat.add_right_comm]
    obtain lands | glides := lands_or_glides finiteInRange target below
    · exact lands (n + 23)
    · have share := glides.closes.share
      rw [pow_succ] at bound
      exact glides.lands (ih glides.finiteInRange glides.target (by linarith))

end

/-- Far below the largest lengths there are, a thousand frames are enough. -/
theorem lands_of_lt (finiteInRange : d.FiniteInRange) (target : d.target = some t)
    (below : t.value < 2 ^ 52) (below' : d.scrollY.value < 2 ^ 600) : d.Lands t settleFrames := by
  have nonneg := Length.value_nonneg finiteInRange.offset.low
  have nonneg' := Length.value_nonneg (finiteInRange.target t target).low
  have huge : (2 : ℚ) ^ 600 ≤ (1000 / 651) ^ 977 / 13 := by
    rw [show 600 = 75 * 8 from rfl, show 977 = 75 * 13 + 2 from rfl, pow_add, pow_mul, pow_mul]
    norm_num
  have larger : (2 : ℚ) ^ 52 ≤ 2 ^ 600 := pow_le_pow_right₀ (by norm_num) (by norm_num)
  apply lands_of_way (n := 977) finiteInRange target below
  calc d.way t ≤ 2 ^ 600 :=
    (abs_sub_lt_of_nonneg_of_lt nonneg' (below.trans_le larger) nonneg below').le
    _ ≤ (1000 / 651) ^ 977 / 13 := huge
    _ ≤ 500 / 349 + (1000 / 651) ^ 977 / 13 := le_add_of_nonneg_left (by norm_num)

/-- All the frames that `settled` stands for are frames of the smooth scroll, and it stops short of
the last only if the scroll has landed. -/
theorem exists_settled_eq (target : d.target = some t) (n : Nat) : ∃ i ≤ n,
    d.settled n = (fun d ↦ d.advanceFrame.1)^[i] d ∧
    (d.Lands t n ∨ i = n ∧ (d.settled n).target = some t) := by
  induction n generalizing d with
  | zero => exact ⟨0, le_rfl, rfl, .inr ⟨rfl, target⟩⟩
  | succ n ih =>
    obtain ⟨offset, rest⟩ := advanceFrame_of_target target
    rw [Lands, settled, isAnimating, rest]
    split
    · rename_i near
      rw [if_pos near] at offset
      rw [if_pos near] at rest
      exact ⟨1, by omega, rfl, .inl ⟨rest, offset⟩⟩
    · rename_i far
      rw [if_neg far] at rest
      obtain ⟨i, le, same, lands | ⟨all, still⟩⟩ := ih rest
      · exact ⟨i + 1, by omega, same, .inl lands⟩
      · exact ⟨i + 1, by omega, same, .inr ⟨by omega, still⟩⟩

/-- A way that takes so many halvings takes more frames than that. -/
theorem target_settled_of_le {n : Nat} (finiteInRange : d.FiniteInRange)
    (target : d.target = some 0) (large : 2 ^ n ≤ d.scrollY.value) :
    (d.settled n).target = some 0 := by
  induction n generalizing d with
  | zero => exact target
  | succ n ih =>
    obtain ⟨offset, rest⟩ := advanceFrame_of_target target
    obtain ⟨far, large⟩ :=
      Length.le_value_strided_zero finiteInRange.offset.low finiteInRange.offset.finite large
    rw [if_neg far] at offset rest
    have animating : d.advanceFrame.1.isAnimating := by rw [isAnimating, rest, Option.isSome_some]
    rw [settled, if_pos animating]
    exact ih finiteInRange.advanceFrame.1 rest (offset ▸ large)

end Document

def Page.IsFinite (p : Page) : Prop :=
  p.viewport.isFinite ∧ p.minHeight.isFinite ∧ ∀ a ∈ p.anchors, a.top.isFinite ∧ a.height.isFinite

instance (p : Page) : Decidable p.IsFinite := instDecidableAnd

namespace Session

variable {may : Stage → Step → Prop} {m : Machine} {past : List Move} {k : Nat}
  {d : Document Receiver} {t : Length}

/-- The frames of one errand, and what is handed over after each of them. -/
theorem Machine.Inert.frames {left : Nat} (inert : m.Inert) (menusNamed : m.stage.MenusNamed)
    (found : m.stage.documents[k]? = some d) :
    (m.run [.errand (.frames k left)]).stage.documents[k]? = some (d.settled left) := by
  induction left generalizing m d with
  | zero =>
    obtain ⟨stage, follow, -⟩ := inert.advance (.frames k 0)
    have none : m.stage.carry (.frames k 0) = { stage := m.stage } := by
      simp only [Stage.carry, Stage.advanceFrames, found]
    rw [none] at stage follow
    rw [Machine.run_cons, follow, List.map_nil, List.nil_append, Machine.run_nil, stage, found,
      Document.settled]
  | succ left ih =>
    obtain ⟨stage, follow, inert⟩ := inert.advance (.frames k (left + 1))
    have frame : m.stage.carry (.frames k (left + 1)) =
        { stage := m.stage.setDocument k d.advanceFrame.1
          errands := handAll d.advanceFrame.2 ++
            if d.advanceFrame.1.isAnimating then [.frames k left] else [] } := by
      simp only [Stage.carry, Stage.advanceFrames, found]
    rw [frame] at stage follow
    have moved : (m.advance (.errand (.frames k (left + 1)))).1.stage.documents[k]? =
        some d.advanceFrame.1 := by
      rw [stage]
      exact List.getElem?_set_self (List.getElem?_eq_some_iff.1 found).1
    have menusNamed : (m.advance (.errand (.frames k (left + 1)))).1.stage.MenusNamed := by
      rw [stage]
      exact menusNamed.congr rfl rfl
    have light (s : Stage) : ∀ t ∈ handAll d.advanceFrame.2, s.isLight t := by
      simp [handAll, Stage.isLight]
    obtain ⟨carries, menusNamed, inert⟩ := inert.carries menusNamed (light _)
    rw [← carries.documents] at moved
    rw [Machine.run_cons, follow, List.append_nil, List.map_append, Machine.run_append,
      Document.settled]
    split
    · exact ih inert menusNamed moved
    · rw [List.map_nil, Machine.run_nil]
      exact moved

theorem History.settle_document (run : History may past m []) (inert : m.Inert)
    (found : m.stage.documents[m.stage.current]? = some d) :
    (m.step (.page .settle)).stage.documents[m.stage.current]? =
      some (d.settled Document.settleFrames) :=
  Machine.Inert.frames (inert.take rfl) run.menusNamed found

/-- Settling a page goes on until the smooth scroll lands, but for a thousand frames at most: it
ends with fewer frames only on the target. A thousand are enough for any target below 2⁵², where
neighbouring places are less than a unit apart, from any place below 2⁶⁰⁰. -/
theorem settle_lands (run : History may past m []) (inert : m.Inert)
    (found : m.stage.documents[m.stage.current]? = some d) (target : d.target = some t)
    (commands : FiniteCommands past m.stage.current) :
    ∃ d', (m.step (.page .settle)).stage.documents[m.stage.current]? = some d' ∧
      (∃ n ≤ Document.settleFrames, d' = (fun d ↦ d.advanceFrame.1)^[n] d ∧
        (d'.target = none ∧ d'.scrollY = t ∨ n = Document.settleFrames ∧ d'.target = some t)) ∧
      (t.value < 2 ^ 52 → d.scrollY.value < 2 ^ 600 → d'.target = none ∧ d'.scrollY = t) := by
  have finiteInRange := run.finiteInRange found commands
  exact ⟨_, run.settle_document inert found, Document.exists_settled_eq target _,
    Document.lands_of_lt finiteInRange target⟩

def longPage : Blueprint where
  viewport := 800
  furnishings := [.anchor "a" 0 1000, .anchor "b" 1000 2000]

def wayBack : List Step :=
  [.spy "s" (.create ["a", "b"] ⟨20, 80⟩), .listen (.spy "s") "l" [] 0, .spy "s" .observe,
    .page (.userScroll 2000), .page (.scrollTo 300 true)]

theorem settle_lands_wayBack : ∃ m past, ∃ d d' : Document Receiver,
    Machine.journal? 50 wayBack (.opened longPage) [] = some (m, past) ∧
    m.stage.documents[0]? = some d ∧
      d.scrollY = 2000 ∧ d.target = some 300 ∧
      (m.step (.page .settle)).stage.documents[0]? = some d' ∧
      d'.target = none ∧ d'.scrollY = 300 := by
  have checked : ∃ r : Machine × List Move, r ∈ Machine.journal? 50 wayBack (.opened longPage) [] ∧
      (∀ e ∈ r.2, Allows (fun _ _ ↦ True) e.machine.stage e.job) ∧
      r.1.Inert ∧ FiniteCommands r.2 r.1.stage.current ∧ r.1.stage.current = 0 ∧
      ∃ d : Document Receiver, d ∈ r.1.stage.documents[0]? ∧ d.scrollY = 2000 ∧
        d.target = some 300 := by
    decide +kernel
  obtain ⟨⟨m, past⟩, kept, moves, inert, commands, current, d, found, offset, target⟩ := checked
  have run := (History.opened longPage).journal kept moves
  have start : d.scrollY.value < 2 ^ 600 := by
    rw [offset]
    decide +kernel
  obtain ⟨d', found', -, lands⟩ := settle_lands run inert (current.symm ▸ found) target commands
  obtain ⟨rest, landed⟩ := lands (by decide +kernel) start
  rw [current] at found'
  exact ⟨m, past, d, d', kept, found, offset, target, found', rest, landed⟩

def tallPage : Blueprint where
  viewport := 800
  furnishings := [.anchor "a" 0 1000, .height 1e308]

def fromTheDeep : List Step := [.page (.userScroll 1e305), .page (.scrollTo 0 true)]

/-- A page can be so tall that a thousand frames do not come to an end of it. -/
theorem not_forall_settle_lands : ¬ ∀ {may : Stage → Step → Prop} {m : Machine} {past : List Move}
    {d : Document Receiver} {t : Length}, History may past m [] → m.Inert →
    m.stage.documents[m.stage.current]? = some d → d.page.IsFinite → d.target = some t →
    FiniteCommands past m.stage.current →
    ∃ d', (m.step (.page .settle)).stage.documents[m.stage.current]? = some d' ∧ d'.target = none ∧
      d'.scrollY = t := by
  intro claimed
  have checked :
      ∃ r : Machine × List Move, r ∈ Machine.journal? 50 fromTheDeep (.opened tallPage) [] ∧
      (∀ e ∈ r.2, Allows (fun _ _ ↦ True) e.machine.stage e.job) ∧
      r.1.Inert ∧ FiniteCommands r.2 r.1.stage.current ∧ r.1.stage.current = 0 ∧
      ∃ d : Document Receiver, d ∈ r.1.stage.documents[0]? ∧ d.page.IsFinite ∧ d.target = some 0 ∧
        2 ^ Document.settleFrames ≤ d.scrollY.value := by
    decide +kernel
  obtain ⟨⟨m, past⟩, kept, moves, inert, commands, current, d, found, page, target, large⟩ :=
    checked
  have run := (History.opened tallPage).journal kept moves
  have found : m.stage.documents[m.stage.current]? = some d := current.symm ▸ found
  have aloft := Document.target_settled_of_le (run.finiteInRange found commands) target large
  obtain ⟨d', found', rest, -⟩ := claimed run inert found page target commands
  rw [run.settle_document inert found] at found'
  cases found'
  rw [aloft] at rest
  cases rest

end Session

end Wayfinder
