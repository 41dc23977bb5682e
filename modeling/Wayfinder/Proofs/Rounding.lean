import Mathlib.Data.Int.Log
import Mathlib.Data.Rat.Floor
import Mathlib.Tactic.Linarith
import Mathlib.Tactic.Positivity
import Mathlib.Tactic.Ring
import Mathlib.Tactic.FieldSimp
import Mathlib.Tactic.NormNum

namespace Wayfinder

/-- The nearest integer; of two that are as near, the even one. -/
def nearest (q : ℚ) : ℤ :=
  if Int.fract q < 1 / 2 then ⌊q⌋ else if 1 / 2 < Int.fract q then ⌊q⌋ + 1 else ⌊q⌋ + ⌊q⌋ % 2

theorem floor_le_nearest (q : ℚ) : ⌊q⌋ ≤ nearest q := by
  unfold nearest
  split
  · exact le_rfl
  · split <;> omega

theorem nearest_le (q : ℚ) : nearest q ≤ ⌊q⌋ + 1 := by
  unfold nearest
  split
  · omega
  · split <;> omega

theorem nearest_mono {q r : ℚ} (le : q ≤ r) : nearest q ≤ nearest r := by
  obtain less | same := (Int.floor_le_floor le).lt_or_eq
  · exact (nearest_le q).trans ((Int.add_one_le_of_lt less).trans (floor_le_nearest r))
  · have fracts : Int.fract q ≤ Int.fract r := by
      unfold Int.fract
      rw [same]
      exact sub_le_sub_right le _
    unfold nearest
    rw [same]
    split_ifs <;> first | omega | linarith

@[simp] theorem nearest_intCast (n : ℤ) : nearest n = n := by simp [nearest]

/-- The place of the last digit that is kept. -/
def lastPlace (v : ℚ) : ℤ := max (Int.log 2 v - 52) (-1074)

theorem two_zpow_pos (e : ℤ) : (0 : ℚ) < 2 ^ e := zpow_pos two_pos e

theorem lastPlace_mono {v w : ℚ} (pos : 0 < v) (le : v ≤ w) : lastPlace v ≤ lastPlace w :=
  max_le_max_right _ (sub_le_sub_right (Int.log_mono_right pos le) _)

theorem le_lastPlace (v : ℚ) : -1074 ≤ lastPlace v := le_max_right _ _

/-- Rounding leaves 53 digits, or a digit more that is then the only one. -/
theorem nearest_le_digits (v : ℚ) : nearest (v / 2 ^ lastPlace v) ≤ 9007199254740992 := by
  have scaled : v / 2 ^ lastPlace v ≤ ((9007199254740992 : ℤ) : ℚ) := by
    rw [div_le_iff₀ (two_zpow_pos _)]
    calc
      v ≤ 2 ^ (Int.log 2 v + 1) := (Int.lt_zpow_succ_log_self one_lt_two v).le
      _ ≤ 2 ^ (53 + lastPlace v) := zpow_le_zpow_right₀ one_le_two (by unfold lastPlace; omega)
      _ = ((9007199254740992 : ℤ) : ℚ) * 2 ^ lastPlace v := by
        rw [zpow_add₀ two_ne_zero]
        norm_num
  exact nearest_intCast 9007199254740992 ▸ nearest_mono scaled

theorem digits_le_nearest {v : ℚ} (pos : 0 < v) :
    4503599627370496 ≤ nearest (v / 2 ^ lastPlace v) ∨ lastPlace v = -1074 := by
  obtain same | least := max_choice (Int.log 2 v - 52) (-1074)
  · have place : Int.log 2 v = 52 + lastPlace v := by
      unfold lastPlace
      omega
    have scaled : ((4503599627370496 : ℤ) : ℚ) ≤ v / 2 ^ lastPlace v := by
      rw [le_div_iff₀ (two_zpow_pos _)]
      calc
        ((4503599627370496 : ℤ) : ℚ) * 2 ^ lastPlace v = 2 ^ Int.log 2 v := by
          rw [place, zpow_add₀ two_ne_zero]
          norm_num
        _ ≤ v := Int.zpow_log_le_self one_lt_two pos
    exact .inl (nearest_intCast 4503599627370496 ▸ nearest_mono scaled)
  · exact .inr least

def roundedSize (v : ℚ) : ℚ := nearest (v / 2 ^ lastPlace v) * 2 ^ lastPlace v

/-- A whole number of units of the last place is a bound that rounding does not pass. -/
theorem roundedSize_le {v b : ℚ} (n : ℤ) (units : b = n * 2 ^ lastPlace v) (le : v ≤ b) :
    roundedSize v ≤ b := by
  have scaled : v / 2 ^ lastPlace v ≤ n := by rwa [div_le_iff₀ (two_zpow_pos _), ← units]
  have whole : nearest (v / 2 ^ lastPlace v) ≤ n := nearest_intCast n ▸ nearest_mono scaled
  rw [roundedSize, units]
  exact mul_le_mul_of_nonneg_right (by exact_mod_cast whole) (two_zpow_pos _).le

theorem le_roundedSize {v b : ℚ} (n : ℤ) (units : b = n * 2 ^ lastPlace v) (le : b ≤ v) :
    b ≤ roundedSize v := by
  have scaled : (n : ℚ) ≤ v / 2 ^ lastPlace v := by rwa [le_div_iff₀ (two_zpow_pos _), ← units]
  have whole : n ≤ nearest (v / 2 ^ lastPlace v) := nearest_intCast n ▸ nearest_mono scaled
  rw [roundedSize, units]
  exact mul_le_mul_of_nonneg_right (by exact_mod_cast whole) (two_zpow_pos _).le

/-- A power of two is a whole number of units that are no larger. -/
theorem zpow_eq_units {e f : ℤ} (le : e ≤ f) :
    (2 : ℚ) ^ f = ((2 ^ (f - e).toNat : ℤ) : ℚ) * 2 ^ e := by
  push_cast
  rw [← zpow_natCast, Int.toNat_of_nonneg (by omega), ← zpow_add₀ two_ne_zero]
  congr 1
  omega

theorem roundedSize_nonneg {v : ℚ} (nonneg : 0 ≤ v) : 0 ≤ roundedSize v :=
  le_roundedSize 0 (by rw [Int.cast_zero, zero_mul]) nonneg

theorem roundedSize_mono {v w : ℚ} (pos : 0 < v) (le : v ≤ w) : roundedSize v ≤ roundedSize w := by
  obtain less | same := (lastPlace_mono pos le).lt_or_eq
  · -- the power of two at which the last place changes lies between the two
    have place : lastPlace w = Int.log 2 w - 52 := by
      unfold lastPlace at less ⊢
      omega
    have below : v < 2 ^ Int.log 2 w := by
      refine (Int.lt_zpow_succ_log_self one_lt_two v).trans_le ?_
      refine zpow_le_zpow_right₀ one_le_two ?_
      unfold lastPlace at less place
      omega
    have above : (2 : ℚ) ^ Int.log 2 w ≤ w := Int.zpow_log_le_self one_lt_two (pos.trans_le le)
    exact (roundedSize_le _ (zpow_eq_units (by omega)) below.le).trans
      (le_roundedSize _ (zpow_eq_units (by omega)) above)
  · unfold roundedSize
    rw [same]
    refine mul_le_mul_of_nonneg_right ?_ (two_zpow_pos _).le
    exact_mod_cast nearest_mono (div_le_div_of_nonneg_right le (two_zpow_pos _).le)

/-- A number of few enough digits is left alone. -/
theorem roundedSize_of_digits {m e : ℤ} (pos : 0 < m) (few : m < 9007199254740992)
    (least : -1074 ≤ e) :
    roundedSize (m * 2 ^ e) = m * 2 ^ e := by
  have positive : (0 : ℚ) < m * 2 ^ e := mul_pos (by exact_mod_cast pos) (two_zpow_pos e)
  have digits : Int.log 2 ((m : ℚ) * 2 ^ e) < 53 + e := by
    refine (Int.lt_zpow_iff_log_lt one_lt_two positive).1 ?_
    have top : ((2 : ℕ) : ℚ) ^ (53 + e) = 9007199254740992 * 2 ^ e := by
      rw [Nat.cast_ofNat, zpow_add₀ two_ne_zero]
      norm_num
    rw [top]
    exact mul_lt_mul_of_pos_right (by exact_mod_cast few) (two_zpow_pos e)
  have place : lastPlace (m * 2 ^ e) ≤ e := by
    unfold lastPlace
    omega
  have units : (m : ℚ) * 2 ^ e =
      ((m * 2 ^ (e - lastPlace (m * 2 ^ e)).toNat : ℤ) : ℚ) * 2 ^ lastPlace (m * 2 ^ e) := by
    rw [Int.cast_mul, mul_assoc, ← zpow_eq_units place]
  exact le_antisymm (roundedSize_le _ units le_rfl) (le_roundedSize _ units le_rfl)

def rounded (v : ℚ) : ℚ := if v < 0 then -roundedSize (-v) else roundedSize v

theorem rounded_of_nonneg {v : ℚ} (nonneg : 0 ≤ v) : rounded v = roundedSize v :=
  if_neg nonneg.not_gt

@[simp] theorem rounded_zero : rounded 0 = 0 := by
  rw [rounded_of_nonneg le_rfl, roundedSize, zero_div]
  have none : nearest 0 = 0 := nearest_intCast 0
  rw [none, Int.cast_zero, zero_mul]

theorem rounded_neg (v : ℚ) : rounded (-v) = -rounded v := by
  obtain less | rfl | greater := lt_trichotomy v 0
  · rw [rounded_of_nonneg (by linarith), rounded, if_pos less, neg_neg]
  · simp
  · rw [rounded_of_nonneg greater.le, rounded, if_pos (by linarith), neg_neg]

theorem rounded_mono {v w : ℚ} (le : v ≤ w) : rounded v ≤ rounded w := by
  have sizes {v w : ℚ} (nonneg : 0 ≤ v) (le : v ≤ w) : rounded v ≤ rounded w := by
    rw [rounded_of_nonneg (nonneg.trans le)]
    obtain rfl | pos := nonneg.eq_or_lt
    · rw [rounded_zero]
      exact roundedSize_nonneg le
    · rw [rounded_of_nonneg nonneg]
      exact roundedSize_mono pos le
  obtain nonneg | neg := le_total 0 v
  · exact sizes nonneg le
  · obtain nonneg' | neg' := le_total 0 w
    · have low := sizes le_rfl (neg_nonneg.2 neg)
      have high := sizes le_rfl nonneg'
      rw [rounded_zero, rounded_neg] at low
      rw [rounded_zero] at high
      linarith
    · have flipped := sizes (neg_nonneg.2 neg') (neg_le_neg le)
      rw [rounded_neg, rounded_neg] at flipped
      linarith

theorem rounded_of_digits {m e : ℤ} (few : |m| < 9007199254740992) (least : -1074 ≤ e) :
    rounded (m * 2 ^ e) = m * 2 ^ e := by
  have sizes {m : ℤ} (pos : 0 < m) (few : m < 9007199254740992) :
      rounded (m * 2 ^ e) = m * 2 ^ e := by
    rw [rounded_of_nonneg (mul_nonneg (by exact_mod_cast pos.le) (two_zpow_pos e).le)]
    exact roundedSize_of_digits pos few least
  obtain neg | rfl | pos := lt_trichotomy m 0
  · have flipped := sizes (neg_pos.2 neg) (by linarith [neg_abs_le m])
    rw [Int.cast_neg, neg_mul, rounded_neg] at flipped
    exact neg_injective flipped
  · simp
  · exact sizes pos (lt_of_abs_lt few)

def limit : ℚ := 2 ^ (1024 : ℤ)

/-- What stands for infinity. It is so large that a number below the limit makes no difference to
it, whether it is added to it or multiplied with it. -/
def excess : ℚ := 2 ^ (4000 : ℤ)

theorem limit_pos : 0 < limit := by
  rw [limit]
  exact two_zpow_pos _

theorem excess_pos : 0 < excess := by
  rw [excess]
  exact two_zpow_pos _

theorem zpow_mul_limit_lt_excess {e : ℤ} (small : e < 2976) : 2 ^ e * limit < excess := by
  rw [limit, excess, ← zpow_add₀ two_ne_zero]
  exact zpow_lt_zpow_right₀ one_lt_two (by omega)

theorem two_mul_limit_lt_excess : 2 * limit < excess := by
  have one := zpow_mul_limit_lt_excess (show (1 : ℤ) < 2976 by norm_num)
  rwa [zpow_one] at one

def capped (v : ℚ) : ℚ := if limit ≤ v then excess else if v ≤ -limit then -excess else v

theorem capped_of_lt {v : ℚ} (low : -limit < v) (high : v < limit) : capped v = v := by
  rw [capped, if_neg high.not_ge, if_neg low.not_ge]

theorem capped_of_ge {v : ℚ} (large : limit ≤ v) : capped v = excess := if_pos large

theorem capped_of_le {v : ℚ} (large : v ≤ -limit) : capped v = -excess := by
  rw [capped, if_neg (by linarith [limit_pos]), if_pos large]

theorem capped_neg (v : ℚ) : capped (-v) = -capped v := by
  obtain low | low := le_or_gt v (-limit)
  · rw [capped_of_le low, capped_of_ge (by linarith), neg_neg]
  · obtain high | high := le_or_gt limit v
    · rw [capped_of_ge high, capped_of_le (by linarith)]
    · rw [capped_of_lt low high, capped_of_lt (by linarith) (by linarith)]

theorem capped_mono {v w : ℚ} (le : v ≤ w) : capped v ≤ capped w := by
  have pos := limit_pos
  have large := two_mul_limit_lt_excess
  unfold capped
  split <;> split <;> (try split) <;> (try split)
  all_goals linarith

def fitted (v : ℚ) : ℚ := capped (rounded v)

theorem fitted_mono {v w : ℚ} (le : v ≤ w) : fitted v ≤ fitted w := capped_mono (rounded_mono le)

theorem fitted_neg (v : ℚ) : fitted (-v) = -fitted v := by
  rw [fitted, rounded_neg, capped_neg, fitted]

@[simp] theorem fitted_zero : fitted 0 = 0 := by
  rw [fitted, rounded_zero, capped_of_lt (by linarith [limit_pos]) limit_pos]

theorem rounded_zpow {e : ℤ} (least : -1074 ≤ e) : rounded (2 ^ e) = 2 ^ e := by
  have one := rounded_of_digits (show |(1 : ℤ)| < 9007199254740992 by norm_num) least
  rwa [Int.cast_one, one_mul] at one

theorem rounded_limit : rounded limit = limit := by
  rw [limit]
  exact rounded_zpow (by norm_num)

theorem fitted_of_ge {v : ℚ} (large : limit ≤ v) : fitted v = excess :=
  capped_of_ge (rounded_limit ▸ rounded_mono large)

theorem fitted_zpow {e : ℤ} (least : -1074 ≤ e) (fits : e < 1024) : fitted (2 ^ e) = 2 ^ e := by
  rw [fitted, rounded_zpow least, capped_of_lt]
  · linarith [limit_pos, two_zpow_pos e]
  · rw [limit]
    exact zpow_lt_zpow_right₀ one_lt_two fits

theorem fitted_pow {n : ℕ} (fits : 2 ^ n < limit) : fitted (2 ^ n) = 2 ^ n := by
  have bound : n < 1024 := by
    by_contra more
    have beyond : limit ≤ 2 ^ n := by
      rw [limit, ← zpow_natCast]
      exact zpow_le_zpow_right₀ one_le_two (by omega)
    linarith
  exact_mod_cast fitted_zpow (e := n) (by omega) (by omega)

theorem lt_limit_of_fitted {z : ℚ} (fits : fitted z < limit) : z < limit := by
  by_contra large
  rw [fitted_of_ge (not_lt.1 large)] at fits
  linarith [limit_pos, two_mul_limit_lt_excess]

theorem fitted_eq_rounded {z : ℚ} (above : 0 ≤ z) (fits : fitted z < limit) :
    fitted z = rounded z := by
  unfold fitted capped at fits ⊢
  split
  · rename_i large
    rw [if_pos large] at fits
    linarith [limit_pos, two_mul_limit_lt_excess]
  · rw [if_neg]
    have above : 0 ≤ rounded z := rounded_zero ▸ rounded_mono above
    linarith [limit_pos]

theorem half_lt_of_fitted {z : ℚ} (far : 1 / 2 < fitted z) : 1 / 2 < z := by
  by_contra within
  have half : fitted (2 ^ (-1 : ℤ)) = 2 ^ (-1 : ℤ) := fitted_zpow (by norm_num) (by norm_num)
  have bound := fitted_mono (show z ≤ 2 ^ (-1 : ℤ) by norm_num; linarith)
  rw [half] at bound
  norm_num at bound
  linarith

/-- At most half of a rounded number, rounded again, is no more than the number itself. -/
theorem fitted_share_le {z k : ℚ} (far : 1 / 2 < fitted z) (fits : fitted z < limit)
    (half : k ≤ 1 / 2) :
    fitted (fitted z * k) ≤ z := by
  have beyond := half_lt_of_fitted far
  have below : z < limit := lt_limit_of_fitted fits
  have exact : fitted z = rounded z := fitted_eq_rounded (by linarith) fits
  -- the power of two next below `z` is not rounded, and half of the rounded number is no larger
  have positive : 0 < z := by linarith
  have low : -1 ≤ Int.log 2 z := by
    refine (Int.zpow_le_iff_le_log one_lt_two positive).1 ?_
    norm_num
    linarith
  have high : Int.log 2 z < 1024 := by
    refine (Int.lt_zpow_iff_log_lt one_lt_two positive).1 ?_
    exact below
  have upper : rounded z ≤ 2 ^ (Int.log 2 z + 1) := by
    rw [← rounded_zpow (by omega)]
    exact rounded_mono (Int.lt_zpow_succ_log_self one_lt_two z).le
  rw [zpow_add_one₀ two_ne_zero] at upper
  have share : fitted z * k ≤ 2 ^ Int.log 2 z := by
    rw [exact] at far ⊢
    nlinarith
  calc fitted (fitted z * k) ≤ fitted (2 ^ Int.log 2 z) := fitted_mono share
    _ = 2 ^ Int.log 2 z := fitted_zpow (by omega) high
    _ ≤ z := Int.zpow_log_le_self one_lt_two positive

theorem abs_nearest_sub_le (q : ℚ) : |(nearest q : ℚ) - q| ≤ 1 / 2 := by
  have whole : q = ⌊q⌋ + Int.fract q := (Int.floor_add_fract q).symm
  have nonneg := Int.fract_nonneg q
  have less := Int.fract_lt_one q
  unfold nearest
  split
  · rw [abs_le]
    constructor <;> linarith
  · split
    · push_cast
      rw [abs_le]
      constructor <;> linarith
    · have half : Int.fract q = 1 / 2 := by linarith
      obtain even | odd := Int.emod_two_eq_zero_or_one ⌊q⌋
      · rw [even, abs_le]
        push_cast
        constructor <;> linarith
      · rw [odd, abs_le]
        push_cast
        constructor <;> linarith

theorem abs_roundedSize_sub_le (v : ℚ) : |roundedSize v - v| ≤ 2 ^ (lastPlace v - 1) := by
  have unit := two_zpow_pos (lastPlace v)
  have scaled : roundedSize v - v = (nearest (v / 2 ^ lastPlace v) - v / 2 ^ lastPlace v) * 2 ^
      lastPlace v := by
    rw [roundedSize, sub_mul, div_mul_cancel₀ _ unit.ne']
  rw [scaled, abs_mul, abs_of_pos unit, zpow_sub_one₀ two_ne_zero]
  nlinarith [abs_nearest_sub_le (v / 2 ^ lastPlace v)]

/-- Below a power of two, rounding is off by no more than half a unit in the last of 53 places. -/
theorem abs_rounded_sub_le {v : ℚ} {e : ℤ} (nonneg : 0 ≤ v) (lt : v < 2 ^ e) (least : -1021 ≤ e) :
    |rounded v - v| ≤ 2 ^ (e - 54) := by
  obtain rfl | pos := nonneg.eq_or_lt
  · rw [rounded_zero, sub_self, abs_zero]
    exact (two_zpow_pos _).le
  · have log : Int.log 2 v < e := (Int.lt_zpow_iff_log_lt one_lt_two pos).1 (by exact_mod_cast lt)
    rw [rounded_of_nonneg nonneg]
    refine (abs_roundedSize_sub_le v).trans (zpow_le_zpow_right₀ one_le_two ?_)
    unfold lastPlace
    omega

/-- Rounding is off by a small part of the number only, unless the number is very small. -/
theorem abs_rounded_sub_le_mul {v : ℚ} (large : 2 ^ (-1022 : ℤ) ≤ v) :
    |rounded v - v| ≤ 2 ^ (-53 : ℤ) * v := by
  have pos : 0 < v := (two_zpow_pos _).trans_le large
  have log : -1022 ≤ Int.log 2 v :=
    (Int.zpow_le_iff_le_log one_lt_two pos).1 (by exact_mod_cast large)
  have place : lastPlace v - 1 = -53 + Int.log 2 v := by
    unfold lastPlace
    omega
  rw [rounded_of_nonneg pos.le]
  calc |roundedSize v - v| ≤ 2 ^ (lastPlace v - 1) := abs_roundedSize_sub_le v
    _ = 2 ^ (-53 : ℤ) * 2 ^ Int.log 2 v := by rw [place, zpow_add₀ two_ne_zero]
    _ ≤ 2 ^ (-53 : ℤ) * v := by
      refine mul_le_mul_of_nonneg_left ?_ (two_zpow_pos _).le
      exact_mod_cast Int.zpow_log_le_self one_lt_two pos

theorem abs_rounded_sub_le_of_le {v : ℚ} (large : 1 / 8 ≤ v) : |rounded v - v| ≤ v / 10000 := by
  have normal : (2 : ℚ) ^ (-1022 : ℤ) ≤ v := by
    calc (2 : ℚ) ^ (-1022 : ℤ) ≤ 2 ^ (-3 : ℤ) := zpow_le_zpow_right₀ one_le_two (by norm_num)
      _ = 1 / 8 := by norm_num
      _ ≤ v := large
  calc |rounded v - v| ≤ 2 ^ (-53 : ℤ) * v := abs_rounded_sub_le_mul normal
    _ ≤ v / 10000 := by
      norm_num
      linarith

/-- From a power of two on, a rounded number is a whole number of units in the last of 53 places. -/
theorem exists_units {v : ℚ} {e : ℤ} (fixed : rounded v = v) (le : 2 ^ e ≤ v) :
    ∃ n : ℤ, v = n * 2 ^ (e - 52) := by
  have pos : 0 < v := (two_zpow_pos _).trans_le le
  have log : e ≤ Int.log 2 v := (Int.zpow_le_iff_le_log one_lt_two pos).1 (by exact_mod_cast le)
  have place : e - 52 ≤ lastPlace v := by
    unfold lastPlace
    omega
  rw [rounded_of_nonneg pos.le, roundedSize] at fixed
  refine ⟨nearest (v / 2 ^ lastPlace v) * 2 ^ (lastPlace v - (e - 52)).toNat, ?_⟩
  rw [Int.cast_mul, mul_assoc, ← zpow_eq_units place, fixed]

end Wayfinder
