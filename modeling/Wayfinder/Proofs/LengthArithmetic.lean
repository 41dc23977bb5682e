import Wayfinder.Proofs.Lengths

namespace Wayfinder

open Float.Model (Format UnpackedFloat)
open Float.Model.UnpackedFloat

def signed : Sign → ℚ → ℚ
  | .negative, v => -v
  | .positive, v => v

@[simp] theorem signed_zero (s : Sign) : signed s 0 = 0 := by
  cases s
  · exact neg_zero
  · rfl

theorem signed_neg (s : Sign) (v : ℚ) : signed (-s) v = -signed s v := by
  cases s
  · exact (neg_neg v).symm
  · rfl

theorem signed_add (s : Sign) (v w : ℚ) : signed s (v + w) = signed s v + signed s w := by
  cases s
  · exact neg_add v w
  · rfl

theorem signed_mul (s t : Sign) (v w : ℚ) : signed (s * t) (v * w) = signed s v * signed t w := by
  cases s <;> cases t
  · exact (neg_mul_neg v w).symm
  · exact (neg_mul v w).symm
  · exact (mul_neg v w).symm
  · rfl

theorem abs_signed (s : Sign) (v : ℚ) : |signed s v| = |v| := by
  cases s
  · exact abs_neg v
  · rfl

theorem cast_apply (s : Sign) (n : ℕ) : ((s.apply n : ℤ) : ℚ) = signed s n := by
  cases s
  · exact (Int.cast_neg (n : ℤ)).trans (congrArg Neg.neg (Int.cast_natCast n))
  · exact Int.cast_natCast n

theorem fitted_signed (s : Sign) (v : ℚ) : fitted (signed s v) = signed s (fitted v) := by
  cases s
  · exact fitted_neg v
  · rfl

def worth : UnpackedFloat → ℚ
  | .infinity s => signed s excess
  | .finite s m e _ => signed s (m * 2 ^ e)
  | _ => 0

theorem worth_infinity (s : Sign) : worth (.infinity s) = signed s excess := rfl

theorem worth_zero (s : Sign) : worth (.zero s) = 0 := rfl

theorem worth_finite (s : Sign) {m : ℕ} (e : ℤ)
    (pos : 0 < m) : worth (.finite s m e pos) = signed s (m * 2 ^ e) := rfl

theorem worth_ofMantissa (s : Sign) (m : ℕ) (e : ℤ) :
    worth (ofMantissa s m e) = signed s (m * 2 ^ e) := by
  obtain rfl | pos := m.eq_zero_or_pos
  · rw [ofMantissa_zero, Nat.cast_zero, zero_mul, signed_zero]
    rfl
  · rw [ofMantissa_of_pos s pos, worth]

theorem size_pos {m : ℕ} (pos : 0 < m) (e : ℤ) : (0 : ℚ) < m * 2 ^ e :=
  mul_pos (by exact_mod_cast pos) (two_zpow_pos e)

namespace Tidy

variable {m n : ℕ} {e f : ℤ}

theorem lt_of_exponent_lt (h : Tidy m e) (h' : Tidy n f) (lt : e < f) :
    (m : ℚ) * 2 ^ e < n * 2 ^ f := by
  have full : 4503599627370496 ≤ n := h'.full.resolve_right (by have := h.least; omega)
  calc (m : ℚ) * 2 ^ e < 9007199254740992 * 2 ^ e :=
        mul_lt_mul_of_pos_right (by exact_mod_cast h.few) (two_zpow_pos e)
    _ = 4503599627370496 * 2 ^ (e + 1) := by
        rw [zpow_add_one₀ two_ne_zero]
        ring
    _ ≤ n * 2 ^ f :=
        mul_le_mul (by exact_mod_cast full) (zpow_le_zpow_right₀ one_le_two (by omega))
          (two_zpow_pos _).le
          n.cast_nonneg

/-- Sizes compare by exponent first. -/
theorem compares (h : Tidy m e) (h' : Tidy n f) :
    ((compare e f).then (compare m n)).Compares ((m : ℚ) * 2 ^ e) (n * 2 ^ f) := by
  obtain less | rfl | greater := lt_trichotomy e f
  · rw [compare_lt_iff_lt.2 less]
    exact h.lt_of_exponent_lt h' less
  · have scaled {m n : ℕ} (less : m < n) : (m : ℚ) * 2 ^ e < n * 2 ^ e :=
      mul_lt_mul_of_pos_right (by exact_mod_cast less) (two_zpow_pos e)
    rw [compare_eq_iff_eq.2 rfl, Ordering.eq_then]
    obtain less | rfl | greater := lt_trichotomy m n
    · rw [compare_lt_iff_lt.2 less]
      exact scaled less
    · rw [compare_eq_iff_eq.2 rfl]
      rfl
    · rw [compare_gt_iff_gt.2 greater]
      exact scaled greater
  · rw [compare_gt_iff_gt.2 greater]
    exact h'.lt_of_exponent_lt h greater

theorem size_lt_limit (h : Tidy m e) (fits : e ≤ 971) : (m : ℚ) * 2 ^ e < limit := by
  calc (m : ℚ) * 2 ^ e < 2 ^ (53 : ℤ) * 2 ^ e := by
        refine mul_lt_mul_of_pos_right ?_ (two_zpow_pos e)
        norm_num
        exact_mod_cast h.few
    _ ≤ limit := by
        rw [limit, ← zpow_add₀ two_ne_zero]
        exact zpow_le_zpow_right₀ one_le_two (by omega)

theorem limit_le_size (h : Tidy m e) (large : 971 < e) : limit ≤ (m : ℚ) * 2 ^ e := by
  have full : 4503599627370496 ≤ m := h.full.resolve_right (by omega)
  calc limit ≤ 2 ^ (52 : ℤ) * 2 ^ e := by
        rw [limit, ← zpow_add₀ two_ne_zero]
        exact zpow_le_zpow_right₀ one_le_two (by omega)
    _ ≤ m * 2 ^ e := by
        refine mul_le_mul_of_nonneg_right ?_ (two_zpow_pos e).le
        norm_num
        exact_mod_cast full

end Tidy

theorem compares_neg {o : Ordering} {v w : ℚ} (h : o.Compares v w) : o.swap.Compares (-v) (-w) := by
  cases o with
  | lt => exact neg_lt_neg h
  | eq => exact congrArg Neg.neg h
  | gt => exact neg_lt_neg h

theorem signed_between (s : Sign) {v w : ℚ} (pos : 0 < v) (less : v < w) :
    -w < signed s v ∧ signed s v < w := by
  cases s <;> constructor <;> simp only [signed] <;> linarith

/-- Lengths compare as their numbers do. -/
theorem Proper.compares {u v : UnpackedFloat} (hu : Proper u) (hv : Proper v) :
    ∃ o, u.compare v = some o ∧ o.Compares (worth u) (worth v) := by
  have large : 0 < excess := excess_pos
  have below {m : ℕ} {e : ℤ} (s : Sign) (pos : 0 < m) (tidy : Tidy m e) (fits : e ≤ 971) :
      -excess < signed s (m * 2 ^ e) ∧ signed s (m * 2 ^ e) < excess :=
    signed_between s (size_pos pos e)
      (by linarith [tidy.size_lt_limit fits, limit_pos, two_mul_limit_lt_excess])
  cases hu with
  | infinity s =>
    cases hv with
    | infinity t =>
      cases s <;> cases t
      · exact ⟨.eq, rfl, rfl⟩
      · exact ⟨.lt, rfl, neg_lt_self large⟩
      · exact ⟨.gt, rfl, neg_lt_self large⟩
      · exact ⟨.eq, rfl, rfl⟩
    | zero t =>
      cases s
      · exact ⟨.lt, rfl, neg_lt_zero.2 large⟩
      · exact ⟨.gt, rfl, large⟩
    | finite t pos tidy fits =>
      cases s
      · exact ⟨.lt, rfl, (below t pos tidy fits).1⟩
      · exact ⟨.gt, rfl, (below t pos tidy fits).2⟩
  | zero s =>
    cases hv with
    | infinity t =>
      cases t
      · exact ⟨.gt, rfl, neg_lt_zero.2 large⟩
      · exact ⟨.lt, rfl, large⟩
    | zero t => exact ⟨.eq, rfl, rfl⟩
    | finite t pos tidy fits =>
      cases t
      · exact ⟨.gt, rfl, neg_lt_zero.2 (size_pos pos _)⟩
      · exact ⟨.lt, rfl, size_pos pos _⟩
  | finite s pos tidy fits =>
    cases hv with
    | infinity t =>
      cases t
      · exact ⟨.gt, rfl, (below s pos tidy fits).1⟩
      · exact ⟨.lt, rfl, (below s pos tidy fits).2⟩
    | zero t =>
      cases s
      · exact ⟨.lt, rfl, neg_lt_zero.2 (size_pos pos _)⟩
      · exact ⟨.gt, rfl, size_pos pos _⟩
    | finite t pos' tidy' fits' =>
      cases s <;> cases t
      · exact ⟨_, rfl, compares_neg (tidy.compares tidy')⟩
      · exact ⟨.lt, rfl, (neg_lt_zero.2 (size_pos pos _)).trans (size_pos pos' _)⟩
      · exact ⟨.gt, rfl, (neg_lt_zero.2 (size_pos pos' _)).trans (size_pos pos _)⟩
      · exact ⟨_, rfl, tidy.compares tidy'⟩

theorem compare_notANumber (u : UnpackedFloat) : u.compare .notANumber = none := by cases u <;> rfl

/-- Once it is stored, `u` stands for the number `v`. -/
structure Stores (u : UnpackedFloat) (v : ℚ) : Prop where
  proper : Proper (unpack Format.binary64 (pack Format.binary64 u))
  worth_eq : worth (unpack Format.binary64 (pack Format.binary64 u)) = v

theorem Proper.stores {u : UnpackedFloat} (h : Proper u) : Stores u (worth u) :=
  ⟨h.unpack_pack.symm ▸ h, by rw [h.unpack_pack]⟩

theorem IsRounded.stores {s : Sign} {v : ℚ} {u : UnpackedFloat} (h : IsRounded s v u)
    (nonneg : 0 ≤ v) :
    Stores u (fitted (signed s v)) := by
  obtain ⟨m, e, rfl, tidy, same⟩ := h
  rw [fitted_signed, fitted, rounded_of_nonneg nonneg, ← same]
  have read := unpack_pack_ofMantissa s tidy
  obtain fits | large := le_or_gt e 971
  · have size : (0 : ℚ) ≤ m * 2 ^ e := mul_nonneg m.cast_nonneg (two_zpow_pos e).le
    rw [if_pos fits] at read
    rw [capped_of_lt (by linarith [limit_pos]) (tidy.size_lt_limit fits), ← worth_ofMantissa]
    exact (proper_ofMantissa s tidy fits).stores
  · rw [if_neg large.not_ge] at read
    rw [capped_of_ge (tidy.limit_le_size large)]
    exact ⟨read ▸ .infinity s, by rw [read]; rfl⟩

theorem stores_normalize (k e : ℤ) (z : Sign) :
    Stores (UnpackedFloat.normalize Format.binary64 k e z) (fitted (k * 2 ^ e)) := by
  have size {n : ℕ} : (0 : ℚ) ≤ n * 2 ^ e := mul_nonneg n.cast_nonneg (two_zpow_pos e).le
  unfold UnpackedFloat.normalize
  obtain neg | rfl | pos := lt_trichotomy k 0
  · obtain ⟨n, rfl⟩ : ∃ n : ℕ, k = -n := ⟨k.natAbs, by omega⟩
    rw [compare_lt_iff_lt.2 neg, neg_neg, Int.toNat_natCast, Int.cast_neg,
      Int.cast_natCast, neg_mul]
    exact (isRounded_round .negative (by omega) e).stores size
  · rw [Int.cast_zero, zero_mul, fitted_zero]
    exact (Proper.zero z).stores
  · obtain ⟨n, rfl⟩ : ∃ n : ℕ, k = n := ⟨k.toNat, by omega⟩
    rw [compare_gt_iff_gt.2 pos, Int.toNat_natCast, Int.cast_natCast]
    exact (isRounded_round .positive (by omega) e).stores size

theorem Proper.fitted_worth {u : UnpackedFloat} (h : Proper u) : fitted (worth u) = worth u := by
  cases h with
  | infinity s =>
    rw [worth, fitted_signed, fitted_of_ge (by linarith [limit_pos, two_mul_limit_lt_excess])]
  | zero s => exact fitted_zero
  | @finite s m e pos tidy fits =>
    have few : |(m : ℤ)| < 9007199254740992 := by
      rw [Nat.abs_cast]
      exact_mod_cast tidy.few
    have same := rounded_of_digits few tidy.least
    rw [Int.cast_natCast] at same
    rw [worth, fitted_signed, fitted, same, capped_of_lt _ (tidy.size_lt_limit fits)]
    linarith [limit_pos, size_pos pos e]

/-- What is added to infinity makes no difference. -/
theorem fitted_excess_add (s : Sign) {w : ℚ} (low : -limit < w) (high : w < limit) :
    fitted (signed s excess + w) = signed s excess := by
  have large := two_mul_limit_lt_excess
  cases s with
  | negative =>
    rw [signed, ← neg_neg w, ← neg_add, fitted_neg, fitted_of_ge (by linarith)]
  | positive => exact fitted_of_ge (by rw [signed]; linarith)

/-- A mantissa that is shifted to a lower exponent stands for the same number. -/
theorem aligned (s : Sign) (m : ℕ) {e t : ℤ} (low : t ≤ e) :
    ((s.apply (decreaseExponent m e t).1 : ℤ) : ℚ) * 2 ^ t = signed s (m * 2 ^ e) := by
  have shift : t = e - ((e - t).toNat : ℤ) := by omega
  have same := shiftLeft_scaled m (e - t).toNat e
  rw [← shift] at same
  rw [cast_apply, ← same, decreaseExponent]
  cases s
  · exact neg_mul _ _
  · rfl

theorem add_notANumber (u : UnpackedFloat) : add Format.binary64 u .notANumber = .notANumber := by
  cases u <;> rfl

/-- A sum is stored rounded, unless infinity is added to minus infinity. -/
theorem Proper.add {u v : UnpackedFloat} (hu : Proper u) (hv : Proper v)
    (apart : ∀ s, u = .infinity s → v ≠ .infinity (-s)) :
    Stores (add Format.binary64 u v) (fitted (worth u + worth v)) := by
  have inner {m : ℕ} {e : ℤ} (s : Sign) (pos : 0 < m) (tidy : Tidy m e) (fits : e ≤ 971) :=
    signed_between s (size_pos pos e) (tidy.size_lt_limit fits)
  have small := limit_pos
  have whole := hu.stores
  have whole' := hv.stores
  cases hu with
  | infinity s =>
    cases hv with
    | infinity t =>
      obtain rfl : t = s := by
        cases s <;> cases t
        · rfl
        · exact absurd rfl (apart _ rfl)
        · exact absurd rfl (apart _ rfl)
        · rfl
      have twice : fitted (signed t excess + signed t excess) = signed t excess := by
        rw [← signed_add, fitted_signed, fitted_of_ge (by linarith [two_mul_limit_lt_excess])]
      have sum : UnpackedFloat.add Format.binary64 (.infinity t) (.infinity t) = .infinity t := by
        cases t <;> rfl
      rw [worth_infinity, twice, sum]
      exact whole
    | zero t =>
      rw [worth_infinity, worth_zero, fitted_excess_add s (neg_lt_zero.2 small) small]
      exact whole
    | finite t pos tidy fits =>
      rw [worth_infinity, worth_finite,
        fitted_excess_add s (inner t pos tidy fits).1 (inner t pos tidy fits).2]
      exact whole
  | zero s =>
    cases hv with
    | infinity t =>
      rw [add_comm, worth_infinity, worth_zero, fitted_excess_add t (neg_lt_zero.2 small) small]
      exact whole'
    | zero t =>
      have sum : ∃ z, UnpackedFloat.add Format.binary64 (.zero s) (.zero t) = .zero z := by
        cases s <;> cases t <;> exact ⟨_, rfl⟩
      obtain ⟨z, sum⟩ := sum
      rw [sum, worth_zero, worth_zero, add_zero, fitted_zero]
      exact (Proper.zero z).stores
    | finite t pos tidy fits =>
      rw [worth_zero, zero_add, (Proper.finite t pos tidy fits).fitted_worth]
      exact whole'
  | finite s pos tidy fits =>
    cases hv with
    | infinity t =>
      rw [add_comm, worth_infinity, worth_finite,
        fitted_excess_add t (inner s pos tidy fits).1 (inner s pos tidy fits).2]
      exact whole'
    | zero t =>
      rw [worth_zero, add_zero, (Proper.finite s pos tidy fits).fitted_worth]
      exact whole
    | @finite t n f pos' tidy' fits' =>
      rw [worth_finite, worth_finite, ← aligned s _ (min_le_left _ f),
        ← aligned t n (min_le_right _ f), ← add_mul, ← Int.cast_add]
      exact stores_normalize _ _ _

theorem limit_le_excess_mul {v : ℚ} (least : 2 ^ (-1074 : ℤ) ≤ v) : limit ≤ excess * v := by
  have above := zpow_mul_limit_lt_excess (show (1074 : ℤ) < 2976 by norm_num)
  have cancel : (2 : ℚ) ^ (1074 : ℤ) * 2 ^ (-1074 : ℤ) = 1 := by
    rw [← zpow_add₀ two_ne_zero]
    exact zpow_zero 2
  calc limit = 2 ^ (1074 : ℤ) * 2 ^ (-1074 : ℤ) * limit := by rw [cancel, one_mul]
    _ = 2 ^ (1074 : ℤ) * limit * 2 ^ (-1074 : ℤ) := mul_right_comm _ _ _
    _ ≤ excess * v := mul_le_mul above.le least (two_zpow_pos _).le excess_pos.le

theorem Tidy.least_le_size {m : ℕ} {e : ℤ} (h : Tidy m e) (pos : 0 < m) :
    2 ^ (-1074 : ℤ) ≤ (m : ℚ) * 2 ^ e := by
  have one : (1 : ℚ) ≤ m := by exact_mod_cast pos
  have power : (2 : ℚ) ^ (-1074 : ℤ) ≤ 2 ^ e := zpow_le_zpow_right₀ one_le_two h.least
  nlinarith [two_zpow_pos e]

/-- The digits of a product reach far enough down. -/
theorem Tidy.add_le_lastPlace {m n : ℕ} {e f : ℤ} (h : Tidy m e) (h' : Tidy n f) (pos : 0 < m)
    (pos' : 0 < n) :
    e + f ≤ lastPlace ((m * n : ℕ) * 2 ^ (e + f)) := by
  rw [lastPlace, log_scaled (Nat.mul_pos pos pos')]
  have long {k : ℕ} (full : 4503599627370496 ≤ k) : 52 ≤ k.log2 := (Nat.le_log2 (by omega)).2 full
  have digits : 52 ≤ (m * n).log2 ∨ e = -1074 ∧ f = -1074 := by
    obtain full | e_eq := h.full
    · exact .inl (long (full.trans (Nat.le_mul_of_pos_right m pos')))
    · obtain full | f_eq := h'.full
      · exact .inl (long (full.trans (Nat.le_mul_of_pos_left n pos)))
      · exact .inr ⟨e_eq, f_eq⟩
  omega

theorem mul_notANumber (u : UnpackedFloat) : mul Format.binary64 u .notANumber = .notANumber := by
  cases u <;> rfl

theorem mul_infinity_zero (s t : Sign) : mul Format.binary64 (.infinity s)
    (.zero t) = .notANumber := rfl

theorem mul_zero_infinity (s t : Sign) : mul Format.binary64 (.zero s)
    (.infinity t) = .notANumber := rfl

/-- A product is stored rounded, unless infinity is multiplied with zero. -/
theorem Proper.mul {u v : UnpackedFloat} (hu : Proper u) (hv : Proper v)
    (apart : ∀ s t, (u = .infinity s → v ≠ .zero t) ∧ (u = .zero s → v ≠ .infinity t)) :
    Stores (mul Format.binary64 u v) (fitted (worth u * worth v)) := by
  have infinite (s t : Sign) {v w : ℚ} (large : limit ≤ v * w) :
      Stores (.infinity (s * t)) (fitted (signed s v * signed t w)) := by
    rw [← signed_mul, fitted_signed, fitted_of_ge large]
    exact (Proper.infinity (s * t)).stores
  cases hu with
  | infinity s =>
    cases hv with
    | infinity t =>
      have least : 2 ^ (-1074 : ℤ) ≤ excess := by
        rw [excess]
        exact zpow_le_zpow_right₀ one_le_two (by norm_num)
      exact infinite s t (limit_le_excess_mul least)
    | zero t => exact absurd rfl ((apart s t).1 rfl)
    | finite t pos tidy fits => exact infinite s t (limit_le_excess_mul (tidy.least_le_size pos))
  | zero s =>
    cases hv with
    | infinity t => exact absurd rfl ((apart s t).2 rfl)
    | zero t =>
      rw [worth_zero, zero_mul, fitted_zero]
      exact (Proper.zero (s * t)).stores
    | finite t pos tidy fits =>
      rw [worth_zero, zero_mul, fitted_zero]
      exact (Proper.zero (s * t)).stores
  | finite s pos tidy fits =>
    cases hv with
    | infinity t =>
      refine infinite s t ?_
      rw [mul_comm]
      exact limit_le_excess_mul (tidy.least_le_size pos)
    | zero t =>
      rw [worth_zero, mul_zero, fitted_zero]
      exact (Proper.zero (s * t)).stores
    | @finite t n f pos' tidy' fits' =>
      have product :=
        isRounded_roundWithAccuracy (s * t) (Nat.mul_pos pos pos')
          (tidy.add_le_lastPlace tidy' pos pos')
      have stored := product.stores (size_pos (Nat.mul_pos pos pos') _).le
      rw [worth_finite, worth_finite, ← signed_mul, mul_mul_mul_comm, ← zpow_add₀ two_ne_zero,
        ← Nat.cast_mul]
      exact stored

theorem Proper.abs_worth (h : Proper u) :
    |worth u| < limit ∨ |worth u| = excess ∧ ∃ s, u = .infinity s := by
  cases h with
  | infinity s => exact .inr ⟨by rw [worth_infinity, abs_signed, abs_of_pos excess_pos], s, rfl⟩
  | zero s => exact .inl (by rw [worth_zero, abs_zero]; exact limit_pos)
  | @finite s m e pos tidy fits =>
    rw [worth_finite, abs_signed, abs_of_pos (size_pos pos e)]
    exact .inl (tidy.size_lt_limit fits)

theorem Proper.isNaN {u : UnpackedFloat} (h : Proper u) : u.isNaN = false := by cases h <;> rfl

theorem Proper.neg {u : UnpackedFloat} (h : Proper u) : Proper u.neg ∧ worth u.neg = -worth u := by
  cases h with
  | infinity s => exact ⟨.infinity _, signed_neg s _⟩
  | zero s => exact ⟨.zero _, neg_zero.symm⟩
  | finite s pos tidy fits => exact ⟨.finite _ pos tidy fits, signed_neg s _⟩

theorem Proper.abs {u : UnpackedFloat} (h : Proper u) : Proper u.abs ∧ worth u.abs = |worth u| := by
  cases h with
  | infinity s =>
    exact ⟨.infinity _, by rw [worth_infinity, abs_signed, abs_of_pos excess_pos]; rfl⟩
  | zero s => exact ⟨.zero _, abs_zero.symm⟩
  | finite s pos tidy fits =>
    exact ⟨.finite _ pos tidy fits, by
      rw [worth_finite, abs_signed, abs_of_pos (size_pos pos _)]; rfl⟩

theorem sub_eq (u v : UnpackedFloat) :
    sub Format.binary64 u v = add Format.binary64 u v.neg := by
  cases u with
  | notANumber => rfl
  | infinity s =>
    cases v with
    | infinity t => rfl
    | _ => rfl
  | zero s =>
    cases v with
    | zero t => rfl
    | _ => rfl
  | finite s m e pos =>
    cases v with
    | finite t n f pos' =>
      refine congrArg (normalize Format.binary64 · (min e f) .positive) ?_
      cases t
      · exact sub_neg_eq_add _ _
      · exact sub_eq_add_neg _ _
    | _ => rfl

theorem sub_notANumber (u : UnpackedFloat) : sub Format.binary64 u .notANumber = .notANumber := by
  cases u <;> rfl

namespace Length

variable {x y z : Length}

/-- The number that a length stands for. -/
def value (x : Length) : ℚ := worth x.toModel.unpack

theorem eq_notANumber_or_proper (x : Length) :
    x.isNaN = true ∧ x.toModel.unpack = .notANumber ∨ x.isNaN = false ∧
    Proper x.toModel.unpack := by
  obtain none | proper := Wayfinder.eq_notANumber_or_proper x.toModel.toBits.toBitVec
  · exact .inl ⟨congrArg UnpackedFloat.isNaN none, none⟩
  · exact .inr ⟨proper.isNaN, proper⟩

theorem proper (number : x.isNaN = false) : Proper x.toModel.unpack := by
  obtain ⟨nan, -⟩ | ⟨-, proper⟩ := x.eq_notANumber_or_proper
  · rw [number] at nan
    cases nan
  · exact proper

theorem fitted_value (number : x.isNaN = false) : fitted x.value = x.value :=
  (proper number).fitted_worth

theorem abs_value (number : x.isNaN = false) : |x.value| < limit ∨ |x.value| = excess :=
  (proper number).abs_worth.imp id And.left

theorem value_le_excess (number : x.isNaN = false) : x.value ≤ excess := by
  refine (le_abs_self _).trans ?_
  obtain small | large := abs_value number
  · linarith [two_mul_limit_lt_excess, limit_pos]
  · exact large.le

theorem infinity_of_value (number : x.isNaN = false) (infinite : |x.value| = excess) :
    ∃ s, x.toModel.unpack = .infinity s := by
  obtain small | ⟨-, infinity⟩ := (proper number).abs_worth
  · change |x.value| < limit at small
    linarith [limit_pos, two_mul_limit_lt_excess]
  · exact infinity

theorem compares (hx : x.isNaN = false) (hy : y.isNaN = false) :
    ∃ o, x.toModel.unpack.compare y.toModel.unpack = some o ∧ o.Compares x.value y.value :=
  (proper hx).compares (proper hy)

theorem le_iff (hx : x.isNaN = false) (hy : y.isNaN = false) : x ≤ y ↔ x.value ≤ y.value := by
  obtain ⟨o, same, compares⟩ := compares hx hy
  rw [← compares.ne_gt]
  change decide ((Option.any (·.isLE) (x.toModel.unpack.compare y.toModel.unpack)) = true) = true ↔
    _
  rw [same]
  cases o <;> decide

theorem lt_iff (hx : x.isNaN = false) (hy : y.isNaN = false) : x < y ↔ x.value < y.value := by
  obtain ⟨o, same, compares⟩ := compares hx hy
  rw [← compares.eq_lt]
  change decide ((x.toModel.unpack.compare y.toModel.unpack == some .lt) = true) = true ↔ _
  rw [same]
  cases o <;> decide

theorem number_of_compare {o : Ordering}
    (some : x.toModel.unpack.compare y.toModel.unpack = some o) :
    x.isNaN = false ∧ y.isNaN = false := by
  obtain ⟨-, none⟩ | ⟨hx, -⟩ := x.eq_notANumber_or_proper
  · rw [none] at some
    cases some
  · obtain ⟨-, none⟩ | ⟨hy, -⟩ := y.eq_notANumber_or_proper
    · rw [none, compare_notANumber] at some
      cases some
    · exact ⟨hx, hy⟩

theorem number_of_le (le : x ≤ y) : x.isNaN = false ∧ y.isNaN = false := by
  have any : Option.any (·.isLE) (x.toModel.unpack.compare y.toModel.unpack) = true :=
    of_decide_eq_true le
  obtain ⟨o, some, -⟩ := (Option.any_eq_true _ _).1 any
  exact number_of_compare some

theorem number_of_lt (lt : x < y) : x.isNaN = false ∧ y.isNaN = false :=
  number_of_compare (beq_iff_eq.1 (of_decide_eq_true lt))

theorem value_nonneg (nonneg : 0 ≤ x) : 0 ≤ x.value := (le_iff rfl (number_of_le nonneg).2).1 nonneg

theorem le_refl (number : x.isNaN = false) : x ≤ x := (le_iff number number).2 le_rfl

theorem le_trans (h : x ≤ y) (h' : y ≤ z) : x ≤ z := by
  obtain ⟨hx, hy⟩ := number_of_le h
  obtain ⟨-, hz⟩ := number_of_le h'
  rw [le_iff hx hy] at h
  rw [le_iff hy hz] at h'
  rw [le_iff hx hz]
  exact h.trans h'

theorem le_total (hx : x.isNaN = false) (hy : y.isNaN = false) : x ≤ y ∨ y ≤ x := by
  rw [le_iff hx hy, le_iff hy hx]
  exact Rat.le_total

theorem not_lt (hx : x.isNaN = false) (hy : y.isNaN = false) : ¬ x < y ↔ y ≤ x := by
  rw [lt_iff hx hy, le_iff hy hx]
  exact Rat.not_lt

theorem lt_of_le_of_lt (h : x ≤ y) (h' : y < z) : x < z := by
  obtain ⟨hx, hy⟩ := number_of_le h
  obtain ⟨-, hz⟩ := number_of_lt h'
  rw [le_iff hx hy] at h
  rw [lt_iff hy hz] at h'
  rw [lt_iff hx hz]
  exact h.trans_lt h'

theorem le_of_lt (h : x < y) : x ≤ y := by
  obtain ⟨hx, hy⟩ := number_of_lt h
  rw [lt_iff hx hy] at h
  rw [le_iff hx hy]
  exact h.le

theorem zero_le_nonneg (x : Length) : 0 ≤ x.nonneg := by
  unfold nonneg
  split
  · exact le_of_lt ‹_›
  · exact le_refl rfl

/-- An operation that keeps NaNs gives a number only for numbers. -/
theorem number_of_result {op : UnpackedFloat → UnpackedFloat → UnpackedFloat}
    (left : ∀ v, op .notANumber v = .notANumber) (right : ∀ u, op u .notANumber = .notANumber)
    (number : (unpack Format.binary64
      (pack Format.binary64 (op x.toModel.unpack y.toModel.unpack))).isNaN = false) :
    x.isNaN = false ∧ y.isNaN = false := by
  obtain ⟨-, none⟩ | ⟨hx, -⟩ := x.eq_notANumber_or_proper
  · rw [none, left] at number
    cases number
  · obtain ⟨-, none⟩ | ⟨hy, -⟩ := y.eq_notANumber_or_proper
    · rw [none, right] at number
      cases number
    · exact ⟨hx, hy⟩

theorem number_of_add (number : (x + y).isNaN = false) : x.isNaN = false ∧ y.isNaN = false :=
  number_of_result (fun _ ↦ rfl) add_notANumber number

theorem number_of_mul (number : (x * y).isNaN = false) : x.isNaN = false ∧ y.isNaN = false :=
  number_of_result (fun _ ↦ rfl) mul_notANumber number

/-- A sum is rounded, unless infinity is added to minus infinity. -/
theorem add_spec (hx : x.isNaN = false) (hy : y.isNaN = false) :
    |x.value| = excess ∧ y.value = -x.value ∧ (x + y).isNaN = true ∨
      (|x.value| = excess → y.value ≠ -x.value) ∧ (x + y).isNaN = false ∧
        (x + y).value = fitted (x.value + y.value) := by
  by_cases clash : |x.value| = excess ∧ y.value = -x.value
  · obtain ⟨infinite, opposite⟩ := clash
    refine .inl ⟨infinite, opposite, ?_⟩
    have infinite' : |y.value| = excess := by rw [opposite, abs_neg, infinite]
    obtain ⟨s, hs⟩ := infinity_of_value hx infinite
    obtain ⟨t, ht⟩ := infinity_of_value hy infinite'
    rw [value, value, hs, ht, worth_infinity, worth_infinity] at opposite
    change (unpack Format.binary64 (pack Format.binary64
      (UnpackedFloat.add Format.binary64 x.toModel.unpack y.toModel.unpack))).isNaN = true
    rw [hs, ht]
    have large := excess_pos
    cases s <;> cases t <;> simp only [signed] at opposite
    · linarith
    · rfl
    · rfl
    · linarith
  · refine .inr ⟨fun infinite opposite ↦ clash ⟨infinite, opposite⟩, ?_⟩
    have stored := (proper hx).add (proper hy) fun s hu hv ↦ clash ?_
    · exact ⟨stored.proper.isNaN, stored.worth_eq⟩
    · rw [value, value, hu, hv, worth_infinity, worth_infinity, abs_signed,
        abs_of_pos excess_pos, signed_neg]
      exact ⟨rfl, rfl⟩

theorem value_add (number : (x + y).isNaN = false) :
    (x + y).value = fitted (x.value + y.value) := by
  obtain ⟨hx, hy⟩ := number_of_add number
  obtain ⟨-, -, nan⟩ | ⟨-, -, same⟩ := add_spec hx hy
  · rw [number] at nan
    cases nan
  · exact same

theorem unpack_neg (x : Length) : (-x).toModel.unpack = x.toModel.unpack.neg := by
  change unpack Format.binary64 (pack Format.binary64 x.toModel.unpack.neg) = _
  obtain ⟨-, none⟩ | ⟨-, proper⟩ := x.eq_notANumber_or_proper
  · rw [none]
    rfl
  · exact proper.neg.1.unpack_pack

theorem value_neg (number : x.isNaN = false) : (-x).value = -x.value := by
  rw [value, unpack_neg]
  exact (proper number).neg.2

theorem value_abs (number : x.isNaN = false) : x.abs.isNaN = false ∧ value x.abs = |x.value| := by
  have stored := (proper number).abs.1.stores
  exact ⟨stored.proper.isNaN, stored.worth_eq.trans (proper number).abs.2⟩

theorem sub_eq_add (x y : Length) : x - y = x + -y := by
  change Float.ofModel
    (.pack (UnpackedFloat.sub Format.binary64 x.toModel.unpack y.toModel.unpack)) =
    Float.ofModel (.pack (UnpackedFloat.add Format.binary64 x.toModel.unpack (-y).toModel.unpack))
  rw [unpack_neg, sub_eq]

theorem number_of_sub (number : (x - y).isNaN = false) : x.isNaN = false ∧ y.isNaN = false :=
  number_of_result (fun _ ↦ rfl) sub_notANumber number

theorem value_sub (number : (x - y).isNaN = false) :
    (x - y).value = fitted (x.value - y.value) := by
  have hy := (number_of_sub number).2
  rw [sub_eq_add] at number ⊢
  rw [value_add number, value_neg hy, ← sub_eq_add_neg]

theorem value_mul (number : (x * y).isNaN = false) :
    (x * y).value = fitted (x.value * y.value) := by
  obtain ⟨hx, hy⟩ := number_of_mul number
  change (unpack Format.binary64 (pack Format.binary64
    (UnpackedFloat.mul Format.binary64 x.toModel.unpack y.toModel.unpack))).isNaN = false at number
  have stored := (proper hx).mul (proper hy) fun s t ↦ ⟨fun hu hv ↦ ?_, fun hu hv ↦ ?_⟩
  · exact stored.worth_eq
  · rw [hu, hv, mul_infinity_zero] at number
    cases number
  · rw [hu, hv, mul_zero_infinity] at number
    cases number

end Length

end Wayfinder
