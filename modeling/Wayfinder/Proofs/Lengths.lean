import Mathlib
import Wayfinder.Length
import Wayfinder.Proofs.Rounding

namespace Wayfinder

open Float.Model (Format totalExponent UnpackedFloat)
open Float.Model.UnpackedFloat

structure Tidy (m : ℕ) (e : ℤ) : Prop where
  few : m < 9007199254740992
  least : -1074 ≤ e
  full : 4503599627370496 ≤ m ∨ e = -1074

def lowEnd (em : ExtendedMantissa) : ℚ := em.mantissa + if em.roundBit then 1 / 2 else 0

theorem lowEnd_bounds (em : ExtendedMantissa) :
    em.mantissa ≤ lowEnd em ∧ lowEnd em ≤ em.mantissa + 1 / 2 := by
  unfold lowEnd
  split <;> constructor <;> linarith

/-- The mantissa and its residual bits say all about the number that rounding depends on. -/
structure Residual (em : ExtendedMantissa) (q : ℚ) : Prop where
  le : lowEnd em ≤ q
  lt : q < lowEnd em + 1 / 2
  exact : em.stickyBit = false ↔ q = lowEnd em

namespace Residual

variable {em : ExtendedMantissa} {q : ℚ}

theorem floor (h : Residual em q) : ⌊q⌋ = em.mantissa := by
  obtain ⟨above, below⟩ := lowEnd_bounds em
  refine Int.floor_eq_iff.2 ?_
  rw [Int.cast_natCast]
  exact ⟨above.trans h.le, by linarith [h.lt]⟩

theorem nearest_eq (h : Residual em q) : nearest q = em.roundedMantissa := by
  have fract : Int.fract q = q - em.mantissa := by rw [Int.fract, h.floor, Int.cast_natCast]
  rw [nearest, fract, h.floor]
  obtain ⟨m, round, sticky⟩ := em
  obtain ⟨le, lt, exact⟩ := h
  cases round <;> simp only [lowEnd, if_true, if_false, Bool.false_eq_true, add_zero] at le lt exact
  · rw [if_pos (by linarith)]
    cases sticky <;> rfl
  · rw [if_neg (by linarith)]
    cases sticky with
    | false =>
      rw [if_neg (by linarith [exact.1 rfl])]
      exact (Nat.cast_add m (m % 2)).symm
    | true =>
      have strict : (m : ℚ) + 1 / 2 < q := lt_of_le_of_ne le fun same ↦ by cases exact.2 same.symm
      rw [if_pos (by linarith)]
      rfl

theorem shiftRightOne (h : Residual em q) : Residual em.shiftRightOne (q / 2) := by
  have split : ((em.mantissa % 2 : ℕ) : ℚ) + 2 * ((em.mantissa / 2 : ℕ) : ℚ) = em.mantissa := by
    exact_mod_cast Nat.mod_add_div em.mantissa 2
  have low : 2 * lowEnd em.shiftRightOne = em.mantissa := by
    rw [← split, lowEnd, ExtendedMantissa.shiftRightOne]
    obtain even | odd := Nat.mod_two_eq_zero_or_one em.mantissa
    · simp [even]
    · simp [odd]
      ring
  obtain ⟨above, below⟩ := lowEnd_bounds em
  obtain ⟨le, lt, exact⟩ := h
  refine ⟨by linarith, by linarith, ?_⟩
  · have bits : em.shiftRightOne.stickyBit = false ↔ q = em.mantissa := by
      rw [ExtendedMantissa.shiftRightOne, Bool.or_eq_false_iff, exact]
      unfold lowEnd at le ⊢
      cases round : em.roundBit with
      | false => simp
      | true =>
        rw [round, if_pos rfl] at le
        simp only [Bool.true_eq_false, false_and, false_iff]
        intro same
        linarith
    rw [bits, ← low]
    constructor <;> intro same <;> linarith

theorem shiftRight (h : Residual em q) (n : ℕ) : Residual (em >>> n) (q / 2 ^ n) := by
  change Residual (n.repeat ExtendedMantissa.shiftRightOne em) _
  induction n with
  | zero =>
    rw [pow_zero, div_one]
    exact h
  | succ n ih =>
    rw [Nat.repeat, pow_succ, ← div_div]
    exact ih.shiftRightOne

theorem of_exact (m : ℕ) : Residual (.ofMantissaAndAccuracy m .exact) m := by
  constructor <;> simp [lowEnd, ExtendedMantissa.ofMantissaAndAccuracy]

end Residual

theorem log_scaled {m : ℕ} (pos : 0 < m) (e : ℤ) : Int.log 2 ((m : ℚ) * 2 ^ e) = m.log2 + e := by
  have positive : (0 : ℚ) < m * 2 ^ e := mul_pos (by exact_mod_cast pos) (two_zpow_pos e)
  have scaled (k : ℕ) : ((2 : ℕ) : ℚ) ^ ((k : ℤ) + e) = ((2 ^ k : ℕ) : ℚ) * 2 ^ e := by
    rw [Nat.cast_ofNat, zpow_add₀ two_ne_zero, zpow_natCast, Nat.cast_pow, Nat.cast_ofNat]
  refine le_antisymm (Int.lt_add_one_iff.1 ?_) ?_
  · refine (Int.lt_zpow_iff_log_lt one_lt_two positive).1 ?_
    rw [add_right_comm, ← Nat.cast_succ, scaled]
    exact mul_lt_mul_of_pos_right (by exact_mod_cast Nat.lt_log2_self) (two_zpow_pos e)
  · refine (Int.zpow_le_iff_le_log one_lt_two positive).1 ?_
    rw [scaled]
    exact mul_le_mul_of_nonneg_right (by exact_mod_cast Nat.log2_self_le pos.ne')
      (two_zpow_pos e).le

theorem targetExponent_eq {m : ℕ} (pos : 0 < m) (e : ℤ) :
    Format.binary64.targetExponent (totalExponent m e) = lastPlace (m * 2 ^ e) := by
  rw [lastPlace, log_scaled pos, totalExponent, Format.targetExponent]
  change max ((m.log2 : ℤ) + 1 + e - 53) (-1074) = _
  congr 1
  omega

theorem shiftToExponent_eq (m : ℕ) {e t : ℤ} (low : e ≤ t) : shiftToExponent m e .exact t =
    (ExtendedMantissa.ofMantissaAndAccuracy m .exact >>> (t - e).toNat, t) := by
  rw [shiftToExponent, Int.toNat_of_nonneg (by omega), add_sub_cancel]

/-- Rounding may carry into a digit more, which is then the only one. -/
theorem carry_eq {r : ℕ} {t : ℤ} (few : r ≤ 9007199254740992) (least : -1074 ≤ t)
    (full : 4503599627370496 ≤ r ∨ t = -1074) :
    ∃ (em : ExtendedMantissa) (e : ℤ), shiftToTargetExponent Format.binary64 r t .exact = (em, e) ∧
      Tidy em.mantissa e ∧ (em.mantissa : ℚ) * 2 ^ e = r * 2 ^ t := by
  obtain less | rfl := few.lt_or_eq
  · have place : Format.binary64.targetExponent (totalExponent r t) ≤ t := by
      have digits : r.log2 < 53 := by
        obtain rfl | pos := r.eq_zero_or_pos
        · decide
        · exact (Nat.log2_lt pos.ne').2 less
      change max ((r.log2 : ℤ) + 1 + t - 53) (-1074) ≤ t
      omega
    refine ⟨.ofMantissaAndAccuracy r .exact, t, ?_, ⟨less, least, full⟩, rfl⟩
    rw [shiftToTargetExponent, shiftToExponent, Int.toNat_of_nonpos (by omega),
      Nat.cast_zero, add_zero]
    rfl
  · have place : Format.binary64.targetExponent (totalExponent 9007199254740992 t) = t + 1 := by
      have digits : (9007199254740992 : ℕ).log2 = 53 := by decide +kernel
      rw [totalExponent, digits]
      change max ((53 : ℤ) + 1 + t - 53) (-1074) = t + 1
      omega
    refine ⟨⟨4503599627370496, false, false⟩, t + 1, ?_, ⟨by norm_num, by omega, .inl le_rfl⟩, ?_⟩
    · have one : (t + 1 - t).toNat = 1 := by omega
      rw [shiftToTargetExponent, place, shiftToExponent_eq _ (by omega), one]
      rfl
    · rw [zpow_add₀ two_ne_zero, zpow_one]
      push_cast
      ring

def ofMantissa (s : Sign) (m : ℕ) (e : ℤ) : UnpackedFloat :=
  if h : m = 0 then .zero s else .finite s m e (Nat.pos_of_ne_zero h)

theorem ofMantissa_zero (s : Sign) (e : ℤ) : ofMantissa s 0 e = .zero s := rfl

theorem ofMantissa_of_pos (s : Sign) {m : ℕ} (pos : 0 < m) (e : ℤ) :
    ofMantissa s m e = .finite s m e pos :=
  dif_neg pos.ne'

/-- The result of rounding a number of the given sign and size. -/
def IsRounded (s : Sign) (v : ℚ) (u : UnpackedFloat) : Prop :=
  ∃ (m : ℕ) (e : ℤ), u = ofMantissa s m e ∧ Tidy m e ∧ (m : ℚ) * 2 ^ e = roundedSize v

theorem isRounded_roundWithAccuracy (s : Sign) {m : ℕ} (pos : 0 < m) {e : ℤ}
    (low : e ≤ lastPlace (m * 2 ^ e)) :
    IsRounded s (m * 2 ^ e) (roundWithAccuracy Format.binary64 s m e .exact) := by
  have positive : (0 : ℚ) < m * 2 ^ e := mul_pos (by exact_mod_cast pos) (two_zpow_pos e)
  have place := targetExponent_eq pos e
  have cut := (Residual.of_exact m).shiftRight (lastPlace (m * 2 ^ e) - e).toNat
  have scaled : (m : ℚ) / 2 ^ (lastPlace (m * 2 ^ e) - e).toNat =
      m * 2 ^ e / 2 ^ lastPlace (m * 2 ^ e) := by
    rw [← zpow_natCast, Int.toNat_of_nonneg (by omega), zpow_sub₀ two_ne_zero]
    field_simp
  rw [scaled] at cut
  have few := nearest_le_digits ((m : ℚ) * 2 ^ e)
  have full := digits_le_nearest positive
  rw [cut.nearest_eq] at few full
  obtain ⟨em, e', second, tidy, same⟩ :=
    carry_eq (by exact_mod_cast few) (le_lastPlace _) (by exact_mod_cast full)
  refine ⟨em.mantissa, e', ?_, tidy, ?_⟩
  · have first : shiftToTargetExponent Format.binary64 m e .exact =
        (ExtendedMantissa.ofMantissaAndAccuracy m .exact >>> (lastPlace (m * 2 ^ e) - e).toNat,
          lastPlace (m * 2 ^ e)) := by
      rw [shiftToTargetExponent, place, shiftToExponent_eq m low]
    unfold roundWithAccuracy
    simp only [first, second]
    rfl
  · rw [same, roundedSize, cut.nearest_eq, Int.cast_natCast]

theorem shiftLeft_scaled (m k : ℕ) (e : ℤ) : ((m <<< k : ℕ) : ℚ) * 2 ^ (e - k) = m * 2 ^ e := by
  rw [Nat.shiftLeft_eq, zpow_sub₀ two_ne_zero, zpow_natCast]
  push_cast
  field_simp

theorem isRounded_round (s : Sign) {m : ℕ} (pos : 0 < m) (e : ℤ) :
    IsRounded s (m * 2 ^ e) (UnpackedFloat.round Format.binary64 s m e) := by
  unfold UnpackedFloat.round
  simp only [targetExponent_eq pos, decreaseExponent]
  set k := (e - lastPlace (m * 2 ^ e)).toNat with hk
  have same := shiftLeft_scaled m k e
  have shifted : 0 < m <<< k := by
    rw [Nat.shiftLeft_eq]
    positivity
  have low : e - k ≤ lastPlace ((m <<< k : ℕ) * 2 ^ (e - k)) := by
    rw [same]
    omega
  rw [← same]
  exact isRounded_roundWithAccuracy s shifted low

def ofFields (s : Sign) (ev : BitVec 11) (mv : BitVec 52) : UnpackedFloat :=
  if ev.toNat = 2047 then if mv.toNat = 0 then .infinity s else .notANumber
  else if ev.toNat = 0 then ofMantissa s mv.toNat (-1074)
  else ofMantissa s (4503599627370496 + mv.toNat) (ev.toNat - 1075)

theorem unpack_eq_ofFields (b : BitVec Format.binary64.numBits) : unpack Format.binary64 b =
    ofFields (.ofBitVec (unpackSign b)) (unpackExponent b) (unpackMantissa b) := by
  generalize hs : Sign.ofBitVec (unpackSign b) = s
  generalize he : unpackExponent b = ev
  generalize hm : unpackMantissa b = mv
  change BitVec 11 at ev
  change BitVec 52 at mv
  have ones : ev = -1#11 ↔ ev.toNat = 2047 := BitVec.toNat_inj.symm
  have none : ev = 0#11 ↔ ev.toNat = 0 := BitVec.toNat_inj.symm
  have empty : mv = 0#52 ↔ mv.toNat = 0 := BitVec.toNat_inj.symm
  have implicit : (1#1 ++ mv).toNat = 4503599627370496 + mv.toNat := by
    rw [BitVec.toNat_append, ← Nat.shiftLeft_add_eq_or_of_lt mv.isLt]
    rfl
  unfold unpack ofFields
  simp only [hs, he, hm]
  split
  · rename_i full
    rw [if_pos (ones.1 full)]
    split
    · rw [if_pos (empty.1 ‹_›)]
    · rw [if_neg (mt empty.2 ‹_›)]
  · rename_i notFull
    rw [if_neg (mt ones.2 notFull)]
    split
    · rename_i zero
      rw [if_pos (none.1 zero), ofMantissa]
      split
      · rw [dif_pos (empty.1 ‹_›)]
      · rw [dif_neg (mt empty.2 ‹_›)]
        congr 1
        rw [none.1 zero]
        rfl
    · rename_i nonzero
      rw [if_neg (mt none.2 nonzero), ofMantissa, dif_neg (by omega)]
      congr 1

theorem unpack_packComponents (s : Sign) (ev : BitVec 11) (mv : BitVec 52) :
    unpack Format.binary64 (packComponents Format.binary64 s ev mv) = ofFields s ev mv := by
  rw [unpack_eq_ofFields, unpackSign_packComponents, Sign.ofBitVec_toBitVec,
    unpackExponent_packComponents, unpackMantissa_packComponents]

theorem pack_ofMantissa (s : Sign) {m : ℕ} {e : ℤ} (pos : 0 < m) :
    pack Format.binary64 (ofMantissa s m e) =
    if 2048 ≤ (e + 1075).toNat + 1 then packedInfinity Format.binary64 s
    else if m.log2 + 1 = 53 then packComponents Format.binary64 s (.ofNat 11 (e + 1075).toNat)
    (.ofNat 52 m)
    else packComponents Format.binary64 s 0 (.ofNat 52 m) := by
  have bias :
      (e + Format.binary64.exponentBias + Format.binary64.mantissaBitsWithoutImplicit).toNat =
      (e + 1075).toNat := by
    change (e + (1023 : ℕ) + (52 : ℕ)).toNat = (e + 1075).toNat
    omega
  rw [ofMantissa_of_pos s pos, pack]
  simp only [bias]
  rfl

/-- What is packed is read back as it was, except for what is too large. -/
theorem unpack_pack_ofMantissa (s : Sign) {m : ℕ} {e : ℤ} (tidy : Tidy m e) :
    unpack Format.binary64 (pack Format.binary64 (ofMantissa s m e)) =
      if e ≤ 971 then ofMantissa s m e else .infinity s := by
  obtain ⟨few, least, full⟩ := tidy
  obtain rfl | pos := m.eq_zero_or_pos
  · rw [if_pos (by omega), ofMantissa_zero]
    exact unpack_packComponents s 0 0
  · rw [pack_ofMantissa s pos]
    split
    · rw [if_neg (by omega)]
      exact unpack_packComponents s _ 0
    · have fits : e ≤ 971 := by omega
      rw [if_pos fits]
      split
      · rename_i long
        have top : 4503599627370496 ≤ m := (Nat.le_log2 pos.ne').1 (by omega : 52 ≤ m.log2)
        have exponent : (BitVec.ofNat 11 (e + 1075).toNat).toNat = (e + 1075).toNat :=
          Nat.mod_eq_of_lt (by omega)
        have mantissa : 4503599627370496 + (BitVec.ofNat 52 m).toNat = m := by
          change 4503599627370496 + m % 4503599627370496 = m
          omega
        have same : ((e + 1075).toNat : ℤ) - 1075 = e := by omega
        rw [unpack_packComponents, ofFields, exponent, mantissa, same, if_neg (by omega),
          if_neg (by omega)]
      · rename_i short
        have below : m < 4503599627370496 := by
          have : m.log2 < 53 := (Nat.log2_lt pos.ne').2 few
          exact (Nat.log2_lt pos.ne').1 (by omega : m.log2 < 52)
        obtain rfl : e = -1074 := by omega
        have mantissa : (BitVec.ofNat 52 m).toNat = m := Nat.mod_eq_of_lt below
        rw [unpack_packComponents, ofFields, mantissa]
        rfl

inductive Proper : UnpackedFloat → Prop
  | infinity (s : Sign) : Proper (.infinity s)
  | zero (s : Sign) : Proper (.zero s)
  | finite (s : Sign) {m : ℕ} {e : ℤ} (pos : 0 < m) (tidy : Tidy m e) (fits : e ≤ 971) :
      Proper (.finite s m e pos)

theorem proper_ofMantissa (s : Sign) {m : ℕ} {e : ℤ} (tidy : Tidy m e) (fits : e ≤ 971) :
    Proper (ofMantissa s m e) := by
  obtain rfl | pos := m.eq_zero_or_pos
  · exact .zero s
  · rw [ofMantissa_of_pos s pos]
    exact .finite s pos tidy fits

theorem eq_notANumber_or_proper (b : BitVec Format.binary64.numBits) :
    unpack Format.binary64 b = .notANumber ∨ Proper (unpack Format.binary64 b) := by
  rw [unpack_eq_ofFields]
  generalize Sign.ofBitVec (unpackSign b) = s
  generalize unpackExponent b = ev
  generalize unpackMantissa b = mv
  have small : ev.toNat < 2048 := ev.isLt
  have few : mv.toNat < 4503599627370496 := mv.isLt
  unfold ofFields
  split
  · split
    · exact .inr (.infinity s)
    · exact .inl rfl
  · split
    · exact .inr (proper_ofMantissa s ⟨by omega, by omega, .inr rfl⟩ (by omega))
    · exact .inr (proper_ofMantissa s ⟨by omega, by omega, .inl (by omega)⟩ (by omega))

theorem Proper.unpack_pack {u : UnpackedFloat} (h : Proper u) :
    unpack Format.binary64 (pack Format.binary64 u) = u := by
  cases h with
  | infinity s => exact unpack_packComponents s _ 0
  | zero s => exact unpack_packComponents s 0 0
  | finite s pos tidy fits =>
    rw [← ofMantissa_of_pos s pos, unpack_pack_ofMantissa s tidy, if_pos fits]

end Wayfinder
