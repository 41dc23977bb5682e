import Wayfinder.Proofs.Grammar
import Wayfinder.Proofs.LengthArithmetic

namespace Wayfinder

open Json (IsDigits)

inductive IsNumeral : List Char → Prop
  | whole {digits : List Char} (isWhole : IsDigits digits) : IsNumeral digits
  | fraction {digits places : List Char} (isWhole : IsDigits digits) (isPlaces : IsDigits places) :
      IsNumeral (digits ++ '.' :: places)

theorem IsNumeral.exists_cons {text : List Char} (h : IsNumeral text) :
    ∃ c rest, text = c :: rest ∧ c.isDigit := by
  cases h with
  | whole isWhole => exact isWhole.exists_cons
  | fraction isWhole =>
    obtain ⟨c, rest, rfl, digit⟩ := isWhole.exists_cons
    exact ⟨c, _, rfl, digit⟩

theorem IsNumeral.percent_not_mem {text : List Char} (h : IsNumeral text) : '%' ∉ text := by
  have other {digits : List Char} (isDigits : IsDigits digits) : '%' ∉ digits := by
    intro member
    cases isDigits.all '%' member
  cases h with
  | whole isWhole => exact other isWhole
  | fraction isWhole isPlaces =>
    intro member
    obtain first | rest := List.mem_append.1 member
    · exact other isWhole first
    · obtain point | rest := List.mem_cons.1 rest
      · cases point
      · exact other isPlaces rest

namespace Decimal

variable {digits : List Char}

theorem isDigit_of_mem_zeros {n : Nat} {c : Char} (member : c ∈ zeros n) : c.isDigit := by
  rw [List.eq_of_mem_replicate member]
  rfl

/-- However the point is placed among digits, there are digits before it and after it. -/
theorem isNumeral_point (isDigits : IsDigits digits) (exponent : Int) :
    IsNumeral (plainLayout.point digits exponent) := by
  obtain ⟨some, all⟩ := isDigits
  have positive := List.length_pos_iff.2 some
  unfold Layout.point
  dsimp only
  split
  · rw [plainLayout, List.append_nil]
    refine .whole ⟨List.append_ne_nil_of_left_ne_nil some _, fun c member ↦ ?_⟩
    obtain digit | zero := List.mem_append.1 member
    · exact all c digit
    · exact isDigit_of_mem_zeros zero
  · rename_i places
    split
    · rename_i fewer
      refine .fraction ⟨?_, fun c member ↦ all c (List.mem_of_mem_take member)⟩
        ⟨?_, fun c member ↦ all c (List.mem_of_mem_drop member)⟩
      · apply List.ne_nil_of_length_pos
        rw [List.length_take]
        omega
      · apply List.ne_nil_of_length_pos
        rw [List.length_drop]
        omega
    · have zero : IsDigits ['0'] := .of_all rfl
      refine .fraction zero ⟨List.append_ne_nil_of_right_ne_nil _ some, fun c member ↦ ?_⟩
      obtain zero | digit := List.mem_append.1 member
      · exact isDigit_of_mem_zeros zero
      · exact all c digit

theorem isNumeral_scaled (s : Scaled) : IsNumeral (plainLayout.scaled s) :=
  isNumeral_point ⟨Nat.toDigits_ne_nil, fun _ ↦ Nat.isDigit_of_mem_toDigits (by decide) (by decide)⟩
    s.exponent

/-- What is stored has a sign, and the rest of it is written as a numeral. -/
theorem exists_finite_eq (bits : Nat) :
    ∃ text, IsNumeral text ∧
      plainLayout.finite bits =
        if bits / 9223372036854775808 % 2 = 1 then '-' :: text else text := by
  unfold Layout.finite
  cases Magnitude.ofBits? bits with
  | none => exact ⟨_, isNumeral_point (.of_all rfl) 0, rfl⟩
  | some v => exact ⟨_, isNumeral_scaled (v.shortest plainLayout.tie), rfl⟩

end Decimal

namespace Length

open Float.Model (Format UnpackedFloat)
open Float.Model.UnpackedFloat

variable {x : Length}

def isSigned (x : Length) : Bool := x.toBits.toNat / 9223372036854775808 % 2 = 1

theorem exists_ofFields (signed : x.isSigned) :
    ∃ ev mv, x.toModel.unpack = ofFields .negative ev mv := by
  have fields (b : BitVec Format.binary64.numBits) (bit : b.toNat / 9223372036854775808 % 2 = 1) :
      ∃ ev mv, unpack Format.binary64 b = ofFields .negative ev mv := by
    have sign : Sign.ofBitVec (unpackSign b) = .negative := by
      have place : (unpackSign b).toNat = 1 := by
        rw [unpackSign_def, BitVec.extractLsb'_toNat, Nat.shiftRight_eq_div_pow]
        exact bit
      rw [Sign.ofBitVec, if_neg]
      intro none
      rw [none] at place
      cases place
    exact ⟨unpackExponent b, unpackMantissa b, by rw [unpack_eq_ofFields, sign]⟩
  exact fields x.toModel.toBits.toBitVec (of_decide_eq_true signed)

theorem unpack_negativeZero : (-0 : Length).toModel.unpack = .zero .negative := rfl

theorem eq_of_unpack {y : Length} (same : x.toModel.unpack = y.toModel.unpack) : x = y := by
  obtain ⟨⟨bits, valid⟩⟩ := x
  obtain ⟨⟨bits', valid'⟩⟩ := y
  obtain rfl : bits = bits' := UInt64.toBitVec_inj.1 ((unpack_inj_of_valid valid valid').1 same)
  rfl

/-- With a negative sign, all but zero is below zero. -/
theorem ofFields_of_nonneg {ev : BitVec 11} {mv : BitVec 52}
    (number : ofFields .negative ev mv ≠ .notANumber)
    (nonneg : 0 ≤ worth (ofFields .negative ev mv)) :
    ofFields .negative ev mv = .zero .negative := by
  have least (m : ℕ) (e : ℤ) (nonneg : 0 ≤ worth (ofMantissa .negative m e)) : m = 0 := by
    rw [worth_ofMantissa] at nonneg
    change 0 ≤ -((m : ℚ) * 2 ^ e) at nonneg
    by_contra some
    have positive := size_pos (Nat.pos_of_ne_zero some) e
    linarith
  unfold ofFields at number nonneg ⊢
  split at number
  · rename_i full
    rw [if_pos full] at nonneg
    split at number
    · rename_i empty
      rw [if_pos empty, worth_infinity] at nonneg
      change 0 ≤ -excess at nonneg
      linarith [excess_pos]
    · exact absurd rfl number
  · rename_i notFull
    rw [if_neg notFull] at nonneg ⊢
    split at number
    · rename_i none
      rw [if_pos none] at nonneg ⊢
      rw [least _ _ nonneg, ofMantissa_zero]
    · rename_i some
      rw [if_neg some] at nonneg
      have zero := least _ _ nonneg
      omega

/-- Of the numbers that are not below zero, only the negative zero has a negative sign. -/
theorem isSigned_iff (nonneg : 0 ≤ x) : x.isSigned ↔ x = -0 := by
  constructor
  · intro signed
    obtain ⟨ev, mv, unpacked⟩ := exists_ofFields signed
    have value := value_nonneg nonneg
    rw [Length.value, unpacked] at value
    apply eq_of_unpack
    rw [unpack_negativeZero, unpacked]
    refine ofFields_of_nonneg (fun nan ↦ ?_) value
    have none : x.isNaN = true := congrArg UnpackedFloat.isNaN (unpacked.trans nan)
    rw [(number_of_le nonneg).2] at none
    cases none
  · rintro rfl
    decide +kernel

end Length

def minus (x : Float) : List Char := if x = -0 then ['-'] else []

/-- How a number is written that is neither infinite nor below zero. -/
theorem Decimal.exists_plain_eq {x : Float} (finite : x.isFinite) (nonneg : 0 ≤ x) :
    ∃ text, IsNumeral text ∧ (plain x).toList = minus x ++ text := by
  obtain ⟨text, numeral, written⟩ := exists_finite_eq x.toBits.toNat
  refine ⟨text, numeral, ?_⟩
  have number : x.isNaN = false := (Length.number_of_le nonneg).2
  have bounded : x.isInf = false := by
    change x.toModel.unpack.isFinite = true at finite
    change x.toModel.unpack.isInf = false
    cases unpacked : x.toModel.unpack with
    | infinity s =>
      rw [unpacked] at finite
      cases finite
    | _ => rfl
  have signed : x.toBits.toNat / 9223372036854775808 % 2 = 1 ↔ x = -0 := by
    rw [← Length.isSigned_iff nonneg, Length.isSigned, decide_eq_true_iff]
  rw [plain, String.toList_ofList, plainText, number, bounded, written, minus]
  simp only [signed, Bool.false_eq_true, if_false]
  split <;> rfl

namespace Config

variable {c : Config} {raw : String}

theorem percentages_of_accepted (accepted : c.invalid? = none) :
    isPercentage c.band.topInset ∧ isPercentage c.band.bottomInset := by
  unfold invalid? at accepted
  split at accepted
  · cases accepted
  · split at accepted
    · cases accepted
    · rename_i insets
      simpa using insets

theorem invalid?_of_ofJson (accepted : ofJson raw = .ok c) : c.invalid? = none := by
  unfold ofJson at accepted
  split at accepted
  · cases accepted
  · split at accepted
    · cases accepted
    · rename_i valid
      cases accepted
      exact valid

end Config

/-- The margins of a root, given what is to stand for the numbers. -/
def margins (top bottom : List Char) : List Char :=
  '-' :: (top ++ '%' :: (" 0px -".toList ++ (bottom ++ '%' :: " 0px".toList)))

theorem Band.toList_rootMargin (b : Band) :
    b.rootMargin.toList = margins (Decimal.plain b.topInset).toList
      (Decimal.plain b.bottomInset).toList := by
  simp [rootMargin, margins]

/-- Margins that a style sheet can take: `-D% 0px -D% 0px`, where each `D` is a numeral. -/
def IsRootMargin (text : String) : Prop :=
  ∃ top bottom, IsNumeral top ∧ IsNumeral bottom ∧ text.toList = margins top bottom

theorem eq_of_append_percent {xs ys rest rest' : List Char} (free : '%' ∉ xs) (free' : '%' ∉ ys)
    (same : xs ++ '%' :: rest = ys ++ '%' :: rest') : xs = ys ∧ rest = rest' := by
  induction xs generalizing ys with
  | nil =>
    cases ys with
    | nil => exact ⟨rfl, (List.cons.inj same).2⟩
    | cons y ys => exact absurd (.head _) ((List.cons.inj same).1 ▸ free')
  | cons x xs ih =>
    cases ys with
    | nil => exact absurd (.head _) ((List.cons.inj same).1 ▸ free)
    | cons y ys =>
      obtain ⟨rfl, tails⟩ := List.cons.inj same
      obtain ⟨rfl, rest⟩ := ih (fun h ↦ free (.tail _ h)) (fun h ↦ free' (.tail _ h)) tails
      exact ⟨rfl, rest⟩

theorem margins_inj {top bottom top' bottom' : List Char} (free : '%' ∉ top) (free' : '%' ∉ top')
    (same : margins top bottom = margins top' bottom') (free₁ : '%' ∉ bottom)
    (free₁' : '%' ∉ bottom') :
    top = top' ∧ bottom = bottom' := by
  obtain ⟨top, rest⟩ := eq_of_append_percent free free' (List.cons.inj same).2
  exact ⟨top, (eq_of_append_percent free₁ free₁' (List.append_cancel_left rest)).1⟩

theorem percent_not_mem_minus {x : Float} {text : List Char} (h : IsNumeral text) :
    '%' ∉ minus x ++ text := by
  unfold minus
  split <;> simp [h.percent_not_mem]

/-- A numeral begins with a digit. -/
theorem ne_of_minus_isNumeral {x : Float} {text : List Char} (h : IsNumeral (minus x ++ text)) :
    x ≠ -0 := by
  rintro rfl
  obtain ⟨c, rest, first, digit⟩ := h.exists_cons
  rw [minus, if_pos rfl] at first
  obtain rfl := (List.cons.inj first).1
  cases digit

/-- The margins for the band of an accepted configuration are numerals, except that the negative
zero has a second minus sign. They can be taken just if it is neither of the insets. -/
theorem rootMargin_of_accepted {raw : String} {c : Config} (accepted : Config.ofJson raw = .ok c) :
    (∃ top bottom, IsNumeral top ∧ IsNumeral bottom ∧
      c.band.rootMargin.toList =
        margins (minus c.band.topInset ++ top) (minus c.band.bottomInset ++ bottom)) ∧
    (IsRootMargin c.band.rootMargin ↔ c.band.topInset ≠ -0 ∧ c.band.bottomInset ≠ -0) := by
  obtain ⟨high, low⟩ := Config.percentages_of_accepted (Config.invalid?_of_ofJson accepted)
  simp only [Config.isPercentage, Bool.and_eq_true, decide_eq_true_eq] at high low
  obtain ⟨top, isTop, writtenTop⟩ := Decimal.exists_plain_eq high.1.1 high.1.2
  obtain ⟨bottom, isBottom, writtenBottom⟩ := Decimal.exists_plain_eq low.1.1 low.1.2
  have written := c.band.toList_rootMargin
  rw [writtenTop, writtenBottom] at written
  refine ⟨⟨top, bottom, isTop, isBottom, written⟩, ?_, ?_⟩
  · rintro ⟨top', bottom', isTop', isBottom', written'⟩
    obtain ⟨rfl, rfl⟩ := margins_inj (percent_not_mem_minus isTop) isTop'.percent_not_mem
      (written.symm.trans written') (percent_not_mem_minus isBottom) isBottom'.percent_not_mem
    exact ⟨ne_of_minus_isNumeral isTop', ne_of_minus_isNumeral isBottom'⟩
  · rintro ⟨some, some'⟩
    rw [minus, if_neg some, List.nil_append, minus, if_neg some', List.nil_append] at written
    exact ⟨top, bottom, isTop, isBottom, written⟩

def signedConfig : Config := ⟨80, ⟨-0, 12.5⟩, "theme"⟩

theorem rootMargin_of_accepted_signedConfig :
    Config.ofJson (String.ofList signedConfig.toJson) = .ok signedConfig ∧
      signedConfig.band.rootMargin = "--0% 0px -12.5% 0px" ∧
      ¬ IsRootMargin signedConfig.band.rootMargin := by
  have back : ∀ x ∈ signedConfig.numbers, Json.readsBack x := by decide +kernel
  have accepted : Config.ofJson (String.ofList signedConfig.toJson) = .ok signedConfig := by
    have valid : signedConfig.invalid? = none := by decide +kernel
    rw [Config.ofJson_of_read (Json.read_of_reads (Config.reads_toJson back)),
      Config.validate, valid]
    rfl
  refine ⟨accepted, by decide +kernel, fun taken ↦ ?_⟩
  exact ((rootMargin_of_accepted accepted).2.1 taken).1 rfl

end Wayfinder
