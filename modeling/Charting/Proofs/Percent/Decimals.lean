import Charting.Proofs.Percent.Reading
import Charting.Proofs.Rounding.Away

/-! # Decimals of 28 digits

What labels rely on in an arithmetic of decimals: a decimal that stands for a number keeps 28 of its
digits, as far as 28 places reach, and is the number itself if it has no more digits than that
(`FixedDecimal.Keeps`); and rounding takes a half away from zero.  An arithmetic that does both is
faithful (`DecimalArithmetic.IsFaithful`).  The one in use is (`standard_isFaithful`).
-/
namespace Charting.Percent

open Number

-- Powers of naturals are the built-in ones, also beside other instances of powers.
attribute [local instance (1100)] instPowNat

/-! ## What is relied on -/

namespace FixedDecimal

/-- No more than 96 bits, and no more than 28 places. -/
structure Fits (d : FixedDecimal) : Prop where
  digits_lt : d.digits < 2 ^ (96 : Nat)
  places_le : d.places ≤ 28

/-- The decimal stands for a number: up to the 28th digit of the number or the 28th place, and
exactly if no more than these are needed. -/
structure Keeps (d : FixedDecimal) (q : ℚ) : Prop where
  close : |d.value - q| ≤ |q| / 10 ^ 27 + 1 / 10 ^ 28
  exact : ∀ digits places : Nat, digits < 10 ^ (28 : Nat) → places ≤ 28 →
    |q| = digits / 10 ^ places → d.value = q

end FixedDecimal

/-- Numbers are kept to 28 digits, and decimals are rounded to exactly the places asked for, a half
away from zero, as far as the result has room. -/
structure DecimalArithmetic.IsFaithful (arithmetic : DecimalArithmetic) : Prop where
  ofBinary64 : ∀ x : Binary64, x.isFinite = true → |x.value| < 10 ^ 28 →
    ∃ d, arithmetic.ofBinary64 x = some d ∧ d.Fits ∧ d.Keeps x.value
  roundTo : ∀ places d, d.Fits → places ≤ 28 → |d.value| * 10 ^ places < 10 ^ 28 →
    (arithmetic.roundTo places d).places = places ∧
      (arithmetic.roundTo places d).value = roundAway places d.value

/-! ## The decimals in use -/

theorem roundHalfUp_mul (whole : Nat) {den : Nat} (hden : 0 < den) :
    roundHalfUp (whole * den) den = whole := by
  refine Nat.div_eq_of_lt_le ?_ ?_
  · rw [Nat.mul_left_comm]
    exact Nat.le_add_right _ _
  · rw [Nat.mul_left_comm, Nat.add_mul]
    omega

theorem lt_ten_pow_decimalLength (n : Nat) : n < 10 ^ decimalLength n := by
  by_cases h : n = 0
  · subst h
    decide
  · exact Decimal.lt_ten_pow_decimalLength h

section Held

variable {units : Nat} (hsmall : units < 10 ^ (28 : Nat) * oneUnits)
include hsmall

theorem decimalLength_le : decimalLength (units / oneUnits) ≤ 28 := by
  by_contra hlong
  have hlarge := Decimal.ten_pow_le_of_lt_decimalLength (Nat.not_le.mp hlong)
  rw [Nat.le_div_iff_mul_le zero_lt_oneUnits] at hlarge
  exact absurd hlarge (Nat.not_le.mpr hsmall)

/-- With the places that are left, there are 28 digits at most. -/
theorem units_mul_lt : units * 10 ^ heldPlaces units < 10 ^ (28 : Nat) * oneUnits := by
  have hlength := decimalLength_le hsmall
  have hwhole := lt_ten_pow_decimalLength (units / oneUnits)
  rw [Nat.div_lt_iff_lt_mul zero_lt_oneUnits] at hwhole
  calc
    units * 10 ^ heldPlaces units
        < 10 ^ decimalLength (units / oneUnits) * oneUnits * 10 ^ heldPlaces units :=
          Nat.mul_lt_mul_of_pos_right hwhole (Nat.pow_pos (by decide))
    _ = 10 ^ (decimalLength (units / oneUnits) + heldPlaces units) * oneUnits := by
      rw [Nat.pow_add, Nat.mul_right_comm]
    _ = 10 ^ (28 : Nat) * oneUnits := by rw [heldPlaces, Nat.add_sub_cancel' hlength]

theorem heldDigits_le : heldDigits units ≤ 10 ^ (28 : Nat) := by
  have hlt := units_mul_lt hsmall
  have hone := zero_lt_oneUnits
  unfold heldDigits
  split
  · exact Nat.zero_le _
  · generalize units * 10 ^ heldPlaces units = scaled at hlt ⊢
    refine Nat.lt_succ_iff.mp ((Nat.div_lt_iff_lt_mul (by omega)).mpr ?_)
    omega

theorem fits_held (negative : Bool) :
    (FixedDecimal.mk negative (heldDigits units) (heldPlaces units)).Fits where
  digits_lt := by
    dsimp only
    have hle := heldDigits_le hsmall
    have hroom : 10 ^ (28 : Nat) < 2 ^ (96 : Nat) := by decide
    exact Nat.lt_of_le_of_lt hle hroom
  places_le := Nat.sub_le _ _

end Held

/-- With fewer than 28 places, there are 28 digits. -/
theorem ten_pow_le_mul {units : Nat} (h : heldPlaces units < 28)
    (hlength : decimalLength (units / oneUnits) ≤ 28) :
    10 ^ (27 : Nat) * oneUnits ≤ units * 10 ^ heldPlaces units := by
  have hplaces : heldPlaces units = 28 - decimalLength (units / oneUnits) := rfl
  obtain ⟨k, hk⟩ : ∃ k, decimalLength (units / oneUnits) = k + 1 :=
    ⟨decimalLength (units / oneUnits) - 1, by omega⟩
  have hlarge : 10 ^ k ≤ units / oneUnits :=
    Decimal.ten_pow_le_of_lt_decimalLength (by omega)
  rw [Nat.le_div_iff_mul_le zero_lt_oneUnits] at hlarge
  have hsum : 27 = k + heldPlaces units := by omega
  calc
    10 ^ (27 : Nat) * oneUnits = 10 ^ k * oneUnits * 10 ^ heldPlaces units := by
      rw [hsum, Nat.pow_add, Nat.mul_right_comm]
    _ ≤ units * 10 ^ heldPlaces units := Nat.mul_le_mul_right _ hlarge

theorem vanishes_iff {units : Nat} :
    vanishes units = true ↔ 18 * units * 10 ^ (28 : Nat) < 17 * oneUnits := by
  rw [vanishes, decide_eq_true_eq]

/-- The same bounds as quotients. -/
theorem div_le_one_div {units one : Nat} (hone : 0 < one) (h : units * 10 ^ (28 : Nat) ≤ one) :
    (units / one : ℚ) ≤ 1 / 10 ^ 28 := by
  have hcast : (units : ℚ) * 10 ^ 28 ≤ one := by exact_mod_cast h
  rw [div_le_div_iff₀ (by exact_mod_cast hone) (by positivity)]
  linarith

theorem one_div_le_div {units one places : Nat} (hone : 0 < one)
    (h : 10 ^ (27 : Nat) * one ≤ units * 10 ^ places) :
    (1 / 10 ^ places : ℚ) ≤ units / one / 10 ^ 27 := by
  have hcast : (10 : ℚ) ^ 27 * one ≤ units * 10 ^ places := by exact_mod_cast h
  rw [div_div, div_le_div_iff₀ (by positivity) (by positivity)]
  linarith

/-- **What the digits are off by**: one in the 28th digit or in the 28th place. -/
theorem abs_held_sub_le {units : Nat} (hlength : decimalLength (units / oneUnits) ≤ 28) :
    |(heldDigits units / 10 ^ heldPlaces units - units / oneUnits : ℚ)| ≤
      units / oneUnits / 10 ^ 27 + 1 / 10 ^ 28 := by
  have hquotient : (0 : ℚ) ≤ units / oneUnits := div_nonneg (Nat.cast_nonneg _) oneUnits_pos.le
  have hdigit : (0 : ℚ) ≤ units / oneUnits / 10 ^ 27 := div_nonneg hquotient (by positivity)
  unfold heldDigits
  split
  case isTrue hvanishes =>
    rw [vanishes_iff] at hvanishes
    have hless : units * 10 ^ (28 : Nat) ≤ oneUnits := by omega
    have hunit := div_le_one_div zero_lt_oneUnits hless
    rw [Nat.cast_zero, zero_div, zero_sub, abs_neg, abs_of_nonneg hquotient]
    linarith
  case isFalse =>
    have hten : (0 : ℚ) < 10 ^ heldPlaces units := by positivity
    have herror := abs_div_sub_div_le hten (abs_sub_div_le_half zero_lt_oneUnits
      (roundHalfUp_bounds (units * 10 ^ heldPlaces units) zero_lt_oneUnits))
    have hexact : ((units * 10 ^ heldPlaces units : Nat) / oneUnits / 10 ^ heldPlaces units : ℚ) =
        units / oneUnits := by
      push_cast
      rw [div_right_comm, mul_div_cancel_right₀ _ hten.ne']
    rw [hexact, div_div] at herror
    have hlast : (1 / (2 * 10 ^ heldPlaces units) : ℚ) ≤ 1 / 10 ^ heldPlaces units :=
      one_div_le_one_div_of_le hten (by linarith)
    refine herror.trans (hlast.trans ?_)
    rcases Nat.lt_or_ge (heldPlaces units) 28 with hless | hall
    · have hunit := one_div_le_div zero_lt_oneUnits (ten_pow_le_mul hless hlength)
      have hplace : (0 : ℚ) ≤ 1 / 10 ^ 28 := by positivity
      linarith
    · have hplaces : heldPlaces units = 28 := Nat.le_antisymm (Nat.sub_le _ _) hall
      rw [hplaces]
      linarith

/-- A magnitude of 28 digits or fewer has room for its places. -/
theorem places_le_heldPlaces {units digits places : Nat} (hdigits : digits < 10 ^ (28 : Nat))
    (hplaces : places ≤ 28) (h : units * 10 ^ places = digits * oneUnits) :
    places ≤ heldPlaces units := by
  by_contra hmore
  have hheld : heldPlaces units = 28 - decimalLength (units / oneUnits) := rfl
  have hlarge : 10 ^ (28 - places) ≤ units / oneUnits :=
    Decimal.ten_pow_le_of_lt_decimalLength (by omega)
  rw [Nat.le_div_iff_mul_le zero_lt_oneUnits] at hlarge
  have htoo : 10 ^ (28 : Nat) * oneUnits ≤ digits * oneUnits := by
    calc
      10 ^ (28 : Nat) * oneUnits = 10 ^ (28 - places) * oneUnits * 10 ^ places := by
        rw [Nat.mul_right_comm, ← Nat.pow_add, Nat.sub_add_cancel hplaces]
      _ ≤ units * 10 ^ places := Nat.mul_le_mul_right _ hlarge
      _ = digits * oneUnits := h
  exact absurd (Nat.le_of_mul_le_mul_right htoo zero_lt_oneUnits) (Nat.not_le.mpr hdigits)

/-- **What needs no more digits is not rounded.** -/
theorem heldDigits_mul_oneUnits {units digits places : Nat} (hdigits : digits < 10 ^ (28 : Nat))
    (hplaces : places ≤ 28) (h : units * 10 ^ places = digits * oneUnits) :
    heldDigits units * oneUnits = units * 10 ^ heldPlaces units := by
  unfold heldDigits
  split
  case isTrue hvanishes =>
    -- Nothing between zero and a unit of the last place has so few digits.
    rw [vanishes_iff] at hvanishes
    have hle : units * 10 ^ places ≤ units * 10 ^ (28 : Nat) :=
      Nat.mul_le_mul_left _ (Nat.pow_le_pow_right (by decide) hplaces)
    have hless : digits * oneUnits < 1 * oneUnits := by omega
    obtain rfl : digits = 0 := by
      have := Nat.lt_of_mul_lt_mul_right hless
      omega
    have hnone : units = 0 := by
      rcases Nat.mul_eq_zero.mp (h.trans (Nat.zero_mul _)) with hzero | hpow
      · exact hzero
      · exact absurd hpow (Nat.pow_pos (by decide)).ne'
    rw [hnone, Nat.zero_mul, Nat.zero_mul]
  case isFalse =>
    have hroom := places_le_heldPlaces hdigits hplaces h
    have hwhole : units * 10 ^ heldPlaces units =
        digits * 10 ^ (heldPlaces units - places) * oneUnits := by
      rw [Nat.mul_right_comm, ← h, Nat.mul_assoc, ← Nat.pow_add, Nat.add_sub_cancel' hroom]
    rw [hwhole, roundHalfUp_mul _ zero_lt_oneUnits]

theorem cast_mul_ten_pow_eq_iff {a b c n : Nat} :
    (a * 10 ^ n : ℚ) = b * c ↔ a * 10 ^ n = b * c := by
  exact_mod_cast Iff.rfl

/-- The decimal in use for a finite number stands for it. -/
theorem keeps_held {negative : Bool} {units : Nat} (h : IsRepresentable units)
    (hlength : decimalLength (units / oneUnits) ≤ 28) :
    (FixedDecimal.mk negative (heldDigits units) (heldPlaces units)).Keeps
      (Binary64.finite negative units h).value where
  close := by
    have hclose := abs_held_sub_le hlength
    rw [Binary64.abs_value]
    cases negative with
    | false =>
      simpa only [FixedDecimal.value, Binary64.value, Binary64.signed, Bool.false_eq_true, if_false,
        Int.cast_natCast] using hclose
    | true =>
      rw [abs_sub_comm] at hclose
      simpa only [FixedDecimal.value, Binary64.value, Binary64.signed, if_true, Int.cast_neg,
        Int.cast_natCast, neg_div, neg_sub_neg] using hclose
  exact digits places hdigits hplaces hvalue := by
    rw [Binary64.abs_value, div_eq_div_iff oneUnits_pos.ne' (by positivity)] at hvalue
    have hexact := heldDigits_mul_oneUnits hdigits hplaces (cast_mul_ten_pow_eq_iff.mp hvalue)
    have hquotient : (heldDigits units / 10 ^ heldPlaces units : ℚ) = units / oneUnits := by
      rw [div_eq_div_iff (by positivity) oneUnits_pos.ne', cast_mul_ten_pow_eq_iff.mpr hexact.symm]
    cases negative <;>
      simp only [FixedDecimal.value, Binary64.value, Binary64.signed, Bool.false_eq_true, if_false,
        if_true, Int.cast_neg, Int.cast_natCast, neg_div, hquotient]

/-- A sign that is left out when nothing is left of the digits does not change the value. -/
theorem signed_and_of_zero {negative keep : Bool} {digits : Nat} (h : keep = false → digits = 0) :
    Binary64.signed (negative && keep) digits = Binary64.signed negative digits := by
  cases keep with
  | true => rw [Bool.and_true]
  | false => simp [h rfl, Binary64.signed]

/-- Rounding half up with the sign kept apart rounds away from zero. -/
theorem value_roundTo_standard (places : Nat) (d : FixedDecimal) :
    (DecimalArithmetic.standard.roundTo places d).value = roundAway places d.value := by
  have hden : 0 < 10 ^ d.places := Nat.pow_pos (by decide)
  have hrounded := roundAway_signed_div places d.negative d.digits hden
  rw [Nat.cast_pow, Nat.cast_ofNat] at hrounded
  rw [FixedDecimal.value, FixedDecimal.value, hrounded]
  dsimp only [DecimalArithmetic.standard]
  rw [signed_and_of_zero]
  intro hlost
  simpa using (Bool.or_eq_false_iff.mp hlost).2

theorem lt_of_abs_value_lt {negative : Bool} {units : Nat} (h : IsRepresentable units)
    (hvalue : |(Binary64.finite negative units h).value| < 10 ^ 28) :
    units < 10 ^ (28 : Nat) * oneUnits := by
  rw [Binary64.abs_value] at hvalue
  exact lt_mul_of_div_lt zero_lt_oneUnits (hvalue.trans_eq (by norm_num))

theorem ofBinary64_standard {negative : Bool} {units : Nat} (h : IsRepresentable units)
    (hsmall : units < 10 ^ (28 : Nat) * oneUnits) :
    DecimalArithmetic.standard.ofBinary64 (.finite negative units h) =
      some ⟨negative, heldDigits units, heldPlaces units⟩ := by
  have hroom : units < 2 ^ (96 : Nat) * oneUnits := by omega
  rw [DecimalArithmetic.standard]
  dsimp only
  rw [if_pos hroom]

/-- **The decimals in use can be relied on.** -/
theorem standard_isFaithful : DecimalArithmetic.standard.IsFaithful where
  ofBinary64 x hfinite hvalue := by
    cases x with
    | nan | infinite => cases hfinite
    | finite negative units h =>
      have hsmall := lt_of_abs_value_lt h hvalue
      exact ⟨_, ofBinary64_standard h hsmall, fits_held hsmall negative,
        keeps_held h (decimalLength_le hsmall)⟩
  roundTo places d _ _ _ := ⟨rfl, value_roundTo_standard places d⟩

end Charting.Percent
