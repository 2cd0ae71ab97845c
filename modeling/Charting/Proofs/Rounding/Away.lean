import Charting.Proofs.Rounding.Error
import Mathlib.Algebra.Order.Round
import Mathlib.Data.Rat.Floor

/-! # Rounding to decimal places

`roundAway` rounds an exact number to decimal places and takes a half away from zero.  On the value
of a binary64 number it is the quotient that is rounded half up, with the sign kept apart
(`roundAway_signed_div`).

A binary64 number with digits behind the point is never close to a half without being one
(`IsRepresentable.eq_or_far`).  So another number that is close enough, and equal in the case of a
half, is rounded to the same whole number (`round_eq_round`): rounding twice does no harm then.
-/
namespace Charting.Number

-- Powers of naturals are the built-in ones, also beside other instances of powers.
attribute [local instance (1100)] instPowNat

/-- The number that a binary64 number stands for; one that is not finite counts as zero. -/
def Binary64.value : Binary64 → ℚ
  | .finite negative units _ => signed negative units / oneUnits
  | _ => 0

/-- A number rounded to decimal places, a half away from zero. -/
def roundAway (places : Nat) (q : ℚ) : ℚ :=
  let magnitude : ℚ := round (|q| * 10 ^ places) / 10 ^ places
  if q < 0 then -magnitude else magnitude

theorem oneUnits_pos : (0 : ℚ) < oneUnits := by
  exact_mod_cast zero_lt_oneUnits

/-! ## Half up and away from zero -/

theorem round_natCast_div (num : Nat) {den : Nat} (hden : 0 < den) :
    round ((num : ℚ) / den) = (roundHalfUp num den : ℤ) := by
  have hpos : (0 : ℚ) < den := by exact_mod_cast hden
  have hhalf : ((num : ℚ) / den + 1 / 2) = ((2 * num + den : Nat) : ℚ) / (2 * den : Nat) := by
    push_cast
    field_simp
  rw [round_eq, hhalf, Rat.floor_natCast_div_natCast]
  rfl

theorem abs_signed (negative : Bool) (n : Nat) : |(Binary64.signed negative n : ℚ)| = n := by
  cases negative <;> simp [Binary64.signed]

/-- A quotient with a sign is rounded half up, whatever its sign. -/
theorem roundAway_signed_div (places : Nat) (negative : Bool) (num : Nat) {den : Nat}
    (hden : 0 < den) :
    roundAway places (Binary64.signed negative num / den) =
      Binary64.signed negative (roundHalfUp (num * 10 ^ places) den) / 10 ^ places := by
  have hpos : (0 : ℚ) < den := by exact_mod_cast hden
  have hmagnitude : round (|(Binary64.signed negative num / den : ℚ)| * 10 ^ places) =
      (roundHalfUp (num * 10 ^ places) den : ℤ) := by
    rw [abs_div, abs_signed, abs_of_pos hpos, ← round_natCast_div _ hden]
    push_cast
    congr 1
    ring
  unfold roundAway
  rw [hmagnitude]
  rcases Nat.eq_zero_or_pos num with rfl | hnum
  · have hzero : roundHalfUp 0 den = 0 := Nat.div_eq_of_lt (by omega)
    simp [hzero, Binary64.signed]
  · have hnumpos : (0 : ℚ) < num := by exact_mod_cast hnum
    have hquotient : (0 : ℚ) < num / den := div_pos hnumpos hpos
    cases negative with
    | false =>
      simp only [Binary64.signed, Bool.false_eq_true, if_false, Int.cast_natCast,
        if_neg hquotient.le.not_gt]
    | true =>
      simp only [Binary64.signed, if_true, Int.cast_neg, Int.cast_natCast, neg_div,
        if_pos (neg_neg_of_pos hquotient)]

theorem Binary64.value_eq_of_position {x : Binary64} (hfinite : x.isFinite = true) {a : ℤ}
    (ha : x.position = some a) : x.value = a / oneUnits := by
  cases x with
  | nan | infinite => cases hfinite
  | finite negative units h =>
    obtain rfl := Option.some.inj ha
    rfl

theorem Binary64.abs_value (negative : Bool) {units : Nat} (h : IsRepresentable units) :
    |(Binary64.finite negative units h).value| = units / oneUnits := by
  rw [value, abs_div, abs_signed, abs_of_pos oneUnits_pos]

/-! ## Close to a half -/

/-- **Far from what it is not**: a multiple of a binary64 number and a whole number are equal or
apart, by more than a part in `2 ^ 53` of the number.  Both are multiples of its last place. -/
theorem IsRepresentable.eq_or_far {units : Nat} (h : IsRepresentable units)
    (hsmall : units < 2 ^ 53 * oneUnits) (factor whole : ℤ) :
    factor * units = whole * oneUnits ∨
      (units : ℤ) < |factor * units - whole * oneUnits| * 2 ^ 53 := by
  obtain ⟨place, hplace⟩ : ∃ place, oneUnits = 2 ^ place := ⟨unitExponent, rfl⟩
  rw [hplace] at hsmall ⊢
  have hlog : units.log2 < 53 + place := by
    by_cases hzero : units = 0
    · rw [hzero, Nat.log2_zero]
      omega
    · rw [← Nat.pow_add] at hsmall
      exact (Nat.log2_lt hzero).mpr hsmall
  have hlast : units < 2 ^ droppedBits units * 2 ^ 53 := by
    refine Nat.lt_log2_self.trans_le ?_
    rw [← Nat.pow_add]
    refine Nat.pow_le_pow_right (by decide) ?_
    unfold droppedBits fractionBits
    omega
  have hone : 2 ^ droppedBits units ∣ 2 ^ place := by
    refine Nat.pow_dvd_pow 2 ?_
    unfold droppedBits fractionBits
    omega
  have hplaces : ((2 ^ droppedBits units : Nat) : ℤ) ∣ factor * units - whole * (2 ^ place : Nat) :=
    Int.dvd_sub (Dvd.dvd.mul_left (Int.natCast_dvd_natCast.mpr h.2) _)
      (Dvd.dvd.mul_left (Int.natCast_dvd_natCast.mpr hone) _)
  rw [← Int.sub_eq_zero]
  generalize factor * units - whole * (2 ^ place : Nat) = difference at hplaces ⊢
  rcases eq_or_ne difference 0 with heq | hne
  · exact .inl heq
  · have hapart : ((2 ^ droppedBits units : Nat) : ℤ) ≤ |difference| :=
      Int.le_of_dvd (abs_pos.mpr hne) ((dvd_abs _ _).mpr hplaces)
    refine .inr (lt_of_lt_of_le (Int.ofNat_lt.mpr hlast) ?_)
    rw [Int.natCast_mul]
    exact Int.mul_le_mul_of_nonneg_right hapart (by positivity)

/-- The same as a distance of quotients. -/
theorem quotient_eq_or_far {units one : Nat} (hone : 0 < one) {factor whole : ℤ}
    (h : factor * units = whole * one ∨ (units : ℤ) < |factor * units - whole * one| * 2 ^ 53) :
    (factor : ℚ) * (units / one) = whole ∨
      (units : ℚ) / one / 2 ^ 53 < |(factor : ℚ) * (units / one) - whole| := by
  have hpos : (0 : ℚ) < one := by exact_mod_cast hone
  refine h.imp (fun heq => ?_) fun hfar => ?_
  · have hcast : (factor : ℚ) * units = whole * one := by exact_mod_cast heq
    rw [← mul_div_assoc, hcast, mul_div_cancel_right₀ _ hpos.ne']
  · have hcast : (units : ℚ) < |(factor : ℚ) * units - whole * one| * 2 ^ 53 := by
      exact_mod_cast hfar
    have hscaled : (factor : ℚ) * units - whole * one = (factor * (units / one) - whole) * one := by
      field_simp
    rw [hscaled, abs_mul, abs_of_pos hpos] at hcast
    rw [div_div, div_lt_iff₀ (by positivity)]
    linarith

theorem lt_mul_of_div_lt {units one bound : Nat} (hone : 0 < one)
    (h : (units : ℚ) / one < bound) : units < bound * one := by
  rw [div_lt_iff₀ (by exact_mod_cast hone)] at h
  exact_mod_cast h

/-- Numbers between the same two halves are rounded to the same whole number. -/
theorem round_eq_round {x y : ℚ} (gap : ℚ) (hhalf : ∀ k : ℤ, x = k + 1 / 2 → x = y)
    (hgap : ∀ k : ℤ, x ≠ k + 1 / 2 → gap ≤ |x - (k + 1 / 2)|) (hclose : |x - y| < gap) :
    round x = round y := by
  by_cases heq : x = y
  · rw [heq]
  · have hlow := hgap (round x - 1) fun h => heq (hhalf _ h)
    have hhigh := hgap (round x) fun h => heq (hhalf _ h)
    have hfloor := Int.floor_eq_iff.mp (round_eq x).symm
    push_cast at hlow
    rw [abs_lt] at hclose
    rw [abs_of_nonneg (by linarith)] at hlow
    rw [abs_of_nonpos (by linarith)] at hhigh
    rw [eq_comm, round_eq y, Int.floor_eq_iff]
    constructor <;> linarith

end Charting.Number
