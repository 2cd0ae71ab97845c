import Charting.Proofs.Rounding.Order
import Mathlib.Algebra.Order.Field.Rat
import Mathlib.Algebra.Order.Ring.Abs
import Mathlib.Tactic.FieldSimp
import Mathlib.Tactic.Linarith
import Mathlib.Tactic.Positivity
import Mathlib.Tactic.Ring

/-! # How much rounding costs

A rounded quotient is off by half of the last place at most.  Where places are given up, 53
significant bits remain, so this is one part in `2 ^ 53` of the result; where none are, it is half a
unit (`abs_roundUnits_sub_le`).  A whole number of units is off only if places are given up
(`abs_roundUnits_one_sub_le`): sums of finite numbers and products with whole numbers have no
smallest error.
-/
namespace Charting.Number

-- Powers of naturals are the built-in ones, also beside other instances of powers.
attribute [local instance (1100)] instPowNat

/-! ## To a whole number -/

/-- Rounding half to even moves a quotient by a half at most. -/
theorem roundHalfEven_bounds (num : Nat) {den : Nat} (hden : 0 < den) :
    2 * num ≤ (2 * roundHalfEven num den + 1) * den ∧
      2 * roundHalfEven num den * den ≤ 2 * num + den := by
  have hsplit := Nat.div_add_mod num den
  have hrest := Nat.mod_lt num hden
  unfold roundHalfEven
  dsimp only
  generalize num / den = whole at *
  generalize num % den = rest at *
  rw [Nat.mul_comm] at hsplit
  repeat' split
  all_goals
    simp only [Nat.add_mul, Nat.mul_add, Nat.mul_assoc, Nat.one_mul]
    omega

/-- So does rounding half up. -/
theorem roundHalfUp_bounds (num : Nat) {den : Nat} (hden : 0 < den) :
    2 * num ≤ (2 * roundHalfUp num den + 1) * den ∧
      2 * roundHalfUp num den * den ≤ 2 * num + den := by
  have hsplit := Nat.div_add_mod (2 * num + den) (2 * den)
  have hrest := Nat.mod_lt (2 * num + den) (show 0 < 2 * den by omega)
  unfold roundHalfUp
  generalize (2 * num + den) / (2 * den) = rounded at *
  rw [Nat.mul_comm (2 * den) rounded, ← Nat.mul_assoc, Nat.mul_comm rounded 2] at hsplit
  rw [Nat.add_mul, Nat.one_mul]
  omega

/-- Both bounds as a distance. -/
theorem abs_sub_div_le_half {rounded num den : Nat} (hden : 0 < den)
    (h : 2 * num ≤ (2 * rounded + 1) * den ∧ 2 * rounded * den ≤ 2 * num + den) :
    |(rounded : ℚ) - num / den| ≤ 1 / 2 := by
  have hdenpos : (0 : ℚ) < den := by exact_mod_cast hden
  have hlow : (2 : ℚ) * num ≤ (2 * rounded + 1) * den := by exact_mod_cast h.1
  have hhigh : (2 : ℚ) * rounded * den ≤ 2 * num + den := by exact_mod_cast h.2
  have hquotient : (num / den : ℚ) * den = num := by field_simp
  rw [abs_le]
  constructor
  · refine le_of_mul_le_mul_right ?_ hdenpos
    linarith
  · refine le_of_mul_le_mul_right ?_ hdenpos
    linarith

/-- The same error, in parts of `one`. -/
theorem abs_div_sub_div_le {x y error one : ℚ} (hone : 0 < one) (h : |x - y| ≤ error) :
    |x / one - y / one| ≤ error / one := by
  rw [← sub_div, abs_div, abs_of_pos hone]
  exact div_le_div_of_nonneg_right h hone.le

/-! ## To significant bits -/

/-- Half of the last place, for a result that has one. -/
theorem abs_roundUnits_sub_le_place (num : Nat) {den : Nat} (hden : 0 < den) :
    |(roundUnits num den : ℚ) - num / den| ≤ 2 ^ droppedBits (num / den) / 2 := by
  have hplace : 0 < 2 ^ droppedBits (num / den) := Nat.two_pow_pos _
  have hden' : 0 < den * 2 ^ droppedBits (num / den) := Nat.mul_pos hden hplace
  have herror := abs_sub_div_le_half hden' (roundHalfEven_bounds num hden')
  unfold roundUnits
  dsimp only
  generalize roundHalfEven num (den * 2 ^ droppedBits (num / den)) = significand at *
  have hdenpos : (0 : ℚ) < den := by exact_mod_cast hden
  have hplacepos : (0 : ℚ) < 2 ^ droppedBits (num / den) := by positivity
  push_cast at herror ⊢
  generalize (2 : ℚ) ^ droppedBits (num / den) = place at *
  have hscaled : (significand * place - num / den : ℚ) =
      (significand - num / (den * place)) * place := by field_simp
  rw [hscaled, abs_mul, abs_of_pos hplacepos]
  linarith [mul_le_mul_of_nonneg_right herror hplacepos.le]

/-- Half of a place that is given up is small beside the result. -/
theorem half_place_le {num den : Nat} (h : 0 < droppedBits (num / den)) :
    (2 : ℚ) ^ droppedBits (num / den) / 2 ≤ roundUnits num den / 2 ^ 53 := by
  have hsignificand := two_pow_le_roundHalfEven h
  unfold roundUnits
  dsimp only
  generalize roundHalfEven num (den * 2 ^ droppedBits (num / den)) = significand at *
  have hcast : (2 : ℚ) ^ 52 ≤ significand := by exact_mod_cast hsignificand
  have hplacepos : (0 : ℚ) < 2 ^ droppedBits (num / den) := by positivity
  push_cast
  generalize (2 : ℚ) ^ droppedBits (num / den) = place at *
  rw [le_div_iff₀ (by positivity)]
  linarith [mul_le_mul_of_nonneg_right hcast hplacepos.le]

/-- **A rounded quotient is off by one part in `2 ^ 53` and half a unit at most.** -/
theorem abs_roundUnits_sub_le (num : Nat) {den : Nat} (hden : 0 < den) :
    |(roundUnits num den : ℚ) - num / den| ≤ roundUnits num den / 2 ^ 53 + 1 / 2 := by
  refine (abs_roundUnits_sub_le_place num hden).trans ?_
  rcases Nat.eq_zero_or_pos (droppedBits (num / den)) with hzero | hpos
  · have hnonneg : (0 : ℚ) ≤ roundUnits num den / 2 ^ 53 := by positivity
    rw [hzero, pow_zero]
    linarith
  · linarith [half_place_le hpos]

/-- A whole number of units is off only if places are given up. -/
theorem abs_roundUnits_one_sub_le (num : Nat) :
    |(roundUnits num 1 : ℚ) - num| ≤ roundUnits num 1 / 2 ^ 53 := by
  rcases Nat.eq_zero_or_pos (droppedBits (num / 1)) with hzero | hpos
  · have hexact : roundUnits num 1 = num := by
      unfold roundUnits
      dsimp only
      rw [hzero, Nat.pow_zero, Nat.mul_one, Nat.mul_one]
      simpa using roundHalfEven_mul num 1 Nat.one_pos
    rw [hexact, sub_self, abs_zero]
    positivity
  · have hplace := abs_roundUnits_sub_le_place num Nat.one_pos
    rw [Nat.cast_one, div_one] at hplace
    exact hplace.trans (half_place_le hpos)

end Charting.Number
