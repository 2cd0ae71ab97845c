import Charting.Proofs.Rounding.Away
import Charting.Proofs.Rounding.Sum
import Charting.Proofs.RoundTrip.Decimal

/-! # Numbers between zero and one on a scale

A number between zero and one is brought to a scale by a product with a whole number, rounded to a
step of the scale, and brought back by a quotient.  The product and the quotient are off by next to
nothing (`abs_multiple_sub_le`, `abs_part_sub_le`), so a step is found again
(`Binary64.nearestNat_step`), and any other number is moved by half a step
(`Binary64.abs_nearestStep_sub_le`).
-/
namespace Charting.Number

-- Powers of naturals are the built-in ones, also beside other instances of powers.
attribute [local instance (1100)] instPowNat

/-! ## Parts and multiples -/

section Part

variable {part whole : Nat} (hwhole : 0 < whole) (hle : part ≤ whole)
include hwhole hle

theorem roundUnits_part_le : roundUnits (part * oneUnits) whole ≤ oneUnits := by
  refine roundUnits_le_of_le Binary64.isRepresentable_oneUnits hwhole ?_
  rw [Nat.mul_comm oneUnits]
  exact Nat.mul_le_mul_right _ hle

theorem abs_part_sub_le :
    |(roundUnits (part * oneUnits) whole / oneUnits - part / whole : ℚ)| ≤ 3 / 2 / 2 ^ 53 := by
  have hlarge : (2 : ℚ) ^ 53 ≤ oneUnits := by
    exact_mod_cast Nat.pow_le_pow_right (by decide) (show 53 ≤ unitExponent by decide)
  have hpos := oneUnits_pos
  have hle' : (roundUnits (part * oneUnits) whole : ℚ) ≤ oneUnits := by
    exact_mod_cast roundUnits_part_le hwhole hle
  have herror := abs_div_sub_div_le hpos (abs_roundUnits_sub_le (part * oneUnits) hwhole)
  have hexact : ((part * oneUnits : Nat) / whole / oneUnits : ℚ) = part / whole := by
    push_cast
    field_simp
  rw [hexact] at herror
  refine herror.trans ((div_le_iff₀ hpos).mpr ?_)
  linarith

end Part

section Multiple

variable {units factor : Nat} (hunits : units ≤ oneUnits) (hfactor : factor ≤ 2 ^ (53 : Nat))
include hunits hfactor

theorem roundUnits_multiple_le : roundUnits (units * factor) 1 ≤ factor * oneUnits := by
  refine roundUnits_le_of_le (Binary64.isRepresentable_mul_oneUnits hfactor) Nat.one_pos ?_
  rw [Nat.mul_one, Nat.mul_comm factor]
  exact Nat.mul_le_mul_right _ hunits

theorem abs_multiple_sub_le :
    |(roundUnits (units * factor) 1 / oneUnits - factor * (units / oneUnits) : ℚ)| ≤
      factor / 2 ^ 53 := by
  have hpos := oneUnits_pos
  have hle : (roundUnits (units * factor) 1 : ℚ) ≤ factor * oneUnits := by
    exact_mod_cast roundUnits_multiple_le hunits hfactor
  have herror := abs_div_sub_div_le hpos (abs_roundUnits_one_sub_le (units * factor))
  rw [Nat.cast_mul, mul_comm (units : ℚ), mul_div_assoc] at herror
  refine herror.trans ((div_le_iff₀ hpos).mpr ?_)
  linarith

end Multiple

namespace Binary64

variable {x : Binary64} {units k n : Nat}

theorem counts_ofNat (h : n ≤ 2 ^ (53 : Nat)) : (ofNat n).Counts (n * oneUnits) := by
  rw [ofNat_eq_finite h]
  exact .finite _ nofun

theorem Counts.value_eq (h : x.Counts units) : x.value = units / oneUnits := by
  rw [value_eq_of_position h.isFinite h.position_eq, Int.cast_natCast]

theorem Counts.mul_ofNat (h : x.Counts units) (hunits : units ≤ oneUnits)
    (hn : n ≤ 2 ^ (53 : Nat)) : (x * ofNat n).Counts (roundUnits (units * n) 1) := by
  have hround : roundUnits (units * (n * oneUnits)) oneUnits = roundUnits (units * n) 1 := by
    rw [← Nat.mul_assoc]
    conv => lhs; arg 2; rw [← Nat.one_mul oneUnits]
    exact roundUnits_mul_mul _ _ zero_lt_oneUnits
  have hlimit : roundUnits (units * (n * oneUnits)) oneUnits < unitLimit := by
    rw [hround]
    exact (roundUnits_multiple_le hunits hn).trans_lt (isRepresentable_mul_oneUnits hn).1
  have hproduct := h.mul (counts_ofNat hn) hlimit
  rwa [hround] at hproduct

theorem counts_step (hpos : 0 < n) (hn : n ≤ 2 ^ (53 : Nat)) (hk : k ≤ n) :
    (ofNat k / ofNat n).Counts (roundUnits (k * oneUnits) n) := by
  have hround : roundUnits (k * oneUnits * oneUnits) (n * oneUnits) =
      roundUnits (k * oneUnits) n := roundUnits_mul_mul _ _ zero_lt_oneUnits
  have hlimit : roundUnits (k * oneUnits * oneUnits) (n * oneUnits) < unitLimit := by
    rw [hround]
    exact (roundUnits_part_le hpos hk).trans_lt isRepresentable_oneUnits.1
  have hquotient := (counts_ofNat (hk.trans hn)).div (counts_ofNat hn)
    (Nat.mul_pos hpos zero_lt_oneUnits) hlimit
  rwa [hround] at hquotient

theorem Counts.nearestNat_eq (h : x.Counts units) :
    x.nearestNat = roundHalfUp units oneUnits := by
  obtain ⟨h, sign⟩ := h
  rename_i negative
  cases negative with
  | false => rfl
  | true =>
    obtain rfl := sign rfl
    have hzero : roundHalfUp 0 oneUnits = 0 := Nat.div_eq_of_lt (by
      have := zero_lt_oneUnits
      omega)
    exact hzero.symm

/-- Between the bounds of a clamp at zero and one there are units of one. -/
theorem exists_counts_clamp (hx : x.isNaN = false) :
    ∃ units ≤ oneUnits, (x.clamp 0 1).Counts units := by
  have hlow := le_clamp zero_le_one hx
  have hhigh := clamp_le zero_le_one hx
  have hfinite := isFinite_of_le_of_le isFinite_zero isFinite_one hlow hhigh
  have hcounts := counts_units hfinite hlow
  refine ⟨_, ?_, hcounts⟩
  have hone : (1 : Binary64).position = some (oneUnits : Int) := by
    rw [ofNat_one]
    rfl
  rw [le_iff_of_position hcounts.position_eq hone] at hhigh
  exact Int.ofNat_le.mp hhigh

/-! ## Steps -/

/-- The step next to a number on a scale. -/
theorem abs_nearestNat_sub_le (h : x.Counts units) (hunits : units ≤ oneUnits)
    (hn : n ≤ 2 ^ (53 : Nat)) :
    |((x * ofNat n).nearestNat - n * x.value : ℚ)| ≤ 1 / 2 + n / 2 ^ 53 := by
  have hmultiple := abs_multiple_sub_le hunits hn
  rw [(h.mul_ofNat hunits hn).nearestNat_eq, h.value_eq]
  generalize roundUnits (units * n) 1 = product at hmultiple ⊢
  have hhalf := abs_sub_div_le_half zero_lt_oneUnits (roundHalfUp_bounds product zero_lt_oneUnits)
  calc |(roundHalfUp product oneUnits - n * (units / oneUnits) : ℚ)|
      = |(roundHalfUp product oneUnits - product / oneUnits : ℚ) +
          (product / oneUnits - n * (units / oneUnits))| := by rw [sub_add_sub_cancel]
    _ ≤ 1 / 2 + n / 2 ^ 53 := (abs_add_le _ _).trans (add_le_add hhalf hmultiple)

theorem nearestNat_le (h : x.Counts units) (hunits : units ≤ oneUnits) (hn : n ≤ 2 ^ (53 : Nat)) :
    (x * ofNat n).nearestNat ≤ n := by
  have hone := zero_lt_oneUnits
  have hproduct := roundUnits_multiple_le hunits hn
  rw [(h.mul_ofNat hunits hn).nearestNat_eq, roundHalfUp]
  generalize roundUnits (units * n) 1 = product at hproduct ⊢
  refine Nat.lt_succ_iff.mp ((Nat.div_lt_iff_lt_mul (by omega)).mpr ?_)
  have hscale : n.succ * (2 * oneUnits) = 2 * (n * oneUnits) + 2 * oneUnits := by
    rw [Nat.succ_mul, Nat.mul_left_comm]
  omega

theorem step_inRange (hpos : 0 < n) (hn : n ≤ 2 ^ (53 : Nat)) (hk : k ≤ n) :
    0 ≤ ofNat k / ofNat n ∧ ofNat k / ofNat n ≤ 1 :=
  ⟨zero_le_div (counts_ofNat hn).isFinite (ofNat_pos hpos) (zero_le_ofNat k),
    div_le_one (counts_ofNat hn).isFinite (ofNat_pos hpos) (ofNat_le_ofNat hk)⟩

theorem abs_value_step_sub_le (hpos : 0 < n) (hn : n ≤ 2 ^ (53 : Nat)) (hk : k ≤ n) :
    |(ofNat k / ofNat n).value - (k / n : ℚ)| ≤ 3 / 2 / 2 ^ 53 := by
  rw [(counts_step hpos hn hk).value_eq]
  exact abs_part_sub_le hpos hk

/-- **A step of a scale is found again.** -/
theorem nearestNat_step (hpos : 0 < n) (hn : n ≤ 1000000) (hk : k ≤ n) :
    (ofNat k / ofNat n * ofNat n).nearestNat = k := by
  have hn' : n ≤ 2 ^ (53 : Nat) := hn.trans (by decide)
  have hstep := abs_value_step_sub_le hpos hn' hk
  have hnearest := abs_nearestNat_sub_le (counts_step hpos hn' hk) (roundUnits_part_le hpos hk) hn'
  generalize (ofNat k / ofNat n * ofNat n).nearestNat = m at hnearest ⊢
  generalize (ofNat k / ofNat n).value = v at hstep hnearest
  have hscale : (0 : ℚ) < n := by exact_mod_cast hpos
  have hsmall : (n : ℚ) ≤ 1000000 := by exact_mod_cast hn
  have hscaled : |(n * v - k : ℚ)| ≤ n * (3 / 2 / 2 ^ 53) := by
    have hdistance : (n * v - k : ℚ) = n * (v - k / n) := by field_simp
    rw [hdistance, abs_mul, abs_of_pos hscale]
    exact mul_le_mul_of_nonneg_left hstep hscale.le
  rw [abs_le] at hnearest hscaled
  have hlow : (k : ℚ) < (m + 1 : Nat) := by
    push_cast
    linarith
  have hhigh : (m : ℚ) < (k + 1 : Nat) := by
    push_cast
    linarith
  rw [Nat.cast_lt] at hlow hhigh
  exact Nat.le_antisymm (Nat.lt_succ_iff.mp hhigh) (Nat.lt_succ_iff.mp hlow)

/-- **Half a step** is what a number moves to the nearest step of a scale. -/
theorem abs_nearestStep_sub_le (h : x.Counts units) (hunits : units ≤ oneUnits) (hpos : 0 < n)
    (hn : n ≤ 2 ^ (53 : Nat)) :
    |(ofNat (x * ofNat n).nearestNat / ofNat n).value - x.value| ≤
      1 / 2 / n + 5 / 2 / 2 ^ 53 := by
  have hstep := abs_value_step_sub_le hpos hn (nearestNat_le h hunits hn)
  have hnearest := abs_nearestNat_sub_le h hunits hn
  generalize (x * ofNat n).nearestNat = m at hstep hnearest ⊢
  have hscale : (0 : ℚ) < n := by exact_mod_cast hpos
  have hback := abs_div_sub_div_le hscale hnearest
  have hcost : ((1 / 2 + n / 2 ^ 53) / n : ℚ) = 1 / 2 / n + 1 / 2 ^ 53 := by field_simp
  rw [mul_div_cancel_left₀ _ hscale.ne', hcost] at hback
  generalize (m / n : ℚ) = step at hstep hback
  rw [abs_le] at hstep hback ⊢
  constructor <;> linarith

end Binary64
end Charting.Number
