import Charting.Proofs.Percent.Decimals

/-! # A share is rounded as if it were rounded once

A share passes through a decimal of 28 digits before it is rounded to one place.  For the numbers
that occur this is no second rounding: a binary64 number up to `10 ^ 15` either is a half of the last
place, and the decimal then has room for it, or lies much farther from each half than the decimal is
off (`roundAway_eq_of_keeps`).  So a label reads as the exact share rounded to one place, a half away
from zero, whichever faithful arithmetic its decimals come from (`label_reads_rounded_share`).
-/
namespace Charting.Percent

open Number

-- Powers of naturals are the built-in ones, also beside other instances of powers.
attribute [local instance (1100)] instPowNat

/-! ## No harm in the decimal -/

/-- Less than half of the last place rounds to nothing. -/
theorem roundAway_one_eq_zero {q : ℚ} (h : |q| < 1 / 20) : roundAway 1 q = 0 := by
  have hround : round (|q| * 10 ^ 1) = 0 := by
    rw [round_eq, Int.floor_eq_zero_iff, Set.mem_Ico]
    have := abs_nonneg q
    constructor <;> linarith
  simp only [roundAway, hround, Int.cast_zero, zero_div, neg_zero, ite_self]

/-- Numbers of one sign are rounded alike if their magnitudes are. -/
theorem roundAway_eq_roundAway {places : Nat} {p q : ℚ} (hsign : p < 0 ↔ q < 0)
    (h : round (|p| * 10 ^ places) = round (|q| * 10 ^ places)) :
    roundAway places p = roundAway places q := by
  simp only [roundAway, h, hsign]

/-- **Between a magnitude and a half there is room**, unless it is the half itself. -/
theorem half_far {units : Nat} (h : IsRepresentable units)
    (hle : (units / oneUnits : ℚ) ≤ 10 ^ 15) {k : ℤ}
    (hne : (units / oneUnits : ℚ) * 10 ^ 1 ≠ k + 1 / 2) :
    (units / oneUnits : ℚ) / 2 ^ 54 ≤ |(units / oneUnits : ℚ) * 10 ^ 1 - (k + 1 / 2)| := by
  have hsmall : units < 2 ^ 53 * oneUnits :=
    lt_mul_of_div_lt zero_lt_oneUnits (hle.trans_lt (by norm_num))
  have hcases := quotient_eq_or_far zero_lt_oneUnits (h.eq_or_far hsmall 20 (2 * k + 1))
  generalize (units / oneUnits : ℚ) = q at hne hcases ⊢
  push_cast at hcases
  rcases hcases with heq | hfar
  · exact absurd (by linarith) hne
  · have hdouble : 20 * q - (2 * k + 1) = 2 * (q * 10 ^ 1 - (k + 1 / 2)) := by ring
    rw [hdouble, abs_mul, abs_two] at hfar
    linarith

/-- A decimal of 28 digits has room for a half. -/
theorem exists_digits_of_half {q : ℚ} (hnonneg : 0 ≤ q) (hle : q ≤ 10 ^ 15) {k : ℤ}
    (hhalf : q * 10 ^ 1 = k + 1 / 2) :
    ∃ digits : Nat, digits < 10 ^ (28 : Nat) ∧ q = digits / 10 ^ 2 := by
  have hknonneg : 0 ≤ k := by
    have hless : (-1 : ℚ) < k := by linarith
    have hint : -1 < k := by exact_mod_cast hless
    omega
  obtain ⟨n, rfl⟩ := Int.eq_ofNat_of_zero_le hknonneg
  have hn : n ≤ 10 ^ (16 : Nat) := by
    have hless : (n : ℚ) ≤ 10 ^ 16 := by
      push_cast at hhalf
      linarith
    exact_mod_cast hless
  refine ⟨10 * n + 5, by omega, ?_⟩
  push_cast at hhalf ⊢
  linarith

/-- Numbers that are close beside their magnitude have one sign. -/
theorem neg_iff_neg_of_close {p q : ℚ} (hpos : 0 < |q|) (hnear : |p - q| ≤ |q| * 5 / 10 ^ 27) :
    p < 0 ↔ q < 0 := by
  rw [abs_le] at hnear
  rcases lt_or_ge q 0 with hneg | hnonneg
  · rw [abs_of_neg hneg] at hnear hpos
    exact iff_of_true (by linarith) hneg
  · rw [abs_of_nonneg hnonneg] at hnear hpos
    exact iff_of_false (by linarith) (by linarith)

/-- **A decimal that stands for a share is rounded as the share is.** -/
theorem roundAway_eq_of_keeps {x : Binary64} (hfinite : x.isFinite = true)
    (hle : |x.value| ≤ 10 ^ 15) {d : FixedDecimal} (h : d.Keeps x.value) :
    roundAway 1 d.value = roundAway 1 x.value := by
  obtain ⟨hclose, hexact⟩ := h
  rcases lt_or_ge |x.value| (1 / 40) with hsmall | hlarge
  · -- Both are far below the first half.
    have hsum : |d.value| ≤ |x.value| + |d.value - x.value| := by
      have htriangle := abs_add_le x.value (d.value - x.value)
      rwa [add_sub_cancel] at htriangle
    rw [roundAway_one_eq_zero (by linarith : |d.value| < 1 / 20),
      roundAway_one_eq_zero (by linarith)]
  · have hpos : 0 < |x.value| := by linarith
    have hnear : |d.value - x.value| ≤ |x.value| * 5 / 10 ^ 27 := by linarith
    refine roundAway_eq_roundAway (neg_iff_neg_of_close hpos hnear) ?_
    refine (round_eq_round (|x.value| / 2 ^ 54) ?half ?far ?near).symm
    case half =>
      intro k hhalf
      obtain ⟨digits, hdigits, hvalue⟩ := exists_digits_of_half (abs_nonneg _) hle hhalf
      rw [hexact digits 2 hdigits (by decide) hvalue]
    case far =>
      intro k hne
      cases x with
      | nan | infinite => cases hfinite
      | finite negative units hunits =>
        rw [Binary64.abs_value] at hle hne ⊢
        exact half_far hunits hle hne
    case near =>
      have hmagnitudes : |(|x.value| - |d.value|)| ≤ |d.value - x.value| := by
        rw [abs_sub_comm d.value]
        exact abs_abs_sub_abs_le _ _
      rw [← sub_mul, abs_mul, abs_of_pos (by norm_num : (0 : ℚ) < 10 ^ 1)]
      linarith

/-! ## Shares -/

theorem largestShare_eq : largestShare = Binary64.ofNat (10 ^ (15 : Nat)) := by
  unfold largestShare
  exact Binary64.ofDecimal_natCast 1 15

theorem position_largestShare :
    largestShare.position = some ((10 ^ (15 : Nat) * oneUnits : Nat) : ℤ) := by
  rw [largestShare_eq, Binary64.ofNat_eq_finite (by decide)]
  rfl

theorem position_neg_largestShare :
    (-largestShare).position = some (-((10 ^ (15 : Nat) * oneUnits : Nat) : ℤ)) := by
  rw [largestShare_eq, Binary64.ofNat_eq_finite (by decide)]
  rfl

theorem zero_le_largestShare : 0 ≤ largestShare := by
  rw [largestShare_eq]
  exact Binary64.zero_le_ofNat _

theorem neg_largestShare_le_zero : -largestShare ≤ 0 :=
  (Binary64.le_iff_of_position position_neg_largestShare Binary64.position_ofNat_zero).mpr
    (Int.neg_nonpos_of_nonneg (Int.natCast_nonneg _))

/-- The quotient of finite numbers has a place, and so has a hundred times of it. -/
theorem isNaN_percent {value total : Binary64} (hvalue : value.isFinite = true)
    (htotal : total.isFinite = true) (hne : (total == 0) = false) :
    (value / total * 100).isNaN = false :=
  Binary64.isNaN_mul (Binary64.isNaN_div hvalue htotal hne)
    (Binary64.isFinite_literal 100 (by decide)) (Binary64.literal_beq_zero (by decide))

theorem abs_div_le {a : ℤ} {one bound : Nat} (hone : 0 < one)
    (hlow : -((bound * one : Nat) : ℤ) ≤ a) (hhigh : a ≤ ((bound * one : Nat) : ℤ)) :
    |(a : ℚ) / one| ≤ bound := by
  have hpos : (0 : ℚ) < one := by exact_mod_cast hone
  have hmagnitude : |(a : ℚ)| ≤ bound * one := by exact_mod_cast abs_le.mpr ⟨hlow, hhigh⟩
  rwa [abs_div, abs_of_pos hpos, div_le_iff₀ hpos]

/-- **A share is finite and within its bounds.** -/
theorem share_bounds {value total : Binary64} (hvalue : value.isFinite = true)
    (htotal : total.isFinite = true) (hne : (total == 0) = false) :
    (share value total).isFinite = true ∧ |(share value total).value| ≤ 10 ^ 15 := by
  have hnan := isNaN_percent hvalue htotal hne
  have hbounds := Binary64.le_trans neg_largestShare_le_zero zero_le_largestShare
  have hlow := Binary64.le_clamp hbounds hnan
  have hhigh := Binary64.clamp_le hbounds hnan
  rw [← share] at hlow hhigh
  generalize share value total = s at hlow hhigh ⊢
  obtain ⟨a, ha⟩ := Binary64.exists_position (Binary64.isNaN_eq_false_of_le hhigh).1
  rw [Binary64.le_iff_of_position position_neg_largestShare ha] at hlow
  rw [Binary64.le_iff_of_position ha position_largestShare] at hhigh
  have hfinite : s.isFinite = true := by
    have hlimit : 10 ^ (15 : Nat) * oneUnits < unitLimit :=
      (Binary64.isRepresentable_mul_oneUnits (by decide)).1
    exact Binary64.isFinite_iff.mpr ⟨a, ha, by omega⟩
  have hbound := abs_div_le zero_lt_oneUnits hlow hhigh
  rw [Nat.cast_pow, Nat.cast_ofNat, ← Binary64.value_eq_of_position hfinite ha] at hbound
  exact ⟨hfinite, hbound⟩

/-- Rounding does not leave whole bounds. -/
theorem abs_roundAway_le {places : Nat} {q : ℚ} {bound : Nat} (h : |q| ≤ bound) :
    |roundAway places q| ≤ bound := by
  have hten : (0 : ℚ) < 10 ^ places := by positivity
  have hscaled : |q| * 10 ^ places ≤ bound * 10 ^ places := mul_le_mul_of_nonneg_right h hten.le
  have hnonneg : 0 ≤ round (|q| * 10 ^ places) := by
    rw [round_eq, Int.floor_nonneg]
    positivity
  have hround : round (|q| * 10 ^ places) ≤ bound * 10 ^ places := by
    refine Int.lt_add_one_iff.mp ?_
    rw [round_eq, Int.floor_lt]
    push_cast
    linarith
  have hmagnitude : |(round (|q| * 10 ^ places) / 10 ^ places : ℚ)| ≤ bound := by
    rw [abs_of_nonneg (div_nonneg (by exact_mod_cast hnonneg) hten.le), div_le_iff₀ hten]
    exact_mod_cast hround
  unfold roundAway
  dsimp only
  split
  · rwa [abs_neg]
  · exact hmagnitude

/-! ## Labels -/

section Labels

variable {arithmetic : DecimalArithmetic} (harithmetic : arithmetic.IsFaithful)
  {value total : Binary64} (hvalue : value.isFinite = true) (htotal : total.isFinite = true)
  (hne : (total == 0) = false)

include hvalue htotal hne in
theorem label_eq_of_held {held : FixedDecimal}
    (hheld : arithmetic.ofBinary64 (share value total) = some held) :
    arithmetic.label value total = String.ofList ((arithmetic.roundTo 1 held).chars ++ ['%']) := by
  have hguard : (total == 0 || !total.isFinite || !value.isFinite) = false := by
    rw [hvalue, htotal, hne]
    rfl
  rw [DecimalArithmetic.label, hguard, if_neg Bool.false_ne_true, hheld]

include harithmetic hvalue htotal hne in
/-- A label is the decimal of one place next to the share. -/
theorem exists_label_eq :
    ∃ d : FixedDecimal, arithmetic.label value total = String.ofList (d.chars ++ ['%']) ∧
      d.places = 1 ∧ d.value = roundAway 1 (share value total).value := by
  obtain ⟨hfinite, hbound⟩ := share_bounds hvalue htotal hne
  obtain ⟨held, hheld, hfits, hkeeps⟩ :=
    harithmetic.ofBinary64 _ hfinite (hbound.trans_lt (by norm_num))
  have hroom : |held.value| * 10 ^ 1 < 10 ^ 28 := by
    have hsum := abs_add_le (share value total).value (held.value - (share value total).value)
    rw [add_sub_cancel] at hsum
    linarith [hkeeps.close]
  obtain ⟨hplaces, hrounded⟩ := harithmetic.roundTo 1 held hfits (by decide) hroom
  refine ⟨_, label_eq_of_held hvalue htotal hne hheld, hplaces, ?_⟩
  rw [hrounded, roundAway_eq_of_keeps hfinite hbound hkeeps]

include harithmetic hvalue htotal hne in
/-- **A label reads as the share rounded to one place.**  The share of a finite value in a finite
total that is not zero is finite, whatever overflows on the way; the label spells its exact value
rounded to one decimal, a half away from zero, within the bounds of shares and with one digit behind
the point. -/
theorem label_reads_rounded_share :
    (share value total).isFinite = true ∧
      spelled? (arithmetic.label value total) = some (roundAway 1 (share value total).value) ∧
      |roundAway 1 (share value total).value| ≤ 10 ^ 15 ∧
      HasOneDecimal (arithmetic.label value total) := by
  obtain ⟨d, hlabel, hplaces, hd⟩ := exists_label_eq harithmetic hvalue htotal hne
  obtain ⟨hfinite, hbound⟩ := share_bounds hvalue htotal hne
  refine ⟨hfinite, ?spells, ?bound, ?decimal⟩
  case spells => rw [hlabel, spelled?_chars, hd]
  case bound =>
    have hround : |roundAway 1 (share value total).value| ≤ ((10 ^ 15 : Nat) : ℚ) :=
      abs_roundAway_le (hbound.trans_eq (by norm_num))
    rwa [Nat.cast_pow, Nat.cast_ofNat] at hround
  case decimal =>
    rw [hlabel]
    exact hasOneDecimal_chars hplaces

end Labels

/-- A share that is a half of the last place is rounded away from zero. -/
theorem label_reads_rounded_share_quarter :
    (1 : Binary64).isFinite = true ∧ (400 : Binary64).isFinite = true ∧
      ((400 : Binary64) == 0) = false ∧ share 1 400 = 0.25 ∧ label 1 400 = "0.3%" ∧
      spelled? (label 1 400) = some (roundAway 1 (share 1 400).value) := by
  have hone : (1 : Binary64).isFinite = true := Binary64.isFinite_one
  have htotal : (400 : Binary64).isFinite = true := Binary64.isFinite_literal 400 (by decide)
  have hne : ((400 : Binary64) == 0) = false := Binary64.literal_beq_zero (by decide)
  obtain ⟨-, hspelled, -⟩ := label_reads_rounded_share standard_isFaithful hone htotal hne
  exact ⟨hone, htotal, hne, by decide +kernel, by decide +kernel, hspelled⟩

end Charting.Percent
