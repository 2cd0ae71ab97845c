import Charting.Number.Binary64

/-! # Constants

The numbers that are given as constants are whole, or have a few digits behind the point.  They are
finite, since 64 bits lie far below the limit of the format (`Binary64.isFinite_ofRatio`), and whole
numbers up to `2 ^ 53` are not rounded at all (`Binary64.ofNat_eq_finite`).  So a fact about one of
them follows from its digits, without evaluating its units.
-/
namespace Charting.Number

-- Powers of naturals are the built-in ones, also beside other instances of powers.
attribute [local instance (1100)] instPowNat

/-- Rounding gives hardly more than twice the quotient. -/
theorem roundUnits_le (num den : Nat) : roundUnits num den ≤ 2 * (num / den) + 1 := by
  unfold roundUnits
  dsimp only
  generalize hunits : num / den = units
  have hdropped : 2 ^ droppedBits units ≤ units + 1 := by
    by_cases h : units = 0
    · subst h
      decide
    · calc
        2 ^ droppedBits units ≤ 2 ^ units.log2 :=
          Nat.pow_le_pow_right (by decide) (Nat.sub_le _ _)
        _ ≤ units := Nat.log2_self_le h
        _ ≤ units + 1 := Nat.le_succ _
  calc
    roundHalfEven num (den * 2 ^ droppedBits units) * 2 ^ droppedBits units
        ≤ (units / 2 ^ droppedBits units + 1) * 2 ^ droppedBits units := by
          refine Nat.mul_le_mul_right _ ?_
          rw [← hunits, Nat.div_div_eq_div_mul]
          exact roundHalfEven_le _ _
    _ ≤ units + 2 ^ droppedBits units := by
      rw [Nat.add_mul, Nat.one_mul]
      exact Nat.add_le_add_right (Nat.div_mul_le_self _ _) _
    _ ≤ 2 * units + 1 := by omega

theorem zero_lt_oneUnits : 0 < oneUnits := Nat.two_pow_pos unitExponent

/-- The limit lies far above the words of 64 bits. -/
theorem two_pow_mul_oneUnits_lt_unitLimit : 2 ^ (65 : Nat) * oneUnits < unitLimit := by
  rw [oneUnits, unitLimit, ← Nat.pow_add]
  exact Nat.pow_lt_pow_right (by decide) (by decide)

namespace Binary64

/-! ## Finite numbers -/

/-- What is below `2 ^ 64` is finite. -/
theorem isFinite_ofRatio (negative : Bool) {num den : Nat}
    (h : num / den < 18446744073709551616 * oneUnits) :
    (ofRatio negative num den).isFinite = true := by
  have hlimit := two_pow_mul_oneUnits_lt_unitLimit
  have hround := roundUnits_le num den
  have hfits : roundUnits num den < unitLimit := by omega
  rw [ofRatio, dif_pos hfits]
  rfl

theorem isFinite_ofRatio_one (negative : Bool) {n : Nat} (h : n < 18446744073709551616) :
    (ofRatio negative (n * oneUnits) 1).isFinite = true := by
  refine isFinite_ofRatio negative ?_
  rw [Nat.div_one]
  exact Nat.mul_lt_mul_of_pos_right h zero_lt_oneUnits

theorem isFinite_ofNat {n : Nat} (h : n < 18446744073709551616) : (ofNat n).isFinite = true :=
  isFinite_ofRatio_one false h

@[simp] theorem isFinite_literal (n : Nat) (h : n < 18446744073709551616) :
    (no_index (OfNat.ofNat n) : Binary64).isFinite = true := isFinite_ofNat h

/-- Digits behind the point only make a number smaller. -/
theorem isFinite_ofDecimal (negative : Bool) {digits : Nat} (places : Nat)
    (h : digits < 18446744073709551616) :
    (ofDecimal negative digits (-(places : Int))).isFinite = true := by
  cases places with
  | zero =>
    have hratio : ofDecimal negative digits (-((0 : Nat) : Int)) =
        ofRatio negative (digits * oneUnits) 1 := by simp [ofDecimal, decimalRatio]
    rw [hratio]
    exact isFinite_ofRatio_one negative h
  | succ n =>
    rw [ofDecimal, decimalRatio_neg digits (Nat.succ_pos n)]
    refine isFinite_ofRatio negative (Nat.lt_of_le_of_lt (Nat.div_le_self _ _) ?_)
    exact Nat.mul_lt_mul_of_pos_right h zero_lt_oneUnits

theorem isFinite_neg {x : Binary64} (h : x.isFinite = true) : (-x).isFinite = true := by
  cases x with
  | nan | infinite => cases h
  | finite => rfl

/-! ## Exact numbers -/

/-- A significand of 53 bits fits the format, unless its places are too high. -/
theorem isRepresentable_mul_two_pow {significand dropped : Nat} (h : significand ≤ 2 ^ (53 : Nat))
    (hdropped : dropped ≤ 2000) : IsRepresentable (significand * 2 ^ dropped) := by
  refine ⟨?_, two_pow_droppedBits_dvd h⟩
  calc
    significand * 2 ^ dropped ≤ 2 ^ 53 * 2 ^ dropped := Nat.mul_le_mul_right _ h
    _ = 2 ^ (53 + dropped) := (Nat.pow_add 2 53 dropped).symm
    _ < 2 ^ limitExponent := Nat.pow_lt_pow_right (by decide) (by unfold limitExponent; omega)

theorem isRepresentable_one : IsRepresentable 1 := by
  have hunit := @isRepresentable_mul_two_pow 1 0 (by decide) (by decide)
  rwa [Nat.pow_zero, Nat.mul_one] at hunit

theorem isRepresentable_mul_oneUnits {n : Nat} (h : n ≤ 2 ^ (53 : Nat)) :
    IsRepresentable (n * oneUnits) :=
  isRepresentable_mul_two_pow h (by decide)

theorem isRepresentable_oneUnits : IsRepresentable oneUnits := by
  have hone := @isRepresentable_mul_oneUnits 1 (by decide)
  rwa [Nat.one_mul] at hone

/-- A decimal with nothing behind the point is a whole number. -/
theorem ofDecimal_natCast (digits zeros : Nat) :
    ofDecimal false digits (zeros : Int) = ofNat (digits * 10 ^ zeros) := rfl

/-- Whole numbers up to `2 ^ 53` are not rounded. -/
theorem ofNat_eq_finite {n : Nat} (h : n ≤ 2 ^ (53 : Nat)) :
    ofNat n = finite false (n * oneUnits) (isRepresentable_mul_oneUnits h) := by
  have hround : roundUnits (n * oneUnits) 1 = n * oneUnits := by
    have hexact := roundUnits_mul (isRepresentable_mul_oneUnits h) Nat.one_pos
    rwa [Nat.mul_one] at hexact
  have hlt : roundUnits (n * oneUnits) 1 < unitLimit := by
    rw [hround]
    exact (isRepresentable_mul_oneUnits h).1
  rw [ofNat, ofRatio, dif_pos hlt]
  simp only [hround]

theorem position_zero (negative : Bool) : (zero negative).position = some 0 := by
  cases negative <;> rfl

theorem ofNat_zero : (0 : Binary64) = zero false := by
  refine (ofNat_eq_finite (Nat.zero_le _)).trans ?_
  simp only [Nat.zero_mul, zero]

theorem ofNat_one : (1 : Binary64) = finite false oneUnits isRepresentable_oneUnits := by
  refine (ofNat_eq_finite Nat.one_le_two_pow).trans ?_
  simp only [Nat.one_mul]

theorem isFinite_literal_mul {m n : Nat} (hm : m ≤ 2 ^ (53 : Nat)) (hn : n ≤ 2 ^ (53 : Nat))
    (h : m * n < 18446744073709551616) :
    (no_index (OfNat.ofNat m) * no_index (OfNat.ofNat n) : Binary64).isFinite = true := by
  change (ofNat m * ofNat n).isFinite = true
  rw [ofNat_eq_finite hm, ofNat_eq_finite hn]
  change (mul (finite ..) (finite ..)).isFinite = true
  rw [mul]
  refine isFinite_ofRatio _ ?_
  rw [← Nat.mul_assoc, Nat.mul_div_cancel _ zero_lt_oneUnits, Nat.mul_right_comm]
  exact Nat.mul_lt_mul_of_pos_right h zero_lt_oneUnits

theorem isFinite_zero : (0 : Binary64).isFinite = true := by
  rw [ofNat_zero]
  rfl

theorem isFinite_one : (1 : Binary64).isFinite = true := by
  rw [ofNat_one]
  rfl

end Binary64
end Charting.Number
