import Charting.Number.Literal
import Charting.Proofs.ZeroSign.Number

/-! # Decimals of one value

A binary64 number that is written and read again passes through two decimals: the shortest one
that reads back, and the one that the written digits spell.  These need not have the same digits,
since a whole number is written with zeros behind its digits, and with one more behind the point.
But they have the same value, and rounding sees nothing else (`toUnits_pad`).

The reader of literals does not round decimals that lie far beyond the format on either side.  This
changes nothing about its results: `toBinary64_eq_ofDecimal`.
-/
namespace Charting.Number

-- Powers of naturals are the built-in ones, also beside other instances of powers.
attribute [local instance (1100)] instPowNat

/-! ## Equal quotients -/

theorem roundHalfEven_mul_mul (num den : Nat) {c : Nat} (hc : 0 < c) :
    roundHalfEven (num * c) (den * c) = roundHalfEven num den := by
  have hlt : 2 * (num % den * c) < den * c ↔ 2 * (num % den) < den := by
    rw [← Nat.mul_assoc]
    exact Nat.mul_lt_mul_right hc
  have hgt : den * c < 2 * (num % den * c) ↔ den < 2 * (num % den) := by
    rw [← Nat.mul_assoc]
    exact Nat.mul_lt_mul_right hc
  simp only [roundHalfEven, Nat.mul_div_mul_right _ _ hc, Nat.mul_mod_mul_right, hlt, hgt]

theorem roundUnits_mul_mul (num den : Nat) {c : Nat} (hc : 0 < c) :
    roundUnits (num * c) (den * c) = roundUnits num den := by
  have hden : ∀ d, den * c * d = den * d * c := fun d => Nat.mul_right_comm den c d
  simp only [roundUnits, Nat.mul_div_mul_right _ _ hc, hden, roundHalfEven_mul_mul _ _ hc]

/-! ## Equal decimals -/

namespace Decimal

/-- The same value with zeros behind its digits. -/
def pad (d : Decimal) (zeros : Nat) : Decimal := ⟨d.digits * 10 ^ zeros, d.exponent - zeros⟩

@[simp] theorem pad_zero (d : Decimal) : d.pad 0 = d := by
  cases d
  simp [pad]

theorem pad_pad (d : Decimal) (m n : Nat) : (d.pad m).pad n = d.pad (m + n) := by
  simp only [pad, Nat.pow_add, Nat.mul_assoc, mk.injEq, true_and]
  omega

theorem toUnits_pad_one (d : Decimal) : (d.pad 1).toUnits = d.toUnits := by
  obtain ⟨digits, exponent⟩ := d
  have hten : 0 < 10 := by decide
  cases exponent with
  | ofNat zeros =>
    cases zeros with
    | zero =>
      -- The point moves in front of the new zero.
      change roundUnits (digits * 10 ^ 1 * oneUnits) (10 ^ (0 + 1)) =
        roundUnits (digits * 10 ^ 0 * oneUnits) 1
      rw [← roundUnits_mul_mul _ 1 hten, Nat.one_mul, Nat.mul_right_comm, Nat.zero_add,
        Nat.pow_zero, Nat.mul_one, Nat.pow_one]
    | succ n =>
      have hexp : (Int.ofNat (n + 1) - (1 : Nat) : Int) = Int.ofNat n := by simp
      simp only [toUnits, pad, hexp, decimalRatio, Nat.pow_succ', Nat.pow_zero, Nat.one_mul,
        Nat.mul_assoc]
  | negSucc n =>
    have hexp : (Int.negSucc n - (1 : Nat) : Int) = Int.negSucc (n + 1) := by omega
    simp only [toUnits, pad, hexp, decimalRatio]
    rw [Nat.pow_one, Nat.mul_right_comm, Nat.pow_succ 10 (n + 1), roundUnits_mul_mul _ _ hten]

/-- Zeros behind the digits do not change what a decimal reads as. -/
theorem toUnits_pad (d : Decimal) (zeros : Nat) : (d.pad zeros).toUnits = d.toUnits := by
  induction zeros with
  | zero => rw [pad_zero]
  | succ n ih => rw [← pad_pad, toUnits_pad_one, ih]

/-! ## Decimals beyond the format -/

theorem lt_ten_pow_decimalLength {n : Nat} (h : n ≠ 0) : n < 10 ^ decimalLength n := by
  rw [decimalLength, if_neg h]
  exact (Nat.length_toDigits_le_iff (by decide) Nat.length_toDigits_pos).mp (Nat.le_refl _)

theorem ten_pow_le_of_lt_decimalLength {n k : Nat} (h : k < decimalLength n) : 10 ^ k ≤ n := by
  by_cases hn : n = 0
  · simp [decimalLength, hn] at h
  rw [decimalLength, if_neg hn] at h
  cases k with
  | zero => exact Nat.pos_of_ne_zero hn
  | succ k =>
    refine Nat.le_of_not_lt fun hlt => ?_
    have := (Nat.length_toDigits_le_iff (by decide) (Nat.succ_pos k)).mpr hlt
    omega

end Decimal

/-- Less than half a unit rounds to nothing. -/
theorem roundUnits_eq_zero {num den : Nat} (h : 2 * num < den) : roundUnits num den = 0 := by
  have hlt : num < den := by omega
  have hdropped : droppedBits 0 = 0 := by decide
  simp [roundUnits, roundHalfEven, Nat.div_eq_of_lt hlt, Nat.mod_eq_of_lt hlt, hdropped, h]

/-- What lies at the limit or beyond is not rounded below it. -/
theorem unitLimit_le_roundUnits {num den : Nat} (h : unitLimit ≤ num / den) :
    unitLimit ≤ roundUnits num den := by
  have hne : num / den ≠ 0 := by
    have := unitLimit_pos
    omega
  have hlog : limitExponent ≤ (num / den).log2 := (Nat.le_log2 hne).mpr h
  have hdropped : droppedBits (num / den) ≤ (num / den).log2 := Nat.sub_le _ _
  unfold roundUnits
  dsimp only
  generalize droppedBits (num / den) = dropped at hdropped ⊢
  have hsignificand : 2 ^ ((num / den).log2 - dropped) ≤ roundHalfEven num (den * 2 ^ dropped) := by
    refine Nat.le_trans ?_ (le_roundHalfEven _ _)
    rw [← Nat.div_div_eq_div_mul, Nat.le_div_iff_mul_le (Nat.two_pow_pos _), ← Nat.pow_add,
      Nat.sub_add_cancel hdropped]
    exact Nat.log2_self_le hne
  calc
    unitLimit ≤ 2 ^ (num / den).log2 := Nat.pow_le_pow_right (by decide) hlog
    _ = 2 ^ ((num / den).log2 - dropped) * 2 ^ dropped := by
      rw [← Nat.pow_add, Nat.sub_add_cancel hdropped]
    _ ≤ roundHalfEven num (den * 2 ^ dropped) * 2 ^ dropped := Nat.mul_le_mul_right _ hsignificand

/-- As many powers of ten as fit into an exponent. -/
theorem two_pow_mul_div_le {a b : Nat} (h : 2 ^ a ≤ 10 ^ b) (k : Nat) :
    2 ^ (a * (k / b)) ≤ 10 ^ k :=
  calc
    2 ^ (a * (k / b)) = (2 ^ a) ^ (k / b) := Nat.pow_mul _ _ _
    _ ≤ (10 ^ b) ^ (k / b) := Nat.pow_le_pow_left h _
    _ = 10 ^ (b * (k / b)) := (Nat.pow_mul _ _ _).symm
    _ ≤ 10 ^ k := Nat.pow_le_pow_right (by decide) (Nat.mul_div_le k b)

theorem two_mul_oneUnits_lt {k : Nat} (h : 330 ≤ k) : 2 * oneUnits < 10 ^ k := by
  refine Nat.lt_of_lt_of_le ?_ (two_pow_mul_div_le (show 2 ^ 109 ≤ 10 ^ 33 by decide) k)
  rw [oneUnits, ← Nat.pow_succ']
  exact Nat.pow_lt_pow_right (by decide) (by unfold unitExponent; omega)

theorem unitLimit_le_mul_oneUnits {k : Nat} (h : 310 ≤ k) : unitLimit ≤ 10 ^ k * oneUnits := by
  have hpow := two_pow_mul_div_le (show 2 ^ 205 ≤ 10 ^ 62 by decide) k
  refine Nat.le_trans ?_ (Nat.mul_le_mul_right oneUnits hpow)
  rw [unitLimit, oneUnits, ← Nat.pow_add]
  exact Nat.pow_le_pow_right (by decide) (by unfold limitExponent unitExponent; omega)

namespace Decimal

open Binary64

theorem ofDecimal_zero (negative : Bool) (exponent : Int) :
    ofDecimal negative 0 exponent = zero negative := by
  cases exponent <;> simp [ofDecimal, decimalRatio]

theorem ofDecimal_eq_zero {digits : Nat} {exponent : Int} (negative : Bool)
    (h : decimalLength digits + exponent < -330) :
    ofDecimal negative digits exponent = zero negative := by
  by_cases hzero : digits = 0
  · rw [hzero, ofDecimal_zero]
  obtain ⟨k, hk⟩ : ∃ k, k = 330 := ⟨330, rfl⟩
  have hsmall : 2 * oneUnits < 10 ^ k := two_mul_oneUnits_lt (Nat.le_of_eq hk.symm)
  cases exponent with
  | ofNat zeros =>
    rw [Int.ofNat_eq_natCast] at h
    omega
  | negSucc n =>
    have hnone : roundUnits (digits * oneUnits) (10 ^ (n + 1)) = 0 := by
      refine roundUnits_eq_zero ?_
      calc
        2 * (digits * oneUnits) = digits * (2 * oneUnits) := Nat.mul_left_comm _ _ _
        _ < 10 ^ decimalLength digits * 10 ^ k :=
          Nat.mul_lt_mul'' (lt_ten_pow_decimalLength hzero) hsmall
        _ = 10 ^ (decimalLength digits + k) := (Nat.pow_add _ _ _).symm
        _ ≤ 10 ^ (n + 1) := Nat.pow_le_pow_right (by decide) (by omega)
    simp [ofDecimal, decimalRatio, ofRatio, hnone, unitLimit_pos, zero]

theorem ofDecimal_eq_infinite {digits : Nat} {exponent : Int} (negative : Bool)
    (hne : digits ≠ 0) (h : 310 < decimalLength digits + exponent) :
    ofDecimal negative digits exponent = infinite negative := by
  obtain ⟨k, hk⟩ : ∃ k, k = 310 := ⟨310, rfl⟩
  have hlarge : unitLimit ≤ 10 ^ k * oneUnits := unitLimit_le_mul_oneUnits (Nat.le_of_eq hk.symm)
  have hlength : 0 < decimalLength digits := by
    rw [decimalLength, if_neg hne]
    exact Nat.length_toDigits_pos
  have hdigits : 10 ^ (decimalLength digits - 1) ≤ digits :=
    ten_pow_le_of_lt_decimalLength (by omega)
  have hlimit :
      unitLimit ≤ (decimalRatio digits exponent).1 / (decimalRatio digits exponent).2 := by
    refine Nat.le_trans hlarge ?_
    cases exponent with
    | ofNat zeros =>
      rw [Int.ofNat_eq_natCast] at h
      rw [decimalRatio, Nat.div_one]
      refine Nat.mul_le_mul_right _ ?_
      calc
        10 ^ k ≤ 10 ^ (decimalLength digits - 1 + zeros) :=
          Nat.pow_le_pow_right (by decide) (by omega)
        _ = 10 ^ (decimalLength digits - 1) * 10 ^ zeros := Nat.pow_add _ _ _
        _ ≤ digits * 10 ^ zeros := Nat.mul_le_mul_right _ hdigits
    | negSucc n =>
      rw [decimalRatio, Nat.le_div_iff_mul_le (Nat.pow_pos (by decide)), Nat.mul_right_comm]
      refine Nat.mul_le_mul_right _ ?_
      calc
        10 ^ k * 10 ^ (n + 1) = 10 ^ (k + (n + 1)) := (Nat.pow_add _ _ _).symm
        _ ≤ 10 ^ (decimalLength digits - 1) := Nat.pow_le_pow_right (by decide) (by omega)
        _ ≤ digits := hdigits
  rw [ofDecimal, ofRatio, dif_neg (Nat.not_lt.mpr (unitLimit_le_roundUnits hlimit))]

/-- Leaving out the rounding of decimals beyond the format changes no result. -/
theorem toBinary64_eq_ofDecimal (negative : Bool) (d : Decimal) :
    d.toBinary64 negative = ofDecimal negative d.digits d.exponent := by
  unfold toBinary64
  dsimp only
  split
  · rename_i h
    rcases h with h | h
    · rw [h, ofDecimal_zero]
    · exact (ofDecimal_eq_zero negative h).symm
  · rename_i hin
    split
    · rename_i h
      exact (ofDecimal_eq_infinite negative (fun hzero => hin (Or.inl hzero)) h).symm
    · rfl

/-- A decimal that rounds to the units of a number is read as that number. -/
theorem toBinary64_of_toUnits {d : Decimal} {units : Nat} (negative : Bool)
    (h : IsRepresentable units) (hd : d.toUnits = units) :
    d.toBinary64 negative = .finite negative units h := by
  subst hd
  have hlimit : roundUnits (decimalRatio d.digits d.exponent).1
      (decimalRatio d.digits d.exponent).2 < unitLimit := h.1
  rw [toBinary64_eq_ofDecimal, ofDecimal, ofRatio, dif_pos hlimit]
  rfl

end Decimal

end Charting.Number
