import Charting.Proofs.Percent.Nearest
import Charting.Proofs.Rounding.Sum

/-! # The form of percent labels

Every label has one decimal, whatever the value and the total are: a NaN, an infinity and a zero
total leave no trace in it.  Its sign is not always what it should be.  A decimal that is rounded to
zero loses its minus, but one that is a zero before it is rounded keeps it, and so `-0.0%` stands for
the share of a zero in a negative total.  Apart from such shares every label is canonical
(`label_form`).
-/
namespace Charting.Percent

open Number

-- Powers of naturals are the built-in ones, also beside other instances of powers.
attribute [local instance (1100)] instPowNat

/-- One decimal, a minus only in front of a number that is not zero, and one way to write zero. -/
structure IsCanonical (text : String) : Prop where
  oneDecimal : HasOneDecimal text
  minus : text.toList.head? = some '-' → spelled? text ≠ some 0
  zero : spelled? text = some 0 → text = "0.0%"

/-- There is a share, it has the sign minus, and its decimal is a zero. -/
structure LeavesMinus (value total : Binary64) : Prop where
  value_isFinite : value.isFinite = true
  total_isFinite : total.isFinite = true
  total_ne_zero : (total == 0) = false
  isNegative : (share value total).isNegative = true
  vanishes : vanishes (share value total).units = true

/-! ## Decimals of one place -/

section OnePlace

variable {d : FixedDecimal} (hplaces : d.places = 1)
include hplaces

theorem value_eq_zero_iff : d.value = 0 ↔ d.digits = 0 := by
  rw [FixedDecimal.value, hplaces, pow_one, div_eq_zero_iff]
  cases d.negative <;> simp [Binary64.signed]

theorem chars_eq_zero (hnegative : d.negative = false) (hdigits : d.digits = 0) :
    String.ofList (d.chars ++ ['%']) = "0.0%" := by
  obtain ⟨negative, digits, places⟩ := d
  obtain rfl : negative = false := hnegative
  obtain rfl : digits = 0 := hdigits
  obtain rfl : places = 1 := hplaces
  rfl

omit hplaces in
theorem head?_chars (hnegative : d.negative = false) :
    (String.ofList (d.chars ++ ['%'])).toList.head? ≠ some '-' := by
  obtain ⟨negative, digits, places⟩ := d
  obtain rfl : negative = false := hnegative
  have hdigit := Decimal.head?_text_plain ⟨digits, -places⟩ fun _ =>
    Int.neg_nonpos_of_nonneg (Int.natCast_nonneg places)
  have hchars : (FixedDecimal.mk false digits places).chars =
      (⟨digits, -places⟩ : Decimal).text .plain := rfl
  rw [String.toList_ofList, hchars]
  generalize (⟨digits, -places⟩ : Decimal).text .plain = body at hdigit ⊢
  intro hminus
  cases body with
  | nil => simp at hminus
  | cons c rest =>
    obtain rfl : c = '-' := by simpa using hminus
    exact absurd (hdigit _ rfl) (by decide)

/-- A decimal is written canonically, unless it is a zero with the sign minus. -/
theorem isCanonical_chars_iff :
    IsCanonical (String.ofList (d.chars ++ ['%'])) ↔ ¬(d.negative = true ∧ d.digits = 0) := by
  constructor
  · rintro hcanonical ⟨hnegative, hdigits⟩
    have hspelled : spelled? (String.ofList (d.chars ++ ['%'])) = some 0 := by
      rw [spelled?_chars, (value_eq_zero_iff hplaces).mpr hdigits]
    refine hcanonical.minus ?_ hspelled
    simp [FixedDecimal.chars, hnegative]
  · intro hsign
    have hnonzero : d.digits = 0 → d.negative = false := fun hdigits =>
      Bool.eq_false_iff.mpr fun hnegative => hsign ⟨hnegative, hdigits⟩
    constructor
    case oneDecimal => exact hasOneDecimal_chars hplaces
    case minus =>
      intro hminus hzero
      rw [spelled?_chars, Option.some.injEq, value_eq_zero_iff hplaces] at hzero
      exact head?_chars (hnonzero hzero) hminus
    case zero =>
      intro hzero
      rw [spelled?_chars, Option.some.injEq, value_eq_zero_iff hplaces] at hzero
      exact chars_eq_zero hplaces (hnonzero hzero) hzero

end OnePlace

/-! ## Shares -/

/-- Only what vanishes is held as zero. -/
theorem heldDigits_eq_zero_iff {units : Nat} (hlength : decimalLength (units / oneUnits) ≤ 28) :
    heldDigits units = 0 ↔ vanishes units = true := by
  unfold heldDigits
  split
  case isTrue hvanishes => exact iff_of_true rfl hvanishes
  case isFalse hkept =>
    refine iff_of_false ?_ hkept
    have hone := zero_lt_oneUnits
    have hhalf : oneUnits ≤ 2 * (units * 10 ^ heldPlaces units) := by
      rcases Nat.lt_or_ge (heldPlaces units) 28 with hless | hall
      · have hdigits := ten_pow_le_mul hless hlength
        omega
      · have hplaces : heldPlaces units = 28 := Nat.le_antisymm (Nat.sub_le _ _) hall
        rw [vanishes_iff] at hkept
        rw [hplaces]
        omega
    generalize units * 10 ^ heldPlaces units = scaled at hhalf ⊢
    have hpos : 0 < roundHalfUp scaled oneUnits := Nat.div_pos (by omega) (by omega)
    exact hpos.ne'

/-- Rounding keeps the minus of a zero and leaves none in front of another number that it rounds to
zero. -/
theorem roundTo_standard_isZero_iff (places : Nat) (d : FixedDecimal) :
    ((DecimalArithmetic.standard.roundTo places d).negative = true ∧
      (DecimalArithmetic.standard.roundTo places d).digits = 0) ↔
      d.negative = true ∧ d.digits = 0 := by
  have hden : 0 < 10 ^ d.places := Nat.pow_pos (by decide)
  have hzero : roundHalfUp 0 (10 ^ d.places) = 0 := Nat.div_eq_of_lt (by omega)
  dsimp only [DecimalArithmetic.standard]
  constructor
  · rintro ⟨hnegative, hdigits⟩
    simpa [hdigits] using hnegative
  · rintro ⟨hnegative, hdigits⟩
    simp [hnegative, hdigits, hzero]

/-- Every label is a decimal of one place, and where it is a zero with the sign minus is known. -/
theorem exists_label_standard (value total : Binary64) :
    ∃ d : FixedDecimal, label value total = String.ofList (d.chars ++ ['%']) ∧ d.places = 1 ∧
      ((d.negative = true ∧ d.digits = 0) ↔ LeavesMinus value total) := by
  by_cases hguard : (total == 0 || !total.isFinite || !value.isFinite) = true
  · refine ⟨⟨false, 0, 1⟩, ?_, rfl, iff_of_false (by simp) fun h => ?_⟩
    · rw [label, DecimalArithmetic.label, hguard, if_pos rfl]
      rfl
    · simp [h.value_isFinite, h.total_isFinite, h.total_ne_zero] at hguard
  · simp only [Bool.or_eq_true, Bool.not_eq_true', not_or, Bool.not_eq_false,
      Bool.not_eq_true] at hguard
    obtain ⟨⟨hne, htotal⟩, hvalue⟩ := hguard
    obtain ⟨hfinite, hbound⟩ := share_bounds hvalue htotal hne
    have hlost : LeavesMinus value total ↔
        (share value total).isNegative = true ∧ vanishes (share value total).units = true :=
      ⟨fun h => ⟨h.isNegative, h.vanishes⟩, fun h => ⟨hvalue, htotal, hne, h.1, h.2⟩⟩
    have hheld {held : FixedDecimal}
        (h : DecimalArithmetic.standard.ofBinary64 (share value total) = some held) :=
      label_eq_of_held hvalue htotal hne h
    rw [hlost, label]
    generalize share value total = s at hfinite hbound hheld ⊢
    cases s with
    | nan | infinite => cases hfinite
    | finite negative units h =>
      have hsmall := lt_of_abs_value_lt h (hbound.trans_lt (by norm_num))
      refine ⟨_, hheld (ofBinary64_standard h hsmall), rfl, ?_⟩
      rw [roundTo_standard_isZero_iff, heldDigits_eq_zero_iff (decimalLength_le hsmall)]
      rfl

/-- **The form of a label.**  It always has one decimal, so it holds no letter; and it is canonical
unless the minus of a share is left in front of a zero. -/
theorem label_form (value total : Binary64) :
    HasOneDecimal (label value total) ∧
      (IsCanonical (label value total) ↔ ¬LeavesMinus value total) := by
  obtain ⟨d, hlabel, hplaces, hminus⟩ := exists_label_standard value total
  rw [hlabel, ← hminus]
  exact ⟨hasOneDecimal_chars hplaces, isCanonical_chars_iff hplaces⟩

/-- A zero in a negative total: the share is a zero with the sign minus, and so is its label. -/
theorem label_of_negative_total_not_canonical : ¬IsCanonical (label 0 (-1)) := by
  have hlabel : label 0 (-1) = "-0.0%" := by decide +kernel
  have hspelled : spelled? "-0.0%" = some 0 := by
    have hminus := spelled?_chars ⟨true, 0, 1⟩
    rwa [(value_eq_zero_iff rfl).mpr rfl] at hminus
  rw [hlabel]
  exact fun hcanonical => hcanonical.minus (by decide) hspelled

end Charting.Percent
