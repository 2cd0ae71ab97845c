import Charting.Percent
import Charting.Proofs.RoundTrip.Dimension
import Mathlib.Algebra.Order.Field.Rat
import Mathlib.Tactic.FieldSimp

/-! # Reading percent labels

A percent label is read by the reader of literals, once its percent sign is taken off: `spelled?` is
the exact decimal that its digits spell, not the binary number next to it.  What is read is the
decimal that was written, and a minus in front of a zero makes no difference (`spelled?_chars`).
-/
namespace Charting

open Number

namespace Number.Decimal

/-- The number that a decimal stands for. -/
def value (d : Decimal) : ℚ := d.digits * 10 ^ d.exponent

/-- Zeros behind the digits do not change it. -/
theorem value_pad (d : Decimal) (zeros : Nat) : (d.pad zeros).value = d.value := by
  have hten : (10 : ℚ) ≠ 0 := by norm_num
  simp only [value, pad, Nat.cast_mul, Nat.cast_pow, Nat.cast_ofNat]
  rw [zpow_sub₀ hten, zpow_natCast]
  field_simp

end Number.Decimal

namespace Percent

/-- The number that a percent label spells. -/
def spelled? (text : String) : Option ℚ :=
  (Text.dropEnd? ['%'] text.toList).bind fun cs =>
    let (negative, body) := readSign cs
    (Decimal.read body).map fun d => if negative then -d.value else d.value

/-- A sign or none, digits with no zero in front of others, a point, one digit and the percent
sign. -/
def HasOneDecimal (text : String) : Prop :=
  ∃ minus whole last, text.toList = signChars minus ++ (whole ++ ['.', last, '%']) ∧
    IsWhole whole ∧ last.isDigit = true

/-- The number that a decimal stands for. -/
def FixedDecimal.value (d : FixedDecimal) : ℚ :=
  Binary64.signed d.negative d.digits / 10 ^ d.places

/-- **A label spells the decimal that was written.** -/
theorem spelled?_chars (d : FixedDecimal) :
    spelled? (String.ofList (d.chars ++ ['%'])) = some d.value := by
  obtain ⟨negative, digits, places⟩ := d
  have hchars : (FixedDecimal.mk negative digits places).chars =
      signChars negative ++ (⟨digits, -places⟩ : Decimal).text .plain := rfl
  have hpoint : (⟨digits, -places⟩ : Decimal).digits = 0 → -(places : Int) ≤ 0 :=
    fun _ => Int.neg_nonpos_of_nonneg (Int.natCast_nonneg places)
  obtain ⟨zeros, hread⟩ := (⟨digits, -places⟩ : Decimal).exists_read_text hpoint
  rw [spelled?, String.toList_ofList, Text.dropEnd?_eq_some_iff.mpr rfl, Option.bind_some, hchars]
  simp only [Binary64.readSign_append negative (Decimal.head?_text_plain _ hpoint), hread,
    Option.map_some, Decimal.value_pad]
  simp only [Decimal.value, FixedDecimal.value, Binary64.signed, zpow_neg, zpow_natCast]
  cases negative <;> simp [div_eq_mul_inv]

/-- A decimal of one place is written with one digit behind the point. -/
theorem hasOneDecimal_chars {d : FixedDecimal} (h : d.places = 1) :
    HasOneDecimal (String.ofList (d.chars ++ ['%'])) := by
  obtain ⟨negative, digits, places⟩ := d
  obtain rfl : places = 1 := h
  have hwhole : IsWhole (⟨digits, .negSucc 0⟩ : Decimal).pointSplit.1 :=
    Decimal.isWhole_pointSplit fun _ => Int.negSucc_le_zero 0
  have hlength : (⟨digits, .negSucc 0⟩ : Decimal).pointSplit.2.length = 1 := by
    simp only [Decimal.pointSplit, List.splitAt_eq, List.length_drop, List.length_leftpad]
    omega
  obtain ⟨last, hlast⟩ := List.length_eq_one_iff.mp hlength
  have hdigit : last.isDigit = true := by
    refine (⟨digits, .negSucc 0⟩ : Decimal).isDigit_of_mem_pointSplit (List.mem_append_right _ ?_)
    rw [hlast]
    exact List.mem_singleton_self last
  refine ⟨negative, _, last, ?_, hwhole, hdigit⟩
  have hchars : (FixedDecimal.mk negative digits 1).chars =
      signChars negative ++ (⟨digits, .negSucc 0⟩ : Decimal).text .plain := rfl
  rw [String.toList_ofList, hchars, Decimal.text_plain, hlast]
  simp

theorem spelled?_zero : spelled? "0.0%" = some 0 := by
  have hzero := spelled?_chars ⟨false, 0, 1⟩
  have hvalue : (FixedDecimal.mk false 0 1).value = 0 := by
    simp [FixedDecimal.value, Binary64.signed]
  rwa [hvalue] at hzero

end Percent

end Charting
