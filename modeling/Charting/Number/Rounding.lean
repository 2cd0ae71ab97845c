/-! # Rounding a quotient to a whole number

Every rounded number of this library comes from an exact quotient of two natural
numbers, rounded once.  Two rules occur: *half to even* (the arithmetic of
`Number.Binary64`) and *half up* (percent labels and colour channels, where the
sign is kept apart, so that "up" means away from zero).

The lemmas say that each result lies next to the quotient: at least its integer
part, at most one more.
-/
namespace Charting.Number

/-- The whole number nearest to `num / den`; a half goes to the even neighbour. -/
def roundHalfEven (num den : Nat) : Nat :=
  let whole := num / den
  let rest := num % den
  if 2 * rest < den then whole
  else if den < 2 * rest then whole + 1
  else if whole % 2 = 0 then whole else whole + 1

/-- The whole number nearest to `num / den`; a half goes to the larger neighbour. -/
def roundHalfUp (num den : Nat) : Nat := (2 * num + den) / (2 * den)

/-- Rounding yields the quotient rounded down or more. -/
theorem le_roundHalfEven (num den : Nat) : num / den ≤ roundHalfEven num den := by
  unfold roundHalfEven
  dsimp only
  split
  · exact Nat.le_refl _
  · split
    · exact Nat.le_succ _
    · split
      · exact Nat.le_refl _
      · exact Nat.le_succ _

/-- Rounding yields at most one more than the quotient rounded down. -/
theorem roundHalfEven_le (num den : Nat) : roundHalfEven num den ≤ num / den + 1 := by
  unfold roundHalfEven
  dsimp only
  split
  · exact Nat.le_succ _
  · split
    · exact Nat.le_refl _
    · split
      · exact Nat.le_succ _
      · exact Nat.le_refl _

/-- A whole quotient is its own rounding. -/
theorem roundHalfEven_mul (whole den : Nat) (h : 0 < den) :
    roundHalfEven (whole * den) den = whole := by
  simp [roundHalfEven, Nat.mul_div_cancel _ h, h]

end Charting.Number
