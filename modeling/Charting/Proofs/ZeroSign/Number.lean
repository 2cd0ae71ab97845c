import Charting.Proofs.Rounding.Constants

/-! # Numbers up to the sign of zero

The comparison of the standard takes the two zeros for equal and tells apart whatever else
differs.  `unsignZero` gives a zero the sign plus and leaves other numbers alone, so that
numbers which compare as equal become the same (`unsignZero_eq_of_beq`), and so do two NaNs, but no
others do (`sameAs_iff_unsignZero_eq`).

Arithmetic does not bring the sign of a zero back into view: the operations below give the same
result up to the sign of zero if their operands are the same up to it.  Division is the
exception, since it makes infinities of both signs from the two zeros; here the denominator is
never zero.
-/
namespace Charting.Number.Binary64

/-- The number with the sign plus if it is zero. -/
def unsignZero : Binary64 → Binary64
  | nan => nan
  | infinite negative => infinite negative
  | finite negative units h => if units = 0 then zero false else finite negative units h

/-- Only a zero is changed. -/
theorem unsignZero_eq_self_or_zero (x : Binary64) :
    x.unsignZero = x ∨ ∃ negative, x = zero negative := by
  cases x with
  | nan | infinite => exact Or.inl rfl
  | finite negative units h =>
    by_cases hz : units = 0
    · subst hz
      exact Or.inr ⟨negative, rfl⟩
    · exact Or.inl (if_neg hz)

@[simp] theorem unsignZero_zero (negative : Bool) : (zero negative).unsignZero = zero false := rfl

@[simp] theorem unsignZero_unsignZero (x : Binary64) : x.unsignZero.unsignZero = x.unsignZero := by
  rcases x.unsignZero_eq_self_or_zero with h | ⟨s, rfl⟩
  · rw [h, h]
  · rfl

theorem unsignZero_eq_self {x : Binary64} (h : x.isNegative = false) : x.unsignZero = x := by
  rcases x.unsignZero_eq_self_or_zero with hself | ⟨negative, rfl⟩
  · exact hself
  · obtain rfl : negative = false := h
    rfl

/-- Rounding keeps the sign, also of what is rounded to nothing. -/
theorem isNegative_ofRatio (negative : Bool) (num den : Nat) :
    (ofRatio negative num den).isNegative = negative := by
  unfold ofRatio
  split <;> rfl

theorem isNegative_ofNat (n : Nat) : (ofNat n).isNegative = false := isNegative_ofRatio false _ _

theorem unsignZero_literal (n : Nat) :
    (no_index (OfNat.ofNat n) : Binary64).unsignZero = OfNat.ofNat n :=
  unsignZero_eq_self (isNegative_ofNat n)

theorem isNegative_ofDecimal (negative : Bool) (digits : Nat) (exponent : Int) :
    (ofDecimal negative digits exponent).isNegative = negative :=
  isNegative_ofRatio negative _ _

/-! ## The place on the number line -/

@[simp] theorem position_unsignZero (x : Binary64) : x.unsignZero.position = x.position := by
  rcases x.unsignZero_eq_self_or_zero with h | ⟨s, rfl⟩
  · rw [h]
  · cases s <;> rfl

@[simp] theorem isFinite_unsignZero (x : Binary64) : x.unsignZero.isFinite = x.isFinite := by
  rcases x.unsignZero_eq_self_or_zero with h | ⟨s, rfl⟩
  · rw [h]
  · rfl

theorem isNaN_iff {x : Binary64} : x.isNaN = true ↔ x = nan := by
  cases x <;> simp [isNaN]

theorem position_eq_none_iff {x : Binary64} : x.position = none ↔ x = nan := by
  cases x <;> simp [position]

/-- Signed counts of units are the same if the units are, and the signs where they count. -/
theorem signed_eq_signed_iff {s t : Bool} {a b : Nat} :
    signed s a = signed t b ↔ a = b ∧ (a = 0 ∨ s = t) := by
  cases s <;> cases t <;> simp only [signed] <;> simp <;> omega

/-- The place of a number says everything about it but the sign of a zero. -/
theorem unsignZero_eq_of_position {x y : Binary64} (h : x.position = y.position) :
    x.unsignZero = y.unsignZero := by
  have hlimit := unitLimit_pos
  cases x with
  | nan =>
    cases y with
    | nan => rfl
    | infinite | finite => cases h
  | infinite s =>
    cases y with
    | nan => cases h
    | infinite t =>
      obtain ⟨-, hzero | rfl⟩ := signed_eq_signed_iff.mp (Option.some.inj h)
      · omega
      · rfl
    | finite t b hb =>
      have hb := hb.1
      obtain ⟨heq, -⟩ := signed_eq_signed_iff.mp (Option.some.inj h)
      omega
  | finite s a ha =>
    cases y with
    | nan => cases h
    | infinite t =>
      have ha := ha.1
      obtain ⟨heq, -⟩ := signed_eq_signed_iff.mp (Option.some.inj h)
      omega
    | finite t b hb =>
      obtain ⟨rfl, rfl | rfl⟩ := signed_eq_signed_iff.mp (Option.some.inj h)
      · rfl
      · rfl

theorem zero_beq_zero (s t : Bool) : (zero s == zero t) = true := by
  cases s <;> cases t <;> decide

theorem not_zero_lt_zero (s t : Bool) : ¬zero s < zero t := by
  cases s <;> cases t <;> decide

theorem unsignZero_eq_of_beq {x y : Binary64} (h : (x == y) = true) :
    x.unsignZero = y.unsignZero := by
  refine unsignZero_eq_of_position ?_
  change compareWith _ x y = true at h
  unfold compareWith at h
  split at h
  · rename_i a b hx hy
    rw [hx, hy, eq_of_beq h]
  · cases h

/-- Numbers are the same if nothing but the sign of a zero tells them apart. -/
theorem sameAs_iff_unsignZero_eq {x y : Binary64} :
    x.sameAs y = true ↔ x.unsignZero = y.unsignZero := by
  constructor
  · intro h
    unfold sameAs at h
    rcases Bool.or_eq_true_iff.mp h with h | h
    · exact unsignZero_eq_of_beq h
    · rw [Bool.and_eq_true, isNaN_iff, isNaN_iff] at h
      rw [h.1, h.2]
  · intro h
    have hposition : x.position = y.position := by
      rw [← position_unsignZero x, h, position_unsignZero]
    cases hplace : x.position with
    | none =>
      -- Only a NaN has no place.
      rw [position_eq_none_iff.mp hplace, position_eq_none_iff.mp (hposition.symm.trans hplace)]
      rfl
    | some place =>
      have hequal : (x == y) = true := by
        change compareWith _ x y = true
        rw [compareWith, ← hposition, hplace]
        exact beq_self_eq_true place
      rw [sameAs, hequal, Bool.true_or]

/-! ## Comparison -/

theorem beq_self_of_isFinite {x : Binary64} (h : x.isFinite = true) : (x == x) = true := by
  cases x with
  | nan | infinite => cases h
  | finite negative units _ => exact beq_self_eq_true (signed negative units)

@[simp] theorem compareWith_unsignZero_left (holds : Int → Int → Bool) (x y : Binary64) :
    compareWith holds x.unsignZero y = compareWith holds x y := by
  simp only [compareWith, position_unsignZero]

@[simp] theorem compareWith_unsignZero_right (holds : Int → Int → Bool) (x y : Binary64) :
    compareWith holds x y.unsignZero = compareWith holds x y := by
  simp only [compareWith, position_unsignZero]

@[simp] theorem unsignZero_lt_iff {x y : Binary64} : x.unsignZero < y ↔ x < y :=
  iff_of_eq (congrArg (· = true) (compareWith_unsignZero_left _ x y))

@[simp] theorem lt_unsignZero_iff {x y : Binary64} : x < y.unsignZero ↔ x < y :=
  iff_of_eq (congrArg (· = true) (compareWith_unsignZero_right _ x y))

@[simp] theorem unsignZero_le_iff {x y : Binary64} : x.unsignZero ≤ y ↔ x ≤ y :=
  iff_of_eq (congrArg (· = true) (compareWith_unsignZero_left _ x y))

@[simp] theorem le_unsignZero_iff {x y : Binary64} : x ≤ y.unsignZero ↔ x ≤ y :=
  iff_of_eq (congrArg (· = true) (compareWith_unsignZero_right _ x y))

/-- The other side of zero, for a number that has a place. -/
theorem position_neg_of_isNegative {x : Binary64} (h : x.isNegative = false) :
    x.position = none ∧ (-x).position = none ∨
      ∃ n : Nat, x.position = some (n : Int) ∧ (-x).position = some (-(n : Int)) := by
  cases x with
  | nan => exact .inl ⟨rfl, rfl⟩
  | infinite s =>
    obtain rfl : s = false := h
    exact .inr ⟨unitLimit, rfl, rfl⟩
  | finite s units hunits =>
    obtain rfl : s = false := h
    exact .inr ⟨units, rfl, rfl⟩

/-- Bounds on both sides of zero leave a zero as it is. -/
theorem clamp_zero {x : Binary64} (h : x.isNegative = false) (negative : Bool) :
    (zero negative).clamp (-x) x = zero negative := by
  have hplaces := position_neg_of_isNegative h
  have hlow : ¬zero negative < -x := by
    change compareWith (fun a b => decide (a < b)) (zero negative) (-x) ≠ true
    rcases hplaces with ⟨-, hneg⟩ | ⟨n, -, hneg⟩
    · simp [compareWith, position_zero, hneg]
    · simp [compareWith, position_zero, hneg]
  have hhigh : ¬x < zero negative := by
    change compareWith (fun a b => decide (a < b)) x (zero negative) ≠ true
    rcases hplaces with ⟨hx, -⟩ | ⟨n, hx, -⟩
    · simp [compareWith, position_zero, hx]
    · simp [compareWith, position_zero, hx]
  rw [clamp, if_neg hlow, if_neg hhigh]

/-- Bounds do not see the sign of a zero between them. -/
@[simp] theorem unsignZero_clamp (x low high : Binary64) :
    (x.unsignZero.clamp low high).unsignZero = (x.clamp low high).unsignZero := by
  simp only [clamp, unsignZero_lt_iff, lt_unsignZero_iff]
  split
  · rfl
  · split
    · rfl
    · exact x.unsignZero_unsignZero

@[simp] theorem unsignZero_min (x y : Binary64) :
    (x.unsignZero.min y).unsignZero = (x.min y).unsignZero := by
  have hnan : x.unsignZero.isNaN = x.isNaN := by
    rcases x.unsignZero_eq_self_or_zero with h | ⟨s, rfl⟩
    · rw [h]
    · rfl
  simp only [min, hnan, lt_unsignZero_iff]
  split
  · rfl
  · split
    · rfl
    · exact x.unsignZero_unsignZero

/-! ## Arithmetic -/

/-- Nothing rounds to nothing. -/
theorem roundUnits_zero (den : Nat) : roundUnits 0 den = 0 := by
  simp [roundUnits, roundHalfEven]

@[simp] theorem ofRatio_zero (negative : Bool) (den : Nat) :
    ofRatio negative 0 den = zero negative := by
  simp [ofRatio, roundUnits_zero, unitLimit_pos, zero]

theorem unsignZero_ofUnits (zeroNegative : Bool) (units : Int) :
    (ofUnits zeroNegative units).unsignZero = (ofUnits false units).unsignZero := by
  unfold ofUnits
  split
  · rfl
  · rfl

theorem add_comm (x y : Binary64) : x + y = y + x := by
  change add x y = add y x
  cases x with
  | nan => cases y <;> rfl
  | infinite s =>
    cases y with
    | nan | finite => rfl
    | infinite t => cases s <;> cases t <;> rfl
  | finite s a ha =>
    cases y with
    | nan | infinite => rfl
    | finite t b hb => simp only [add, Int.add_comm, Bool.and_comm]

theorem unsignZero_zero_add (negative : Bool) (y : Binary64) :
    (zero negative + y).unsignZero = (zero false + y).unsignZero := by
  change (add (zero negative) y).unsignZero = (add (zero false) y).unsignZero
  cases y with
  | nan | infinite => rfl
  | finite t b hb =>
    simp only [zero, add]
    rw [unsignZero_ofUnits (negative && t), unsignZero_ofUnits (false && t)]
    cases negative <;> rfl

@[simp] theorem unsignZero_add_left (x y : Binary64) :
    (x.unsignZero + y).unsignZero = (x + y).unsignZero := by
  rcases x.unsignZero_eq_self_or_zero with h | ⟨s, rfl⟩
  · rw [h]
  · exact (unsignZero_zero_add s y).symm

@[simp] theorem unsignZero_add_right (x y : Binary64) :
    (x + y.unsignZero).unsignZero = (x + y).unsignZero := by
  rw [add_comm, unsignZero_add_left, add_comm]

@[simp] theorem unsignZero_neg (x : Binary64) :
    x.unsignZero.neg.unsignZero = x.neg.unsignZero := by
  rcases x.unsignZero_eq_self_or_zero with h | ⟨s, rfl⟩
  · rw [h]
  · rfl

@[simp] theorem unsignZero_sub (x y : Binary64) :
    (x.unsignZero - y.unsignZero).unsignZero = (x - y).unsignZero := by
  change (x.unsignZero + y.unsignZero.neg).unsignZero = (x + y.neg).unsignZero
  rw [unsignZero_add_left, ← unsignZero_add_right, unsignZero_neg, unsignZero_add_right]

/-- The sign of a zero numerator is all that changes; a denominator of zero would turn it into the
sign of an infinity. -/
theorem unsignZero_div {x y : Binary64} (hy : 0 < y) :
    (x.unsignZero / y.unsignZero).unsignZero = (x / y).unsignZero := by
  -- A zero of either sign is not above zero.
  have hne : y.unsignZero = y := by
    rcases y.unsignZero_eq_self_or_zero with h | ⟨s, rfl⟩
    · exact h
    · rw [ofNat_zero] at hy
      exact absurd hy (not_zero_lt_zero false s)
  rw [hne]
  rcases x.unsignZero_eq_self_or_zero with h | ⟨s, rfl⟩
  · rw [h]
  · change (div (zero false) y).unsignZero = (div (zero s) y).unsignZero
    cases y with
    | nan | infinite => rfl
    | finite t b hb =>
      simp only [zero, div]
      split
      · rfl
      · simp

end Charting.Number.Binary64
