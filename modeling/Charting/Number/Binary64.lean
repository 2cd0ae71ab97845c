import Charting.Number.Rounding

/-! # Numbers in the IEEE 754 binary64 format

A finite binary64 number is a whole multiple of `2 ^ -1074`, the smallest
subnormal.  So a finite number is kept as a sign and a natural number of such
*units*; the units that occur are those with at most 53 significant bits below
`2 ^ 2098` (`IsRepresentable`).  Comparison is comparison of integers, and every
operation computes its exact result as a quotient of naturals and rounds it once,
to nearest with ties to even (`ofRatio`), as the standard asks.

Two equalities live side by side.  `=` tells every two values apart, so `-0.0` and
`0.0` differ and a NaN equals itself; it is decidable.  `==` is the comparison of
the standard: both zeros are equal, and a NaN differs from everything.
-/
namespace Charting.Number

-- Powers of naturals are the built-in ones, also beside other instances of powers.
attribute [local instance (1100)] instPowNat

/-- Significant bits beyond the leading one. -/
def fractionBits : Nat := 52

/-- The negated binary exponent of one unit. -/
def unitExponent : Nat := 1074

/-- Units in the number one. -/
def oneUnits : Nat := 2 ^ unitExponent

/-- The binary exponent, in units, at which the finite values end. -/
def limitExponent : Nat := 2098

/-- The first number of units that is too large for a finite value. -/
def unitLimit : Nat := 2 ^ limitExponent

/-- Binary places that a magnitude of about `units` has to give up to keep 53 significant bits. -/
def droppedBits (units : Nat) : Nat := units.log2 - fractionBits

/-- Below the limit, and zero in every binary place that is given up. -/
def IsRepresentable (units : Nat) : Prop :=
  units < unitLimit ∧ 2 ^ droppedBits units ∣ units

instance (units : Nat) : Decidable (IsRepresentable units) :=
  inferInstanceAs (Decidable (_ ∧ _))

/-- A number in the binary64 format. -/
inductive Binary64 where
  | nan
  | infinite (negative : Bool)
  | finite (negative : Bool) (units : Nat) (representable : IsRepresentable units)
  deriving DecidableEq

/-- The units in `digits * 10 ^ exponent`, as an exact quotient. -/
def decimalRatio (digits : Nat) : (exponent : Int) → Nat × Nat
  | .ofNat zeros => (digits * 10 ^ zeros * oneUnits, 1)
  | .negSucc places => (digits * oneUnits, 10 ^ (places + 1))

/-- Behind the point the denominator is a power of ten. -/
theorem decimalRatio_neg (digits : Nat) {places : Nat} (h : 0 < places) :
    decimalRatio digits (-(places : Int)) = (digits * oneUnits, 10 ^ places) := by
  cases places with
  | zero => exact absurd h (Nat.lt_irrefl 0)
  | succ n => rfl

/-- The units of `num / den` units, rounded to 53 significant bits and to whole units. -/
def roundUnits (num den : Nat) : Nat :=
  let dropped := droppedBits (num / den)
  roundHalfEven num (den * 2 ^ dropped) * 2 ^ dropped

/-- A significand of 53 bits, or the next power of two, is zero in every place given up. -/
theorem two_pow_droppedBits_dvd {significand dropped : Nat} (h : significand ≤ 2 ^ (53 : Nat)) :
    2 ^ droppedBits (significand * 2 ^ dropped) ∣ significand * 2 ^ dropped := by
  unfold droppedBits fractionBits
  rcases Nat.eq_or_lt_of_le h with rfl | h
  · rw [← Nat.pow_add, Nat.log2_two_pow]
    exact Nat.pow_dvd_pow 2 (by omega)
  · by_cases hz : significand * 2 ^ dropped = 0
    · simp [hz]
    · refine Nat.dvd_trans (Nat.pow_dvd_pow 2 ?_) (Nat.dvd_mul_left _ _)
      have hlt : significand * 2 ^ dropped < 2 ^ (53 + dropped) := by
        rw [Nat.pow_add]
        exact Nat.mul_lt_mul_of_pos_right h (Nat.two_pow_pos _)
      have := (Nat.log2_lt hz).2 hlt
      omega

/-- Rounding yields a significand of 53 bits or the next power of two. -/
theorem roundHalfEven_le_two_pow (num den : Nat) :
    roundHalfEven num (den * 2 ^ droppedBits (num / den)) ≤ 2 ^ (53 : Nat) := by
  refine Nat.le_trans (roundHalfEven_le _ _) ?_
  rw [← Nat.div_div_eq_div_mul]
  refine Nat.succ_le_of_lt ((Nat.div_lt_iff_lt_mul (Nat.two_pow_pos _)).2 ?_)
  rw [← Nat.pow_add]
  refine Nat.lt_of_lt_of_le Nat.lt_log2_self (Nat.pow_le_pow_right (by decide) ?_)
  unfold droppedBits fractionBits
  omega

/-- What rounding yields fits the format unless it reaches the limit. -/
theorem isRepresentable_roundUnits {num den : Nat} (h : roundUnits num den < unitLimit) :
    IsRepresentable (roundUnits num den) :=
  ⟨h, two_pow_droppedBits_dvd (roundHalfEven_le_two_pow num den)⟩

/-- A representable quotient is its own rounding. -/
theorem roundUnits_mul {units den : Nat} (h : IsRepresentable units) (hd : 0 < den) :
    roundUnits (units * den) den = units := by
  obtain ⟨significand, hs⟩ := h.2
  unfold roundUnits
  dsimp only
  rw [Nat.mul_div_cancel _ hd]
  generalize droppedBits units = dropped at hs ⊢
  have hpos : 0 < den * 2 ^ dropped := Nat.mul_pos hd (Nat.two_pow_pos _)
  have hwhole : units * den = significand * (den * 2 ^ dropped) := by
    rw [hs]
    ac_rfl
  rw [hwhole, roundHalfEven_mul _ _ hpos, hs, Nat.mul_comm]

/-- The limit lies above zero. -/
theorem unitLimit_pos : 0 < unitLimit := Nat.two_pow_pos limitExponent

/-- Zero fits the format. -/
theorem isRepresentable_zero : IsRepresentable 0 := ⟨unitLimit_pos, Nat.dvd_zero _⟩

namespace Binary64

/-- The number nearest to `num / den` units with the given sign: ties go to the
even significand, and what rounds to the limit or beyond is infinite. -/
def ofRatio (negative : Bool) (num den : Nat) : Binary64 :=
  if h : roundUnits num den < unitLimit then
    .finite negative (roundUnits num den) (isRepresentable_roundUnits h)
  else .infinite negative

/-- The zero of a sign. -/
def zero (negative : Bool) : Binary64 := .finite negative 0 isRepresentable_zero

/-- The number nearest to a whole number. -/
def ofNat (n : Nat) : Binary64 := ofRatio false (n * oneUnits) 1

/-- The number nearest to `digits * 10 ^ exponent` with the given sign. -/
def ofDecimal (negative : Bool) (digits : Nat) (exponent : Int) : Binary64 :=
  ofRatio negative (decimalRatio digits exponent).1 (decimalRatio digits exponent).2

instance (n : Nat) : OfNat Binary64 n := ⟨ofNat n⟩

instance : OfScientific Binary64 where
  ofScientific digits small places :=
    ofDecimal false digits (if small then -(places : Int) else places)

instance : Inhabited Binary64 := ⟨0⟩

/-! ## Sign and position -/

/-- The sign bit; a NaN has none. -/
def isNegative : Binary64 → Bool
  | nan => false
  | infinite negative => negative
  | finite negative _ _ => negative

/-- Neither infinite nor a NaN. -/
def isFinite : Binary64 → Bool
  | finite .. => true
  | _ => false

/-- Not a number at all. -/
def isNaN : Binary64 → Bool
  | nan => true
  | _ => false

/-- A signed count of units. -/
def signed (negative : Bool) (units : Nat) : Int := if negative then -units else units

/-- The place on the number line, in units.  An infinity stands at the limit,
beyond every finite number, and a NaN has no place. -/
def position : Binary64 → Option Int
  | nan => none
  | infinite negative => some (signed negative unitLimit)
  | finite negative units _ => some (signed negative units)

/-! ## Comparison

Each comparison holds only between two placed numbers. -/

/-- The comparison of two places, false when one of them is missing. -/
def compareWith (holds : Int → Int → Bool) (x y : Binary64) : Bool :=
  match x.position, y.position with
  | some a, some b => holds a b
  | _, _ => false

instance : BEq Binary64 := ⟨compareWith (fun a b => a == b)⟩

instance : LT Binary64 := ⟨fun x y => compareWith (fun a b => a < b) x y = true⟩

instance : LE Binary64 := ⟨fun x y => compareWith (fun a b => a ≤ b) x y = true⟩

instance (x y : Binary64) : Decidable (x < y) :=
  inferInstanceAs (Decidable (compareWith _ x y = true))

instance (x y : Binary64) : Decidable (x ≤ y) :=
  inferInstanceAs (Decidable (compareWith _ x y = true))

/-- Equal as numbers, or both a NaN. -/
def sameAs (x y : Binary64) : Bool := x == y || (x.isNaN && y.isNaN)

/-- The larger number; a NaN gives way to the other operand. -/
def max (x y : Binary64) : Binary64 :=
  if x.isNaN then y else if x < y then y else x

/-- The smaller number; a NaN gives way to the other operand. -/
def min (x y : Binary64) : Binary64 :=
  if x.isNaN then y else if y < x then y else x

/-- The nearest number of the range from `low` to `high`; a NaN stays a NaN. -/
def clamp (x low high : Binary64) : Binary64 :=
  if x < low then low else if high < x then high else x

/-! ## Arithmetic -/

/-- The same magnitude with the other sign. -/
def neg : Binary64 → Binary64
  | nan => nan
  | infinite negative => infinite (!negative)
  | finite negative units h => finite (!negative) units h

/-- The number nearest to a signed count of units; an exact zero takes the given sign. -/
def ofUnits (zeroNegative : Bool) (units : Int) : Binary64 :=
  if units = 0 then zero zeroNegative else ofRatio (decide (units < 0)) units.natAbs 1

/-- An exact sum of zero is negative only when both operands are. -/
def add : Binary64 → Binary64 → Binary64
  | nan, _ => nan
  | _, nan => nan
  | infinite s, infinite t => if s = t then infinite s else nan
  | infinite s, finite .. => infinite s
  | finite .., infinite t => infinite t
  | finite s a _, finite t b _ => ofUnits (s && t) (signed s a + signed t b)

/-- The sum with the negated second number. -/
def sub (x y : Binary64) : Binary64 := add x y.neg

/-- Zero times infinity has no value. -/
def mul : Binary64 → Binary64 → Binary64
  | nan, _ => nan
  | _, nan => nan
  | infinite s, infinite t => infinite (s != t)
  | infinite s, finite t b _ => if b = 0 then nan else infinite (s != t)
  | finite s a _, infinite t => if a = 0 then nan else infinite (s != t)
  | finite s a _, finite t b _ => ofRatio (s != t) (a * b) oneUnits

/-- A finite number over zero is infinite, except zero over zero. -/
def div : Binary64 → Binary64 → Binary64
  | nan, _ => nan
  | _, nan => nan
  | infinite _, infinite _ => nan
  | infinite s, finite t _ _ => infinite (s != t)
  | finite s _ _, infinite t => zero (s != t)
  | finite s a _, finite t b _ =>
    if b = 0 then (if a = 0 then nan else infinite (s != t))
    else ofRatio (s != t) (a * oneUnits) b

instance : Neg Binary64 := ⟨neg⟩
instance : Add Binary64 := ⟨add⟩
instance : Sub Binary64 := ⟨sub⟩
instance : Mul Binary64 := ⟨mul⟩
instance : Div Binary64 := ⟨div⟩

/-- The nearest natural number, a half rounded up; zero for what is negative or not finite. -/
def nearestNat : Binary64 → Nat
  | finite false units _ => roundHalfUp units oneUnits
  | _ => 0

/-! ## Checks of the rules above -/

example : (0.1 + 0.2 : Binary64) = 0.30000000000000004 := by decide +kernel
example : (-0 : Binary64) ≠ 0 ∧ ((-0 : Binary64) == 0) = true := by decide +kernel
example : (nan == nan) = false ∧ nan.sameAs nan = true := by decide
example : (1 / 0 : Binary64) = infinite false ∧ (0 / 0 : Binary64) = nan := by decide +kernel
example : ofDecimal false 1 309 = infinite false ∧ ofDecimal false 1 (-400) = 0 := by
  decide +kernel

end Binary64
end Charting.Number
