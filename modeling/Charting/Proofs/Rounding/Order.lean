import Charting.Proofs.RoundTrip.Decimal

/-! # Rounding keeps the order

Of two exact results the larger one is never rounded to less.  For quotients this is
`roundUnits_mono`.  Numbers are compared by their place on the number line, on which an infinity
stands at the limit of the format, so that a result that is rounded beyond the format keeps its
place in the order too (`Binary64.position_ofRatio`).

What follows are the laws of order for the operations: differences from one number, quotients by one
positive number and bounds grow with their operand.  A NaN has no place, and the only way in which
it comes about here is an infinity over an infinity.
-/
namespace Charting.Number

-- Powers of naturals are the built-in ones, also beside other instances of powers.
attribute [local instance (1100)] instPowNat

/-! ## Quotients -/

section Quotients

variable {a b den : Nat}

theorem roundHalfEven_le_roundHalfEven (h : a ≤ b) :
    roundHalfEven a den ≤ roundHalfEven b den := by
  have hdiv : a / den ≤ b / den := Nat.div_le_div_right h
  by_cases heq : a / den = b / den
  · -- Between the same two whole numbers, the one with the larger rest is rounded up first.
    have hrest : a % den ≤ b % den := by
      have ha := Nat.div_add_mod a den
      have hb := Nat.div_add_mod b den
      rw [heq] at ha
      omega
    unfold roundHalfEven
    dsimp only
    rw [heq]
    repeat' split
    all_goals omega
  · have ha := roundHalfEven_le a den
    have hb := le_roundHalfEven b den
    omega

theorem droppedBits_le_droppedBits (h : a ≤ b) : droppedBits a ≤ droppedBits b := by
  refine Nat.sub_le_sub_right ?_ _
  by_cases ha : a = 0
  · subst ha
    exact Nat.zero_le _
  · exact (Nat.le_log2 (by omega)).mpr (Nat.le_trans (Nat.log2_self_le ha) h)

/-- Where places are given up, 53 significant bits remain. -/
theorem two_pow_le_roundHalfEven (h : 0 < droppedBits (a / den)) :
    2 ^ fractionBits ≤ roundHalfEven a (den * 2 ^ droppedBits (a / den)) := by
  refine Nat.le_trans ?_ (le_roundHalfEven _ _)
  have hne : a / den ≠ 0 := by
    intro hzero
    simp [hzero, droppedBits] at h
  have hlog : fractionBits + droppedBits (a / den) = (a / den).log2 := by
    unfold droppedBits at h ⊢
    omega
  rw [← Nat.div_div_eq_div_mul, Nat.le_div_iff_mul_le (Nat.two_pow_pos _), ← Nat.pow_add, hlog]
  exact Nat.log2_self_le hne

theorem roundUnits_le_roundUnits (h : a ≤ b) : roundUnits a den ≤ roundUnits b den := by
  have hdropped : droppedBits (a / den) ≤ droppedBits (b / den) :=
    droppedBits_le_droppedBits (Nat.div_le_div_right h)
  unfold roundUnits
  dsimp only
  rcases Nat.eq_or_lt_of_le hdropped with heq | hlt
  · rw [heq]
    exact Nat.mul_le_mul_right _ (roundHalfEven_le_roundHalfEven h)
  · -- The larger one gives up more places, and its significand alone makes up for that.
    calc
      roundHalfEven a (den * 2 ^ droppedBits (a / den)) * 2 ^ droppedBits (a / den)
          ≤ 2 ^ 53 * 2 ^ droppedBits (a / den) :=
            Nat.mul_le_mul_right _ (roundHalfEven_le_two_pow a den)
      _ = 2 ^ fractionBits * 2 ^ (droppedBits (a / den) + 1) := by
        rw [← Nat.pow_add, ← Nat.pow_add, fractionBits, Nat.add_comm _ 1, ← Nat.add_assoc]
      _ ≤ 2 ^ fractionBits * 2 ^ droppedBits (b / den) :=
        Nat.mul_le_mul_left _ (Nat.pow_le_pow_right (by decide) hlt)
      _ ≤ roundHalfEven b (den * 2 ^ droppedBits (b / den)) * 2 ^ droppedBits (b / den) :=
        Nat.mul_le_mul_right _ (two_pow_le_roundHalfEven (by omega))

/-- **Rounding keeps the order of quotients.** -/
theorem roundUnits_mono {den' : Nat} (hden : 0 < den) (hden' : 0 < den')
    (h : a * den' ≤ b * den) : roundUnits a den ≤ roundUnits b den' := by
  rw [← roundUnits_mul_mul a den hden', ← roundUnits_mul_mul b den' hden, Nat.mul_comm den' den]
  exact roundUnits_le_roundUnits h

/-- A quotient that is not above a number of the format is not rounded above it. -/
theorem roundUnits_le_of_le {units : Nat} (h : IsRepresentable units) (hden : 0 < den)
    (hle : a ≤ units * den) : roundUnits a den ≤ units := by
  have hround := @roundUnits_le_roundUnits _ _ den hle
  rwa [roundUnits_mul h hden] at hround

/-- Nor is one that is not below a number of the format rounded below it. -/
theorem le_roundUnits_of_le {units : Nat} (h : IsRepresentable units) (hden : 0 < den)
    (hle : units * den ≤ a) : units ≤ roundUnits a den := by
  have hround := @roundUnits_le_roundUnits _ _ den hle
  rwa [roundUnits_mul h hden] at hround

end Quotients

/-- The units of a rounded quotient, or the limit for what is rounded beyond the format. -/
def boundedUnits (num den : Nat) : Nat := min (roundUnits num den) unitLimit

@[simp] theorem boundedUnits_zero (den : Nat) : boundedUnits 0 den = 0 := by
  simp [boundedUnits, Binary64.roundUnits_zero]

theorem boundedUnits_le_boundedUnits {a b : Nat} (den : Nat) (h : a ≤ b) :
    boundedUnits a den ≤ boundedUnits b den := by
  have hround : roundUnits a den ≤ roundUnits b den := roundUnits_le_roundUnits h
  unfold boundedUnits
  omega

namespace Binary64

/-! ## Comparison of places -/

section Comparison

variable {x y z : Binary64}

theorem compareWith_eq_true_iff {holds : Int → Int → Bool} :
    compareWith holds x y = true ↔
      ∃ a b, x.position = some a ∧ y.position = some b ∧ holds a b = true := by
  unfold compareWith
  cases x.position <;> cases y.position <;> simp

theorem le_iff : x ≤ y ↔ ∃ a b, x.position = some a ∧ y.position = some b ∧ a ≤ b :=
  Iff.trans compareWith_eq_true_iff (by simp only [decide_eq_true_eq])

theorem lt_iff : x < y ↔ ∃ a b, x.position = some a ∧ y.position = some b ∧ a < b :=
  Iff.trans compareWith_eq_true_iff (by simp only [decide_eq_true_eq])

theorem beq_iff : (x == y) = true ↔ ∃ a, x.position = some a ∧ y.position = some a := by
  refine Iff.trans compareWith_eq_true_iff ⟨?_, ?_⟩
  · rintro ⟨a, b, hx, hy, hab⟩
    exact ⟨a, hx, (beq_iff_eq.mp hab) ▸ hy⟩
  · rintro ⟨a, hx, hy⟩
    exact ⟨a, a, hx, hy, beq_self_eq_true a⟩

theorem le_iff_of_position {a b : Int} (hx : x.position = some a) (hy : y.position = some b) :
    x ≤ y ↔ a ≤ b := by
  simp [le_iff, hx, hy]

theorem lt_iff_of_position {a b : Int} (hx : x.position = some a) (hy : y.position = some b) :
    x < y ↔ a < b := by
  simp [lt_iff, hx, hy]

/-- Only a NaN has no place. -/
theorem exists_position (hx : x.isNaN = false) : ∃ a, x.position = some a := by
  cases x with
  | nan => cases hx
  | infinite | finite => exact ⟨_, rfl⟩

theorem le_refl (hx : x.isNaN = false) : x ≤ x := by
  obtain ⟨a, ha⟩ := exists_position hx
  exact le_iff.mpr ⟨a, a, ha, ha, Int.le_refl a⟩

theorem le_trans (hxy : x ≤ y) (hyz : y ≤ z) : x ≤ z := by
  obtain ⟨a, b, hx, hy, hab⟩ := le_iff.mp hxy
  obtain ⟨b', c, hy', hz, hbc⟩ := le_iff.mp hyz
  obtain rfl := Option.some.inj (hy.symm.trans hy')
  exact le_iff.mpr ⟨a, c, hx, hz, Int.le_trans hab hbc⟩

theorem le_of_lt (h : x < y) : x ≤ y := by
  obtain ⟨a, b, hx, hy, hab⟩ := lt_iff.mp h
  exact le_iff.mpr ⟨a, b, hx, hy, Int.le_of_lt hab⟩

theorem lt_of_lt_of_le (hxy : x < y) (hyz : y ≤ z) : x < z := by
  obtain ⟨a, b, hx, hy, hab⟩ := lt_iff.mp hxy
  obtain ⟨b', c, hy', hz, hbc⟩ := le_iff.mp hyz
  obtain rfl := Option.some.inj (hy.symm.trans hy')
  exact lt_iff.mpr ⟨a, c, hx, hz, Int.lt_of_lt_of_le hab hbc⟩

/-- Without a NaN one of two numbers is not above the other one. -/
theorem le_of_not_lt (hx : x.isNaN = false) (hy : y.isNaN = false) (h : ¬x < y) : y ≤ x := by
  obtain ⟨a, ha⟩ := exists_position hx
  obtain ⟨b, hb⟩ := exists_position hy
  rw [lt_iff_of_position ha hb] at h
  rw [le_iff_of_position hb ha]
  omega

theorem le_of_not_le (hx : x.isNaN = false) (hy : y.isNaN = false) (h : ¬x ≤ y) : y ≤ x :=
  le_of_not_lt hx hy fun hlt => h (le_of_lt hlt)

theorem not_le_iff (hx : x.isNaN = false) (hy : y.isNaN = false) : ¬x ≤ y ↔ y < x := by
  obtain ⟨a, ha⟩ := exists_position hx
  obtain ⟨b, hb⟩ := exists_position hy
  rw [le_iff_of_position ha hb, lt_iff_of_position hb ha]
  omega

/-- Two numbers in both orders are equal up to the sign of zero. -/
theorem beq_of_le_of_le (hxy : x ≤ y) (hyx : y ≤ x) : (x == y) = true := by
  obtain ⟨a, b, hx, hy, hab⟩ := le_iff.mp hxy
  obtain ⟨b', a', hy', hx', hba⟩ := le_iff.mp hyx
  obtain rfl := Option.some.inj (hx.symm.trans hx')
  obtain rfl := Option.some.inj (hy.symm.trans hy')
  obtain rfl := Int.le_antisymm hab hba
  exact beq_iff.mpr ⟨a, hx, hy⟩

theorem isNaN_eq_false_of_le (h : x ≤ y) : x.isNaN = false ∧ y.isNaN = false := by
  obtain ⟨a, b, hx, hy, -⟩ := le_iff.mp h
  constructor
  · cases x <;> first | rfl | cases hx
  · cases y <;> first | rfl | cases hy

theorem isNaN_eq_false_of_isFinite (h : x.isFinite = true) : x.isNaN = false := by
  cases x with
  | nan | infinite => cases h
  | finite => rfl

theorem natAbs_signed (negative : Bool) (units : Nat) : (signed negative units).natAbs = units := by
  cases negative <;> simp [signed]

/-- A finite number stands strictly within the limit. -/
theorem isFinite_iff : x.isFinite = true ↔ ∃ a, x.position = some a ∧ a.natAbs < unitLimit := by
  cases x with
  | nan => simp [isFinite, position]
  | infinite negative =>
    refine iff_of_false Bool.false_ne_true ?_
    rintro ⟨a, ha, hlt⟩
    obtain rfl := Option.some.inj ha
    rw [natAbs_signed] at hlt
    exact absurd hlt (Nat.lt_irrefl _)
  | finite negative units h =>
    refine iff_of_true rfl ⟨signed negative units, rfl, ?_⟩
    rw [natAbs_signed]
    exact h.1

/-- Between two finite numbers there are only finite ones. -/
theorem isFinite_of_le_of_le (hx : x.isFinite = true) (hz : z.isFinite = true) (hxy : x ≤ y)
    (hyz : y ≤ z) : y.isFinite = true := by
  obtain ⟨a, b, hpx, hpy, hab⟩ := le_iff.mp hxy
  obtain ⟨b', c, hpy', hpz, hbc⟩ := le_iff.mp hyz
  obtain rfl := Option.some.inj (hpy.symm.trans hpy')
  obtain ⟨a', hpx', ha⟩ := isFinite_iff.mp hx
  obtain ⟨c', hpz', hc⟩ := isFinite_iff.mp hz
  obtain rfl := Option.some.inj (hpx.symm.trans hpx')
  obtain rfl := Option.some.inj (hpz.symm.trans hpz')
  exact isFinite_iff.mpr ⟨b, hpy, by omega⟩

end Comparison

/-! ## Places of results -/

/-- The place of a rounded quotient. -/
def rounded (num : Int) (den : Nat) : Int := signed (decide (num < 0)) (boundedUnits num.natAbs den)

theorem signed_neg (negative : Bool) (units : Nat) :
    signed (!negative) units = -signed negative units := by
  cases negative <;> simp [signed]

@[simp] theorem rounded_zero (den : Nat) : rounded 0 den = 0 := by simp [rounded, signed]

theorem rounded_mono {num num' : Int} (den : Nat) (h : num ≤ num') :
    rounded num den ≤ rounded num' den := by
  unfold rounded signed
  by_cases hnum' : num' < 0
  · have habs := boundedUnits_le_boundedUnits den (show num'.natAbs ≤ num.natAbs by omega)
    have hnum : num < 0 := by omega
    simp only [hnum, hnum', decide_true, if_true]
    omega
  · by_cases hnum : num < 0
    · simp only [hnum, hnum', decide_true, decide_false, if_true, Bool.false_eq_true, if_false]
      omega
    · have habs := boundedUnits_le_boundedUnits den (show num.natAbs ≤ num'.natAbs by omega)
      simp only [hnum, hnum', decide_false, Bool.false_eq_true, if_false]
      omega

/-- A sign that a quotient of zero may have does not show in its place. -/
theorem signed_boundedUnits (negative : Bool) (units factor den : Nat) :
    signed negative (boundedUnits (units * factor) den) =
      rounded (signed negative units * factor) den := by
  have habs : (signed negative units * factor : Int).natAbs = units * factor := by
    rw [Int.natAbs_mul, natAbs_signed, Int.natAbs_natCast]
  rw [rounded, habs]
  cases negative with
  | false =>
    have hnonneg : ¬(signed false units * factor : Int) < 0 := by
      simp only [signed, Bool.false_eq_true, if_false]
      omega
    rw [decide_eq_false hnonneg]
  | true =>
    by_cases hzero : units * factor = 0
    · simp [hzero, signed]
    · have hpos : (0 : Int) < (units * factor : Nat) := by omega
      have hneg : (signed true units * factor : Int) < 0 := by
        rw [Int.natCast_mul] at hpos
        rw [signed, if_pos rfl, Int.neg_mul]
        omega
      rw [decide_eq_true hneg]

theorem position_ofRatio (negative : Bool) (num den : Nat) :
    (ofRatio negative num den).position = some (signed negative (boundedUnits num den)) := by
  unfold ofRatio boundedUnits
  split
  · rename_i h
    rw [position, Nat.min_eq_left (Nat.le_of_lt h)]
  · rename_i h
    rw [position, Nat.min_eq_right (Nat.not_lt.mp h)]

theorem position_ofUnits (zeroNegative : Bool) (units : Int) :
    (ofUnits zeroNegative units).position = some (rounded units 1) := by
  unfold ofUnits
  split
  · rename_i h
    rw [h, rounded_zero, position_zero]
  · exact position_ofRatio _ _ _

theorem position_sub {x y : Binary64} {a b : Int} (hx : x.isFinite = true) (hy : y.isFinite = true)
    (ha : x.position = some a) (hb : y.position = some b) :
    (x - y).position = some (rounded (a - b) 1) := by
  cases x with
  | nan | infinite => cases hx
  | finite s m hm =>
    cases y with
    | nan | infinite => cases hy
    | finite t n hn =>
      obtain rfl := Option.some.inj ha
      obtain rfl := Option.some.inj hb
      change (ofUnits (s && !t) (signed s m + signed (!t) n)).position = _
      rw [position_ofUnits, signed_neg, Int.sub_eq_add_neg]

/-! ## Places of whole numbers -/

theorem position_ofNat (n : Nat) :
    (ofNat n).position = some (boundedUnits (n * oneUnits) 1 : Int) := by
  rw [ofNat, position_ofRatio, signed, if_neg Bool.false_ne_true]

theorem position_ofNat_zero : (0 : Binary64).position = some 0 := by
  rw [ofNat_zero, position_zero]

/-- Both zeros stand at the same place. -/
theorem le_zero (negative : Bool) : 0 ≤ zero negative :=
  (le_iff_of_position position_ofNat_zero (position_zero negative)).mpr (Int.le_refl 0)

theorem zero_le (negative : Bool) : zero negative ≤ 0 :=
  (le_iff_of_position (position_zero negative) position_ofNat_zero).mpr (Int.le_refl 0)

/-- Whole numbers are rounded in order, and none above zero is rounded to nothing. -/
theorem ofNat_le_ofNat {m n : Nat} (h : m ≤ n) : ofNat m ≤ ofNat n := by
  rw [le_iff_of_position (position_ofNat m) (position_ofNat n), Int.ofNat_le]
  exact boundedUnits_le_boundedUnits 1 (Nat.mul_le_mul_right _ h)

theorem zero_le_ofNat (n : Nat) : 0 ≤ ofNat n :=
  (le_iff_of_position position_ofNat_zero (position_ofNat n)).mpr (Int.natCast_nonneg _)

theorem zero_le_literal (n : Nat) : (0 : Binary64) ≤ no_index (OfNat.ofNat n) := zero_le_ofNat n

theorem zero_le_one : (0 : Binary64) ≤ 1 := zero_le_ofNat 1

theorem ofNat_pos {n : Nat} (h : 0 < n) : 0 < ofNat n := by
  have hone := zero_lt_oneUnits
  have hlimit := unitLimit_pos
  have hround : oneUnits ≤ roundUnits (n * oneUnits) 1 := by
    refine le_roundUnits_of_le isRepresentable_oneUnits Nat.one_pos ?_
    rw [Nat.mul_one]
    exact Nat.le_mul_of_pos_left _ h
  rw [lt_iff_of_position position_ofNat_zero (position_ofNat n), boundedUnits]
  omega

theorem beq_zero_of_pos {x : Binary64} (h : 0 < x) : (x == 0) = false := by
  obtain ⟨a, b, ha, hb, hab⟩ := lt_iff.mp h
  refine Bool.eq_false_iff.mpr fun heq => ?_
  obtain ⟨c, hx, hzero⟩ := beq_iff.mp heq
  have hac := Option.some.inj (ha.symm.trans hzero)
  have hbc := Option.some.inj (hb.symm.trans hx)
  omega

theorem literal_beq_zero {n : Nat} (h : 0 < n) :
    ((no_index (OfNat.ofNat n) : Binary64) == 0) = false := beq_zero_of_pos (ofNat_pos h)

/-! ## Places of quotients -/

/-- A positive finite number is some units with the sign plus. -/
theorem exists_units_of_pos {x : Binary64} (hfinite : x.isFinite = true) (hpos : 0 < x) :
    ∃ units h, x = finite false units h ∧ 0 < units := by
  obtain ⟨a, b, ha, hb, hab⟩ := lt_iff.mp hpos
  rw [position_ofNat_zero] at ha
  obtain rfl := Option.some.inj ha
  cases x with
  | nan | infinite => cases hfinite
  | finite negative units h =>
    obtain rfl := Option.some.inj hb
    cases negative with
    | false => exact ⟨units, h, rfl, by simpa [signed] using hab⟩
    | true =>
      simp only [signed, if_true] at hab
      omega

/-- At each place above zero there is only one number. -/
theorem eq_of_le_of_le {x y : Binary64} (hx : x.isFinite = true) (hy : y.isFinite = true)
    (hxpos : 0 < x) (hypos : 0 < y) (hxy : x ≤ y) (hyx : y ≤ x) : x = y := by
  obtain ⟨m, hm, rfl, -⟩ := exists_units_of_pos hx hxpos
  obtain ⟨n, hn, rfl, -⟩ := exists_units_of_pos hy hypos
  have hle : (m : Int) ≤ n := (le_iff_of_position rfl rfl).mp hxy
  have hge : (n : Int) ≤ m := (le_iff_of_position rfl rfl).mp hyx
  obtain rfl : m = n := by omega
  rfl

/-- An infinity over a finite number keeps its place. -/
theorem position_div {x : Binary64} {a : Int} {den : Nat} (h : IsRepresentable den)
    (ha : x.position = some a) (hden : 0 < den) :
    (x / finite false den h).position =
      some (if x.isFinite = true then rounded (a * oneUnits) den else a) := by
  change (div x (finite false den h)).position = _
  cases x with
  | nan => cases ha
  | infinite s =>
    rw [div, Bool.bne_false, ha]
    rfl
  | finite s m hm =>
    obtain rfl := Option.some.inj ha
    rw [div, if_neg (Nat.pos_iff_ne_zero.mp hden), position_ofRatio, Bool.bne_false,
      signed_boundedUnits]
    rfl

/-- No place lies beyond those of the infinities. -/
theorem natAbs_rounded_le (num : Int) (den : Nat) : (rounded num den).natAbs ≤ unitLimit := by
  rw [rounded, natAbs_signed]
  exact Nat.min_le_right _ _

theorem natAbs_position_of_infinite {x : Binary64} {a : Int} (hx : x.isFinite = false)
    (ha : x.position = some a) : a.natAbs = unitLimit := by
  cases x with
  | nan => cases ha
  | finite => cases hx
  | infinite negative =>
    obtain rfl := Option.some.inj ha
    exact natAbs_signed _ _

/-! ## Operations -/

section Operations

variable {x y z t : Binary64}

/-- Differences from one number grow with the other one. -/
theorem sub_le_sub_right (hx : x.isFinite = true) (hy : y.isFinite = true)
    (hz : z.isFinite = true) (h : x ≤ y) : x - z ≤ y - z := by
  obtain ⟨a, b, ha, hb, hab⟩ := le_iff.mp h
  obtain ⟨c, hc, -⟩ := isFinite_iff.mp hz
  refine le_iff.mpr ⟨_, _, position_sub hx hz ha hc, position_sub hy hz hb hc, ?_⟩
  exact rounded_mono 1 (by omega)

/-- Above zero there is only one infinity. -/
theorem eq_infinite_of_pos (hx : x.isFinite = false) (hpos : 0 < x) : x = infinite false := by
  obtain ⟨a, b, ha, hb, hab⟩ := lt_iff.mp hpos
  rw [position_ofNat_zero] at ha
  obtain rfl := Option.some.inj ha
  cases x with
  | nan => cases hb
  | finite => cases hx
  | infinite negative =>
    obtain rfl := Option.some.inj hb
    cases negative with
    | false => rfl
    | true =>
      simp only [signed, if_true] at hab
      omega

/-- A finite number vanishes over an infinity. -/
theorem div_infinite (hx : x.isFinite = true) (negative : Bool) :
    x / infinite negative = zero (x.isNegative != negative) := by
  cases x with
  | nan | infinite => cases hx
  | finite => rfl

/-- An infinity over an infinity has no value. -/
theorem div_infinite_of_not_isFinite (hx : x.isFinite = false) (negative : Bool) :
    x / infinite negative = nan := by
  cases x with
  | finite => cases hx
  | nan | infinite => rfl

/-- A number less itself is a zero. -/
theorem position_sub_self (hx : x.isFinite = true) : (x - x).position = some 0 := by
  obtain ⟨a, ha, -⟩ := isFinite_iff.mp hx
  rw [position_sub hx hx ha ha, Int.sub_self, rounded_zero]

/-- However near two numbers are, their difference does not vanish: it is a unit at least, and a
unit is not rounded. -/
theorem sub_pos (hx : x.isFinite = true) (hy : y.isFinite = true) (h : x < y) : 0 < y - x := by
  obtain ⟨a, b, ha, hb, hab⟩ := lt_iff.mp h
  refine lt_iff.mpr ⟨0, _, position_ofNat_zero, position_sub hy hx hb ha, ?_⟩
  have hlimit := unitLimit_pos
  have hround : 1 ≤ roundUnits (b - a).natAbs 1 :=
    le_roundUnits_of_le isRepresentable_one Nat.one_pos (by omega)
  rw [rounded, decide_eq_false (by omega), signed, if_neg Bool.false_ne_true, boundedUnits]
  omega

/-- Quotients by one positive number grow with the numerator. -/
theorem div_le_div_right (ht : t.isFinite = true) (hpos : 0 < t) (h : x ≤ y) : x / t ≤ y / t := by
  obtain ⟨den, hrep, rfl, hden⟩ := exists_units_of_pos ht hpos
  obtain ⟨a, b, ha, hb, hab⟩ := le_iff.mp h
  refine le_iff.mpr ⟨_, _, position_div hrep ha hden, position_div hrep hb hden, ?_⟩
  have hxbound := natAbs_rounded_le (a * oneUnits) den
  have hybound := natAbs_rounded_le (b * oneUnits) den
  split
  case isTrue hx =>
    split
    case isTrue hy =>
      exact rounded_mono den (Int.mul_le_mul_of_nonneg_right hab (Int.natCast_nonneg _))
    case isFalse hy =>
      -- Nothing infinite lies above `x` but plus infinity.
      obtain ⟨a', ha', hlt⟩ := isFinite_iff.mp hx
      obtain rfl := Option.some.inj (ha.symm.trans ha')
      have := natAbs_position_of_infinite (Bool.eq_false_iff.mpr hy) hb
      omega
  case isFalse hx =>
    have hxlimit := natAbs_position_of_infinite (Bool.eq_false_iff.mpr hx) ha
    split
    case isTrue hy =>
      obtain ⟨b', hb', hlt⟩ := isFinite_iff.mp hy
      obtain rfl := Option.some.inj (hb.symm.trans hb')
      omega
    case isFalse hy => exact hab

theorem sub_le_zero (hx : x.isFinite = true) (hy : y.isFinite = true) (h : x ≤ y) : x - y ≤ 0 := by
  refine le_trans (sub_le_sub_right hx hy hy h) ?_
  exact (le_iff_of_position (position_sub_self hy) position_ofNat_zero).mpr (Int.le_refl 0)

/-- A positive number over itself is one. -/
theorem div_self (ht : t.isFinite = true) (hpos : 0 < t) : t / t = 1 := by
  obtain ⟨den, hrep, rfl, hden⟩ := exists_units_of_pos ht hpos
  have hone := isRepresentable_oneUnits
  have hround : roundUnits (den * oneUnits) den = oneUnits := by
    rw [Nat.mul_comm, roundUnits_mul hone hden]
  have hlt : roundUnits (den * oneUnits) den < unitLimit := by
    rw [hround]
    exact hone.1
  rw [ofNat_one]
  change div (finite false den hrep) (finite false den hrep) = _
  rw [div, if_neg (Nat.pos_iff_ne_zero.mp hden), ofRatio, dif_pos hlt]
  simp only [hround, bne_self_eq_false]

theorem position_zero_div (ht : t.isFinite = true) (hpos : 0 < t) : (0 / t).position = some 0 := by
  obtain ⟨den, hrep, rfl, hden⟩ := exists_units_of_pos ht hpos
  rw [ofNat_zero, position_div hrep (position_zero false) hden, Int.zero_mul, rounded_zero,
    ite_self]

theorem div_le_zero (ht : t.isFinite = true) (hpos : 0 < t) (h : x ≤ 0) : x / t ≤ 0 := by
  refine le_trans (div_le_div_right ht hpos h) ?_
  exact (le_iff_of_position (position_zero_div ht hpos) position_ofNat_zero).mpr (Int.le_refl 0)

theorem zero_le_div (ht : t.isFinite = true) (hpos : 0 < t) (h : 0 ≤ x) : 0 ≤ x / t := by
  refine le_trans ?_ (div_le_div_right ht hpos h)
  exact (le_iff_of_position position_ofNat_zero (position_zero_div ht hpos)).mpr (Int.le_refl 0)

theorem one_le_div (ht : t.isFinite = true) (hpos : 0 < t) (h : t ≤ x) : 1 ≤ x / t := by
  have hquotient := div_le_div_right ht hpos h
  rwa [div_self ht hpos] at hquotient

theorem div_le_one (ht : t.isFinite = true) (hpos : 0 < t) (h : x ≤ t) : x / t ≤ 1 := by
  have hquotient := div_le_div_right ht hpos h
  rwa [div_self ht hpos] at hquotient

theorem position_clamp {low high : Binary64} {a l u : Int} (ha : x.position = some a)
    (hlow : low.position = some l) (hhigh : high.position = some u) :
    (x.clamp low high).position = some (if a < l then l else if u < a then u else a) := by
  unfold clamp
  simp only [lt_iff_of_position ha hlow, lt_iff_of_position hhigh ha]
  split
  · exact hlow
  · split
    · exact hhigh
    · exact ha

/-- A NaN is not moved to either bound. -/
theorem clamp_nan (low high : Binary64) : nan.clamp low high = nan := by
  have hlow : ¬nan < low := by simp [lt_iff, position]
  have hhigh : ¬high < nan := by simp [lt_iff, position]
  rw [clamp, if_neg hlow, if_neg hhigh]

/-- Between the bounds nothing is moved. -/
theorem clamp_eq_self {low high : Binary64} (hlow : low ≤ x) (hhigh : x ≤ high) :
    x.clamp low high = x := by
  obtain ⟨l, a, hl, ha, hla⟩ := le_iff.mp hlow
  obtain ⟨a', u, ha', hu, hau⟩ := le_iff.mp hhigh
  obtain rfl := Option.some.inj (ha.symm.trans ha')
  have hnotbelow : ¬x < low := fun h => by
    rw [lt_iff_of_position ha hl] at h
    omega
  have hnotabove : ¬high < x := fun h => by
    rw [lt_iff_of_position hu ha] at h
    omega
  rw [clamp, if_neg hnotbelow, if_neg hnotabove]

section Clamp

variable {low high : Binary64} (hbounds : low ≤ high)
include hbounds

theorem le_clamp (hx : x.isNaN = false) : low ≤ x.clamp low high := by
  obtain ⟨l, u, hl, hu, hlu⟩ := le_iff.mp hbounds
  obtain ⟨a, ha⟩ := exists_position hx
  rw [le_iff_of_position hl (position_clamp ha hl hu)]
  repeat' split
  all_goals omega

theorem clamp_le (hx : x.isNaN = false) : x.clamp low high ≤ high := by
  obtain ⟨l, u, hl, hu, hlu⟩ := le_iff.mp hbounds
  obtain ⟨a, ha⟩ := exists_position hx
  rw [le_iff_of_position (position_clamp ha hl hu) hu]
  repeat' split
  all_goals omega

/-- Bounds keep the order. -/
theorem clamp_le_clamp (h : x ≤ y) : x.clamp low high ≤ y.clamp low high := by
  obtain ⟨l, u, hl, hu, hlu⟩ := le_iff.mp hbounds
  obtain ⟨a, b, ha, hb, hab⟩ := le_iff.mp h
  rw [le_iff_of_position (position_clamp ha hl hu) (position_clamp hb hl hu)]
  repeat' split
  all_goals omega

/-- What is not above the lower bound is moved to it. -/
theorem clamp_beq_low (h : x ≤ low) : (x.clamp low high == low) = true := by
  refine beq_of_le_of_le ?_ (le_clamp hbounds (isNaN_eq_false_of_le h).1)
  obtain ⟨l, u, hl, hu, hlu⟩ := le_iff.mp hbounds
  obtain ⟨a, ha⟩ := exists_position (isNaN_eq_false_of_le h).1
  rw [le_iff_of_position ha hl] at h
  rw [le_iff_of_position (position_clamp ha hl hu) hl]
  repeat' split
  all_goals omega

/-- What is not below the upper bound is moved to it. -/
theorem clamp_beq_high (h : high ≤ x) : (x.clamp low high == high) = true := by
  refine beq_of_le_of_le (clamp_le hbounds (isNaN_eq_false_of_le h).2) ?_
  obtain ⟨l, u, hl, hu, hlu⟩ := le_iff.mp hbounds
  obtain ⟨a, ha⟩ := exists_position (isNaN_eq_false_of_le h).2
  rw [le_iff_of_position hu ha] at h
  rw [le_iff_of_position hu (position_clamp ha hl hu)]
  repeat' split
  all_goals omega

end Clamp

/-! ### Results that are numbers -/

theorem isNaN_ofRatio (negative : Bool) (num den : Nat) :
    (ofRatio negative num den).isNaN = false := by
  unfold ofRatio
  split <;> rfl

theorem units_ne_zero {negative : Bool} {units : Nat} {h : IsRepresentable units}
    (hne : (finite negative units h == 0) = false) : units ≠ 0 := by
  rintro rfl
  refine Bool.false_ne_true (hne.symm.trans (beq_iff.mpr ⟨0, ?_, position_ofNat_zero⟩))
  exact position_zero negative

/-- Finite numbers have a quotient, unless they are divided by zero. -/
theorem isNaN_div (hx : x.isFinite = true) (hy : y.isFinite = true) (hne : (y == 0) = false) :
    (x / y).isNaN = false := by
  cases x with
  | nan | infinite => cases hx
  | finite s a ha =>
    cases y with
    | nan | infinite => cases hy
    | finite t b hb =>
      change (div (finite s a ha) (finite t b hb)).isNaN = false
      rw [div, if_neg (units_ne_zero hne)]
      exact isNaN_ofRatio _ _ _

/-- A number that is not zero has a product even with an infinity. -/
theorem isNaN_mul (hx : x.isNaN = false) (hy : y.isFinite = true) (hne : (y == 0) = false) :
    (x * y).isNaN = false := by
  cases y with
  | nan | infinite => cases hy
  | finite t b hb =>
    cases x with
    | nan => cases hx
    | infinite s =>
      change (mul (infinite s) (finite t b hb)).isNaN = false
      rw [mul, if_neg (units_ne_zero hne)]
      rfl
    | finite s a ha =>
      change (mul (finite s a ha) (finite t b hb)).isNaN = false
      rw [mul]
      exact isNaN_ofRatio _ _ _

/-! ### The smaller number -/

protected theorem min_eq_left (h : x ≤ y) : x.min y = x := by
  obtain ⟨hx, hy⟩ := isNaN_eq_false_of_le h
  have hnot : ¬y < x := fun hlt => (not_le_iff hx hy).mpr hlt h
  rw [min, hx, if_neg Bool.false_ne_true, if_neg hnot]

protected theorem min_eq_right (h : y < x) : x.min y = y := by
  have hx := (isNaN_eq_false_of_le (le_of_lt h)).2
  rw [min, hx, if_neg Bool.false_ne_true, if_pos h]

/-- Only one number compares as equal to one. -/
theorem eq_one_of_beq (h : (x == 1) = true) : x = 1 := by
  obtain ⟨a, hx, hone⟩ := beq_iff.mp h
  rw [ofNat_one] at hone ⊢
  obtain rfl := Option.some.inj hone
  have hpos : 0 < oneUnits := Nat.two_pow_pos _
  have hlimit : oneUnits < unitLimit := isRepresentable_oneUnits.1
  cases x with
  | nan => cases hx
  | infinite negative =>
    obtain ⟨heq, -⟩ := signed_eq_signed_iff.mp (Option.some.inj hx)
    omega
  | finite negative units hunits =>
    obtain ⟨heq, hzero | hsign⟩ := signed_eq_signed_iff.mp (Option.some.inj hx)
    · omega
    · simp only [heq, hsign]

end Operations

end Binary64

end Charting.Number
