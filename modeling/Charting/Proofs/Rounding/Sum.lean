import Charting.Proofs.Rounding.Error

/-! # Sums of numbers that are not negative

Numbers are added one after another, and every step rounds.  Without negative numbers the running
total never falls, so all of its roundings are small beside the total that is reached in the end: a
total of `n` numbers is off by `n` parts in `2 ^ 53` of itself at most, and none of the numbers lies
above it (`foldl_add_cases`).  The only other thing that can happen is that the total leaves the
format, and then it is infinite for good.
-/
namespace Charting.Number.Binary64

-- Powers of naturals are the built-in ones, also beside other instances of powers.
attribute [local instance (1100)] instPowNat

/-- The units of the magnitude; only a finite number has any. -/
def units : Binary64 → Nat
  | .finite _ units _ => units
  | _ => 0

/-- The number is finite and not below zero, and stands for that many units. -/
inductive Counts : Binary64 → Nat → Prop
  | finite {negative : Bool} {units : Nat} (h : IsRepresentable units)
      (sign : negative = true → units = 0) : Counts (.finite negative units h) units

section Counts

variable {x y : Binary64} {a b : Nat}

theorem signed_of_sign {negative : Bool} (sign : negative = true → a = 0) :
    signed negative a = a := by
  cases negative with
  | false => rfl
  | true =>
    rw [sign rfl]
    rfl

theorem Counts.isFinite (h : x.Counts a) : x.isFinite = true := by
  cases h
  rfl

theorem Counts.isRepresentable (h : x.Counts a) : IsRepresentable a := by
  cases h with
  | finite h => exact h

theorem Counts.position_eq (h : x.Counts a) : x.position = some (a : Int) := by
  cases h with
  | finite h sign => rw [position, signed_of_sign sign]

theorem counts_units (hfinite : x.isFinite = true) (hnonneg : 0 ≤ x) : x.Counts x.units := by
  cases x with
  | nan | infinite => cases hfinite
  | finite negative units h =>
    refine .finite h ?_
    rintro rfl
    rw [le_iff_of_position position_ofNat_zero rfl, signed, if_pos rfl] at hnonneg
    omega

theorem counts_zero : (0 : Binary64).Counts 0 := by
  rw [ofNat_zero]
  exact .finite isRepresentable_zero fun _ => rfl

/-- A rounded quotient that is not negative counts its units, if it stays in the format. -/
theorem counts_ofRatio {negative : Bool} {num den : Nat} (sign : negative = true → num = 0)
    (h : roundUnits num den < unitLimit) :
    (ofRatio negative num den).Counts (roundUnits num den) := by
  rw [ofRatio, dif_pos h]
  refine .finite _ fun hnegative => ?_
  rw [sign hnegative, roundUnits_zero]

theorem Counts.div (hx : x.Counts a) (hy : y.Counts b) (hb : 0 < b)
    (h : roundUnits (a * oneUnits) b < unitLimit) :
    (x / y).Counts (roundUnits (a * oneUnits) b) := by
  obtain ⟨hx, hxsign⟩ := hx
  obtain ⟨hy, hysign⟩ := hy
  rename_i s t
  have hquotient : Binary64.finite s a hx / .finite t b hy = ofRatio (s != t) (a * oneUnits) b :=
    if_neg (Nat.pos_iff_ne_zero.mp hb)
  rw [hquotient]
  refine counts_ofRatio (fun hsign => ?_) h
  cases t with
  | false => rw [hxsign (by simpa using hsign), Nat.zero_mul]
  | true =>
    have := hysign rfl
    omega

theorem Counts.mul (hx : x.Counts a) (hy : y.Counts b)
    (h : roundUnits (a * b) oneUnits < unitLimit) :
    (x * y).Counts (roundUnits (a * b) oneUnits) := by
  obtain ⟨hx, hxsign⟩ := hx
  obtain ⟨hy, hysign⟩ := hy
  rename_i s t
  change (Binary64.mul (.finite s a hx) (.finite t b hy)).Counts _
  rw [Binary64.mul]
  refine counts_ofRatio (fun hsign => ?_) h
  cases s with
  | true => rw [hxsign rfl, Nat.zero_mul]
  | false => rw [hysign (by simpa using hsign), Nat.mul_zero]

/-- **One step**: the sum is rounded, or leaves the format. -/
theorem Counts.add (hx : x.Counts a) (hy : y.Counts b) :
    x + y = .infinite false ∨ (x + y).Counts (roundUnits (a + b) 1) := by
  obtain ⟨hx, hxsign⟩ := hx
  obtain ⟨hy, hysign⟩ := hy
  rename_i s t
  have hsum : Binary64.finite s a hx + .finite t b hy = ofUnits (s && t) ((a + b : Nat) : Int) := by
    change ofUnits (s && t) (signed s a + signed t b) = _
    rw [signed_of_sign hxsign, signed_of_sign hysign, Int.natCast_add]
  have hpositive : decide (((a + b : Nat) : Int) < 0) = false :=
    decide_eq_false (Int.not_lt.mpr (Int.natCast_nonneg _))
  rw [hsum, ofUnits, hpositive, Int.natAbs_natCast]
  split
  case isTrue hzero =>
    rw [Int.natCast_eq_zero.mp hzero, roundUnits_zero]
    exact .inr (.finite isRepresentable_zero fun _ => rfl)
  case isFalse =>
    by_cases h : roundUnits (a + b) 1 < unitLimit
    · exact .inr (counts_ofRatio (fun hnegative => nomatch hnegative) h)
    · rw [ofRatio, dif_neg h]
      exact .inl rfl

theorem infinite_add (hx : x.isFinite = true) : .infinite false + x = .infinite false := by
  cases x with
  | nan | infinite => cases hx
  | finite => rfl

end Counts

/-! ## Running totals -/

/-- What a total has to do with the number it began with and the numbers that were added, all in
units. -/
structure IsTotal (total start : Nat) (added : List Nat) : Prop where
  start_le : start ≤ total
  each_le : ∀ a ∈ added, a ≤ total
  error : |(total : ℚ) - (start + added.sum)| ≤ added.length * (total / 2 ^ 53)

theorem isTotal_nil (start : Nat) : IsTotal start start [] := by
  constructor
  case start_le => exact Nat.le_refl start
  case each_le => exact fun a ha => nomatch ha
  case error => simp

/-- What has been rounded once counts among the numbers that the rest is added to. -/
theorem IsTotal.cons {total start a : Nat} {added : List Nat} (hstart : IsRepresentable start)
    (ha : IsRepresentable a) (h : IsTotal total (roundUnits (start + a) 1) added) :
    IsTotal total start (a :: added) := by
  have hle : roundUnits (start + a) 1 ≤ total := h.start_le
  constructor
  case start_le => exact (le_roundUnits_of_le hstart Nat.one_pos (by omega)).trans hle
  case each_le =>
    have hfirst : a ≤ total := (le_roundUnits_of_le ha Nat.one_pos (by omega)).trans hle
    exact List.forall_mem_cons.mpr ⟨hfirst, h.each_le⟩
  case error =>
    have hstep := abs_roundUnits_one_sub_le (start + a)
    have hrest := h.error
    generalize roundUnits (start + a) 1 = next at *
    have hsmall : (next : ℚ) / 2 ^ 53 ≤ total / 2 ^ 53 :=
      div_le_div_of_nonneg_right (by exact_mod_cast hle) (by positivity)
    rw [List.sum_cons, List.length_cons]
    simp only [Nat.cast_add, Nat.cast_one] at hstep ⊢
    calc |(total : ℚ) - (start + (a + added.sum))|
        = |((total : ℚ) - (next + added.sum)) + (next - (start + a))| := congrArg abs (by ring)
      _ ≤ |(total : ℚ) - (next + added.sum)| + |(next : ℚ) - (start + a)| := abs_add_le _ _
      _ ≤ added.length * (total / 2 ^ 53) + total / 2 ^ 53 := by linarith
      _ = (added.length + 1) * (total / 2 ^ 53) := by ring

theorem foldl_add_infinite {values : List Binary64} (h : ∀ x ∈ values, x.isFinite = true) :
    values.foldl (· + ·) (.infinite false) = .infinite false := by
  induction values with
  | nil => rfl
  | cons x rest ih =>
    obtain ⟨hx, hrest⟩ := List.forall_mem_cons.mp h
    rw [List.foldl_cons, infinite_add hx, ih hrest]

/-- **A whole run**: the numbers add up to a total, or the total leaves the format. -/
theorem foldl_add_cases {values : List Binary64} (h : ∀ y ∈ values, y.Counts y.units)
    {x : Binary64} {start : Nat} (hx : x.Counts start) :
    values.foldl (· + ·) x = .infinite false ∨
      ∃ total, (values.foldl (· + ·) x).Counts total ∧
        IsTotal total start (values.map units) := by
  induction values generalizing x start with
  | nil => exact .inr ⟨start, hx, isTotal_nil start⟩
  | cons y rest ih =>
    obtain ⟨hy, hrest⟩ := List.forall_mem_cons.mp h
    rw [List.foldl_cons, List.map_cons]
    rcases hx.add hy with hinfinite | hnext
    · rw [hinfinite]
      exact .inl (foldl_add_infinite fun z hz => (hrest z hz).isFinite)
    · refine (ih hrest hnext).imp_right ?_
      rintro ⟨total, htotal, hsum⟩
      exact ⟨total, htotal, hsum.cons hx.isRepresentable hy.isRepresentable⟩

end Charting.Number.Binary64
