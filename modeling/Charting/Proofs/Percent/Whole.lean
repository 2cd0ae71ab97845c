import Charting.Proofs.Percent.Nearest
import Charting.Proofs.Rounding.Scale

/-! # Percent labels of a whole

The labels of finite numbers that are not negative read as parts of a whole: none lies below zero or
above a hundred, and together they make a hundred up to what rounding costs
(`labels_add_up`).  For each label that is a twentieth for its one decimal and next to nothing for
the share behind it (`abs_tenths_shareUnits_sub_le`); for the total it is next to nothing as well
(`Binary64.foldl_add_cases`).

A total that leaves the format is no whole.  Every label is `0.0%` then, and these labels do not
make a hundred (`overflown_labels_miss_hundred`).
-/
namespace Charting.Percent

open Number

-- Powers of naturals are the built-in ones, also beside other instances of powers.
attribute [local instance (1100)] instPowNat

/-! ## One share -/

/-- Tenths of one, rounded from units; a half goes up. -/
def tenths (units : Nat) : Nat := roundHalfUp (units * 10) oneUnits

/-- The units of the share of a part in a whole, both in units. -/
def shareUnits (part whole : Nat) : Nat := roundUnits (roundUnits (part * oneUnits) whole * 100) 1

section Share

variable {part whole : Nat} (hwhole : 0 < whole) (hle : part ≤ whole)
include hwhole hle

theorem shareUnits_le : shareUnits part whole ≤ 100 * oneUnits :=
  roundUnits_multiple_le (roundUnits_part_le hwhole hle) (by decide)

theorem tenths_shareUnits_le : tenths (shareUnits part whole) ≤ 1000 := by
  have hone : 0 < oneUnits := Nat.two_pow_pos _
  have hunits := shareUnits_le hwhole hle
  unfold tenths roundHalfUp
  refine Nat.lt_succ_iff.mp ((Nat.div_lt_iff_lt_mul (by omega)).mpr ?_)
  omega

/-- A share is rounded once for the quotient and once for the percents. -/
theorem counts_share {value total : Binary64} (hvalue : value.Counts part)
    (htotal : total.Counts whole) : (share value total).Counts (shareUnits part whole) := by
  have hquotient := hvalue.div htotal hwhole
    ((roundUnits_part_le hwhole hle).trans_lt Binary64.isRepresentable_oneUnits.1)
  have hpercent : (value / total * 100).Counts (shareUnits part whole) :=
    hquotient.mul_ofNat (n := 100) (roundUnits_part_le hwhole hle) (by decide)
  have hhundredCounts : (100 : Binary64).Counts (100 * oneUnits) :=
    Binary64.counts_ofNat (n := 100) (by decide)
  -- The bounds of shares are far away.
  have hhigh : (100 : Binary64) ≤ largestShare := by
    rw [largestShare_eq]
    exact Binary64.ofNat_le_ofNat (by decide)
  have hnonneg : 0 ≤ value / total * 100 :=
    (Binary64.le_iff_of_position Binary64.position_ofNat_zero hpercent.position_eq).mpr
      (Int.natCast_nonneg _)
  have hhundred : value / total * 100 ≤ 100 :=
    (Binary64.le_iff_of_position hpercent.position_eq hhundredCounts.position_eq).mpr
      (Int.ofNat_le.mpr (shareUnits_le hwhole hle))
  rw [share, Binary64.clamp_eq_self (Binary64.le_trans neg_largestShare_le_zero hnonneg)
    (Binary64.le_trans hhundred hhigh)]
  exact hpercent

/-- **What one label is off by**: a twentieth for its one decimal, and next to nothing before. -/
theorem abs_tenths_shareUnits_sub_le :
    |(tenths (shareUnits part whole) : ℚ) / 10 - 100 * (part / whole)| ≤
      1 / 20 + 250 / 2 ^ 53 := by
  have hquotient := abs_part_sub_le hwhole hle
  have hpercent : |(shareUnits part whole / oneUnits -
      100 * (roundUnits (part * oneUnits) whole / oneUnits) : ℚ)| ≤ 100 / 2 ^ 53 := by
    have herror := abs_multiple_sub_le (roundUnits_part_le hwhole hle) (show 100 ≤ _ by decide)
    rwa [Nat.cast_ofNat] at herror
  have htenths : |(tenths (shareUnits part whole) / 10 - shareUnits part whole / oneUnits : ℚ)| ≤
      1 / 20 := by
    have hhalf : |(tenths (shareUnits part whole) -
        (shareUnits part whole * 10 : Nat) / oneUnits : ℚ)| ≤ 1 / 2 :=
      abs_sub_div_le_half (Nat.two_pow_pos unitExponent)
        (roundHalfUp_bounds (shareUnits part whole * 10) (Nat.two_pow_pos unitExponent))
    have herror := abs_div_sub_div_le (show (0 : ℚ) < 10 by norm_num) hhalf
    have hexact : ((shareUnits part whole * 10 : Nat) / oneUnits / 10 : ℚ) =
        shareUnits part whole / oneUnits := by
      push_cast
      rw [div_right_comm, mul_div_cancel_right₀ _ (by norm_num)]
    rw [hexact] at herror
    exact herror.trans (by norm_num)
  generalize (roundUnits (part * oneUnits) whole / oneUnits : ℚ) = quotient at *
  generalize (shareUnits part whole / oneUnits : ℚ) = percent at *
  rw [abs_le] at *
  constructor <;> linarith

omit hwhole hle in
theorem roundAway_one_value {x : Binary64} {units : Nat} (h : x.Counts units) :
    roundAway 1 x.value = (tenths units : ℚ) / 10 := by
  have hround := roundAway_signed_div 1 false units zero_lt_oneUnits
  rw [h.value_eq, tenths]
  simpa only [Binary64.signed, Bool.false_eq_true, if_false, Int.cast_natCast, pow_one] using hround

/-- The label of a part of a whole reads as its rounded share. -/
theorem spelled?_label {value total : Binary64} (hvalue : value.Counts part)
    (htotal : total.Counts whole) :
    spelled? (label value total) = some ((tenths (shareUnits part whole) : ℚ) / 10) := by
  have hnonzero : (total == 0) = false := by
    refine Bool.eq_false_iff.mpr fun h => ?_
    obtain ⟨a, ha, hzero⟩ := Binary64.beq_iff.mp h
    rw [htotal.position_eq] at ha
    rw [Binary64.position_ofNat_zero] at hzero
    have : (whole : Int) = 0 := Option.some.inj (ha.trans hzero.symm)
    omega
  have hshare := counts_share hwhole hle hvalue htotal
  obtain ⟨d, hlabel, -, hd⟩ :=
    exists_label_eq standard_isFaithful hvalue.isFinite htotal.isFinite hnonzero
  rw [label, hlabel, spelled?_chars, hd, roundAway_one_value hshare]

end Share

/-! ## All labels -/

/-- The numbers that the labels of parts show. -/
def shownShares (parts : List Nat) (whole : Nat) : List ℚ :=
  parts.map fun part => tenths (shareUnits part whole) / 10

section Shares

variable {parts : List Nat} {whole : Nat} (hwhole : 0 < whole)
include hwhole

theorem shownShares_range (hle : ∀ part ∈ parts, part ≤ whole) :
    ∀ q ∈ shownShares parts whole, 0 ≤ q ∧ q ≤ 100 := by
  refine List.forall_mem_map.mpr fun part hpart => ?_
  have htenths : (tenths (shareUnits part whole) : ℚ) ≤ 1000 := by
    exact_mod_cast tenths_shareUnits_le hwhole (hle part hpart)
  constructor
  · positivity
  · linarith

/-- **What all labels together are off by**, one part after another. -/
theorem abs_sum_shownShares_sub_le (hle : ∀ part ∈ parts, part ≤ whole) :
    |(shownShares parts whole).sum - 100 * (parts.sum / whole)| ≤
      parts.length * (1 / 20 + 250 / 2 ^ 53) := by
  induction parts with
  | nil => simp [shownShares]
  | cons part rest ih =>
    obtain ⟨hfirst, hrest⟩ := List.forall_mem_cons.mp hle
    have hone := abs_tenths_shareUnits_sub_le hwhole hfirst
    have hmore := ih hrest
    have hsplit : (100 * ((part + rest.sum) / whole) : ℚ) =
        100 * (part / whole) + 100 * (rest.sum / whole) := by ring
    rw [shownShares] at *
    rw [List.map_cons, List.sum_cons, List.sum_cons, List.length_cons, Nat.cast_add, hsplit,
      Nat.cast_succ]
    rw [abs_le] at *
    constructor <;> linarith

/-- What the total is off by, in percent of itself. -/
theorem abs_parts_sub_hundred_le (h : Binary64.IsTotal whole 0 parts) :
    |(100 * (parts.sum / whole) - 100 : ℚ)| ≤ parts.length * (100 / 2 ^ 53) := by
  have hpos : (0 : ℚ) < whole := by exact_mod_cast hwhole
  have herror := abs_div_sub_div_le hpos h.error
  have hself : (whole / whole : ℚ) = 1 := div_self hpos.ne'
  have hplaces : (parts.length * (whole / 2 ^ 53) / whole : ℚ) = parts.length / 2 ^ 53 := by
    field_simp
  rw [hself, hplaces, Nat.cast_zero, zero_add, abs_le] at herror
  rw [abs_le]
  constructor <;> linarith

theorem abs_sum_shownShares_sub_hundred_le (h : Binary64.IsTotal whole 0 parts) :
    |(shownShares parts whole).sum - 100| ≤ 51 / 1000 * parts.length := by
  have hlabels := abs_sum_shownShares_sub_le hwhole h.each_le
  have hparts := abs_parts_sub_hundred_le hwhole h
  have hlength : (0 : ℚ) ≤ parts.length := Nat.cast_nonneg _
  rw [abs_le] at *
  constructor <;> linarith

end Shares

/-- Without a finite total nothing is a part of it. -/
theorem label_of_overflow (value : Binary64) {total : Binary64} (h : total.isFinite = false) :
    label value total = "0.0%" := by
  have hguard : (total == 0 || !total.isFinite || !value.isFinite) = true := by
    rw [h, Bool.not_false, Bool.or_true, Bool.true_or]
  rw [label, DecimalArithmetic.label, hguard, if_pos rfl]

theorem finiteTotal_of_isFinite {values : List Binary64} (h : ∀ v ∈ values, v.isFinite = true) :
    finiteTotal values = values.foldl (· + ·) 0 := by
  rw [finiteTotal, List.filter_eq_self.mpr h]

/-- **Labels of a whole add up.**  The labels of finite numbers that are not negative, not all zero,
read as numbers from 0 to 100.  They sum to 100 up to 0.051 for each of them if the total is finite;
and if it is not, every label is `0.0%`. -/
theorem labels_add_up {values : List Binary64}
    (hvalues : ∀ v ∈ values, v.isFinite = true ∧ 0 ≤ v) (hpos : ∃ v ∈ values, 0 < v) :
    ∃ shares : List ℚ, (labels values).map spelled? = shares.map some ∧
      (∀ q ∈ shares, 0 ≤ q ∧ q ≤ 100) ∧
      ((finiteTotal values).isFinite = true →
        |shares.sum - 100| ≤ 51 / 1000 * values.length) ∧
      ((finiteTotal values).isFinite = false → labels values = values.map fun _ => "0.0%") := by
  have hcounts : ∀ v ∈ values, v.Counts v.units :=
    fun v hv => Binary64.counts_units (hvalues v hv).1 (hvalues v hv).2
  have htotal := finiteTotal_of_isFinite fun v hv => (hvalues v hv).1
  rcases Binary64.foldl_add_cases hcounts Binary64.counts_zero with
    hoverflow | ⟨whole, hwhole, hsum⟩
  case inl =>
    rw [← htotal] at hoverflow
    have hlabels : labels values = values.map fun _ => "0.0%" :=
      List.map_congr_left fun v _ => label_of_overflow v (hoverflow ▸ rfl)
    refine ⟨values.map fun _ => 0, ?read, ?range, ?sum, fun _ => hlabels⟩
    case read => simp only [hlabels, List.map_map, Function.comp_def, spelled?_zero]
    case range =>
      refine List.forall_mem_map.mpr fun v _ => ?_
      norm_num
    case sum =>
      intro hfinite
      rw [hoverflow] at hfinite
      exact Bool.noConfusion hfinite
  case inr =>
    rw [← htotal] at hwhole
    have hle : ∀ v ∈ values, v.units ≤ whole := fun v hv =>
      hsum.each_le _ (List.mem_map_of_mem hv)
    have hwholepos : 0 < whole := by
      obtain ⟨v, hv, hvpos⟩ := hpos
      have hunits := (Binary64.lt_iff_of_position Binary64.position_ofNat_zero
        (hcounts v hv).position_eq).mp hvpos
      have := hle v hv
      omega
    refine ⟨shownShares (values.map Binary64.units) whole, ?read,
      shownShares_range hwholepos hsum.each_le, fun _ => ?sum, ?overflow⟩
    case read =>
      rw [labels, shownShares, List.map_map, List.map_map, List.map_map]
      exact List.map_congr_left fun v hv =>
        spelled?_label hwholepos (hle v hv) (hcounts v hv) hwhole
    case sum =>
      have herror := abs_sum_shownShares_sub_hundred_le hwholepos hsum
      rwa [List.length_map] at herror
    case overflow =>
      intro hinfinite
      rw [hwhole.isFinite] at hinfinite
      exact Bool.noConfusion hinfinite

/-- The labels of three equal parts fall short of a hundred, but not by more than that. -/
theorem labels_add_up_thirds :
    (∀ v ∈ ([1, 1, 1] : List Binary64), v.isFinite = true ∧ 0 ≤ v) ∧
      ∃ shares : List ℚ, (labels [1, 1, 1]).map spelled? = shares.map some ∧
        |shares.sum - 100| ≤ 51 / 1000 * 3 := by
  have hvalues : ∀ v ∈ ([1, 1, 1] : List Binary64), v.isFinite = true ∧ 0 ≤ v := by
    intro v hv
    have hone : v = 1 := by simpa using hv
    rw [hone]
    exact ⟨Binary64.isFinite_one, Binary64.zero_le_one⟩
  have hpos : ∃ v ∈ ([1, 1, 1] : List Binary64), 0 < v :=
    ⟨1, List.mem_cons_self, Binary64.ofNat_pos Nat.one_pos⟩
  obtain ⟨shares, hread, -, hsum, -⟩ := labels_add_up hvalues hpos
  exact ⟨hvalues, shares, hread, hsum (by decide +kernel)⟩

/-- Both numbers are finite and above zero, but their total is not finite. -/
theorem overflown_labels_miss_hundred :
    (∀ v ∈ ([1e308, 1e308] : List Binary64), v.isFinite = true ∧ 0 < v) ∧
      ∀ shares : List ℚ, (labels [1e308, 1e308]).map spelled? = shares.map some →
        ¬|shares.sum - 100| ≤ 51 / 1000 * 2 := by
  refine ⟨by decide +kernel, fun shares hread => ?_⟩
  have hlabels : labels [1e308, 1e308] = ["0.0%", "0.0%"] := by decide +kernel
  have hmap : ([0, 0] : List ℚ).map some = shares.map some := by
    rw [← hread, hlabels]
    simp only [List.map_cons, List.map_nil, spelled?_zero]
  obtain rfl := List.map_injective_iff.mpr (Option.some_injective ℚ) hmap
  norm_num

end Charting.Percent
