import Charting.Proofs.Rounding.Sum
import Charting.Viewport

/-! # What sizes a screen gives a chart

Nothing is asked of the lengths a chart declares nor of the padding: each may be negative, infinite
or a NaN, and the arithmetic between them may give a NaN too, as zero percent of an infinite width
does.  Every result passes through a last comparison with zero, and that comparison alone keeps what
is negative or no number out of a size (`Number.Binary64.orZero`).  A chart that declares no width
is kept within the screen for another reason: the padding that is taken off is never negative, and
a difference that overflows does so downwards (`Number.Binary64.sub_le_self`).
-/
namespace Charting

open Number

/-! ## The comparison with zero -/

namespace Number.Binary64

/-- The number itself unless it is negative or a NaN, which count as zero. -/
def orZero (x : Binary64) : Binary64 := if 0 ≤ x then x else 0

variable {x y : Binary64} {a b : Nat}

theorem max_zero (x : Binary64) : x.max 0 = x.orZero := by
  unfold max orZero
  by_cases hnan : x.isNaN = true
  · have hnot : ¬0 ≤ x := fun h => by
      rw [(isNaN_eq_false_of_le h).2] at hnan
      cases hnan
    rw [if_pos hnan, if_neg hnot]
  · have hzero : (0 : Binary64).isNaN = false := isNaN_eq_false_of_isFinite isFinite_zero
    have hlt := not_le_iff hzero (Bool.eq_false_iff.mpr hnan)
    rw [if_neg hnan]
    by_cases h : 0 ≤ x
    · rw [if_pos h, if_neg fun hneg => hlt.mpr hneg h]
    · rw [if_neg h, if_pos (hlt.mp h)]

theorem zero_le_orZero (x : Binary64) : 0 ≤ x.orZero := by
  unfold orZero
  by_cases h : 0 ≤ x
  · rwa [if_pos h]
  · rw [if_neg h]
    exact le_refl (isNaN_eq_false_of_isFinite isFinite_zero)

theorem orZero_le (hy : 0 ≤ y) (h : x ≤ y) : x.orZero ≤ y := by
  unfold orZero
  split
  · exact h
  · exact hy

/-! ## Paddings and what they leave -/

protected theorem mul_comm (x y : Binary64) : x * y = y * x := by
  change mul x y = mul y x
  cases x with
  | nan => cases y <;> rfl
  | infinite s =>
    cases y with
    | nan => rfl
    | infinite t | finite t => simp only [mul, bne_comm]
  | finite s =>
    cases y with
    | nan => rfl
    | infinite t | finite t => simp only [mul, bne_comm, Nat.mul_comm]

/-- A product may leave the format, but not towards the negative numbers. -/
theorem Counts.zero_le_mul (hx : x.Counts a) (hy : y.Counts b) : 0 ≤ x * y := by
  obtain ⟨hx, hxsign⟩ := hx
  obtain ⟨hy, hysign⟩ := hy
  rename_i s t
  have hsign : (s != t) = true → boundedUnits (a * b) oneUnits = 0 := by
    intro hne
    cases s with
    | true => rw [hxsign rfl, Nat.zero_mul, boundedUnits_zero]
    | false => rw [hysign (by simpa using hne), Nat.mul_zero, boundedUnits_zero]
  change 0 ≤ Binary64.mul (.finite s a hx) (.finite t b hy)
  rw [Binary64.mul, le_iff_of_position position_ofNat_zero (position_ofRatio _ _ _),
    signed_of_sign hsign]
  exact Int.natCast_nonneg _

/-- A finite number is not rounded. -/
theorem rounded_position {p : Int} (hx : x.isFinite = true) (hp : x.position = some p) :
    rounded p 1 = p := by
  cases x with
  | nan | infinite => cases hx
  | finite negative units h =>
    obtain rfl := Option.some.inj hp
    have hexact := roundUnits_mul h Nat.one_pos
    have hplace := signed_boundedUnits negative units 1 1
    rw [Nat.cast_one, Int.mul_one] at hplace
    rw [← hplace, boundedUnits, hexact, Nat.min_eq_left (Nat.le_of_lt h.1)]

/-- What is taken off may be infinite; the difference is then minus infinity. -/
theorem sub_le_self (hx : x.isFinite = true) (hy : 0 ≤ y) : x - y ≤ x := by
  obtain ⟨p, hp, hplimit⟩ := isFinite_iff.mp hx
  obtain ⟨zero, q, hzero, hq, hle⟩ := le_iff.mp hy
  obtain rfl := Option.some.inj (position_ofNat_zero.symm.trans hzero)
  by_cases hfinite : y.isFinite = true
  · have hround := rounded_mono 1 (show p - q ≤ p by omega)
    rw [rounded_position hx hp] at hround
    exact le_iff.mpr ⟨_, _, position_sub hx hfinite hp hq, hp, hround⟩
  · have hinfinite : y.isFinite = false := Bool.eq_false_iff.mpr hfinite
    have hqlimit := natAbs_position_of_infinite hinfinite hq
    have hpos : 0 < y := (lt_iff_of_position position_ofNat_zero hq).mpr (by omega)
    obtain rfl := eq_infinite_of_pos hinfinite hpos
    have hminus : x - infinite false = infinite true := by
      cases x with
      | nan | infinite => cases hx
      | finite => rfl
    rw [hminus]
    refine le_iff.mpr ⟨signed true unitLimit, p, rfl, hp, ?_⟩
    rw [signed, if_pos rfl]
    omega

end Number.Binary64

namespace Viewport

variable {width height : Option Dimension} {deviceWidth padding : Binary64} {size : Size Binary64}

/-! ## The room of a screen -/

/-- The padding that counts: what is negative or not finite is none. -/
def countedPadding (padding : Binary64) : Binary64 := if padding.isFinite then padding.orZero else 0

/-- The room that a screen has between its paddings. -/
def room (deviceWidth padding : Binary64) : Binary64 :=
  (deviceWidth - 2 * countedPadding padding).orZero

theorem available_eq_room (deviceWidth padding : Binary64) :
    available deviceWidth padding = room deviceWidth padding := by
  simp only [available, room, countedPadding, Binary64.max_zero, Binary64.mul_comm]

theorem counts_countedPadding (padding : Binary64) :
    ∃ units, (countedPadding padding).Counts units := by
  unfold countedPadding
  split
  case isTrue hfinite =>
    unfold Binary64.orZero
    split
    case isTrue hnonneg => exact ⟨_, Binary64.counts_units hfinite hnonneg⟩
    case isFalse => exact ⟨0, Binary64.counts_zero⟩
  case isFalse => exact ⟨0, Binary64.counts_zero⟩

/-- No padding makes the room wider than the screen. -/
theorem room_le (hfinite : deviceWidth.isFinite = true) (hnonneg : 0 ≤ deviceWidth)
    (padding : Binary64) : room deviceWidth padding ≤ deviceWidth := by
  obtain ⟨units, hunits⟩ := counts_countedPadding padding
  have htwo : (2 : Binary64).Counts (2 * oneUnits) := by
    rw [show (2 : Binary64) = .ofNat 2 from rfl, Binary64.ofNat_eq_finite (by decide)]
    exact .finite _ fun hsign => nomatch hsign
  exact Binary64.orZero_le hnonneg (Binary64.sub_le_self hfinite (htwo.zero_le_mul hunits))

/-! ## Sizes -/

theorem resolve_px (length container : Binary64) :
    (Dimension.px length).resolve container = length.orZero :=
  Binary64.max_zero length

theorem resolve_percent (share container : Binary64) :
    (Dimension.percent share).resolve container = (container * share / 100).orZero :=
  Binary64.max_zero _

theorem zero_le_resolve (length : Dimension) (container : Binary64) :
    0 ≤ length.resolve container := by
  cases length with
  | px length =>
    rw [resolve_px]
    exact Binary64.zero_le_orZero length
  | percent share =>
    rw [resolve_percent]
    exact Binary64.zero_le_orZero _

/-- What the size of a chart has to do with the screen and with the lengths it declares.  A length
that is at least zero is a number: a NaN compares with nothing. -/
structure FitsScreen (width height : Option Dimension) (deviceWidth padding : Binary64)
    (size : Size Binary64) : Prop where
  width_nonneg : 0 ≤ size.width
  width_isNumber : size.width.isNaN = false
  height_nonneg : 0 ≤ size.height
  height_isNumber : size.height.isNaN = false
  width_filled : width = none →
    size.width = room deviceWidth padding ∧ size.width ≤ deviceWidth
  width_px : ∀ length, width = some (.px length) → size.width = length.orZero
  width_percent : ∀ share, width = some (.percent share) →
    size.width = (room deviceWidth padding * share / 100).orZero
  height_default : height = none → size.height = 300
  height_px : ∀ length, height = some (.px length) → size.height = length.orZero
  height_percent : ∀ share, height = some (.percent share) →
    size.height = (size.width * share / 100).orZero
  /-- On whatever screen the width comes out the same, so does the height. -/
  height_of_width : ∀ width' deviceWidth' padding' size',
    mobile width' height deviceWidth' padding' = .ok size' →
      size'.width = size.width → size'.height = size.height

/-- A screen is refused for its width alone, and otherwise the size is known. -/
theorem mobile_eq_ok_iff :
    mobile width height deviceWidth padding = .ok size ↔
      (deviceWidth.isFinite = true ∧ 0 ≤ deviceWidth) ∧
        size.width = (width.map (·.resolve (room deviceWidth padding))).getD
          (room deviceWidth padding) ∧
        size.height = (height.map (·.resolve size.width)).getD 300 := by
  unfold mobile
  rw [available_eq_room]
  by_cases h : deviceWidth.isFinite = true ∧ 0 ≤ deviceWidth
  · rw [if_pos (by simpa using h)]
    constructor
    · intro heq
      obtain rfl := Except.ok.inj heq
      exact ⟨h, rfl, rfl⟩
    · rintro ⟨-, hwidth, hheight⟩
      obtain ⟨w, v⟩ := size
      dsimp only at hwidth hheight
      rw [hheight, hwidth]
      rfl
  · rw [if_neg (by simpa using h)]
    refine iff_of_false (fun heq => nomatch heq) fun hsize => h hsize.1

theorem mobile_eq_error_iff {fault : InvalidViewport} :
    mobile width height deviceWidth padding = .error fault ↔
      (deviceWidth.isFinite = false ∨ deviceWidth < 0) ∧ fault = ⟨deviceWidth, 0⟩ := by
  unfold mobile
  by_cases hfinite : deviceWidth.isFinite = true
  · have hnumber := Binary64.isNaN_eq_false_of_isFinite hfinite
    have hzero := Binary64.isNaN_eq_false_of_isFinite Binary64.isFinite_zero
    have hlt := Binary64.not_le_iff hzero hnumber
    by_cases hnonneg : 0 ≤ deviceWidth
    · have hnot : ¬deviceWidth < 0 := fun h => hlt.mpr h hnonneg
      simp [hfinite, hnonneg, hnot]
    · simp [hfinite, hnonneg, hlt.mp hnonneg, eq_comm]
  · simp [hfinite, eq_comm]

theorem fitsScreen_of_mobile (h : mobile width height deviceWidth padding = .ok size) :
    FitsScreen width height deviceWidth padding size := by
  obtain ⟨⟨hfinite, hscreen⟩, hwidth, hheight⟩ := mobile_eq_ok_iff.mp h
  have hwidthNonneg : 0 ≤ size.width := by
    cases width with
    | none =>
      rw [hwidth, Option.map_none, Option.getD_none]
      exact Binary64.zero_le_orZero _
    | some length =>
      rw [hwidth, Option.map_some, Option.getD_some]
      exact zero_le_resolve length _
  have hheightNonneg : 0 ≤ size.height := by
    cases height with
    | none =>
      rw [hheight, Option.map_none, Option.getD_none]
      exact Binary64.zero_le_ofNat 300
    | some length =>
      rw [hheight, Option.map_some, Option.getD_some]
      exact zero_le_resolve length _
  refine
    { width_nonneg := hwidthNonneg
      width_isNumber := (Binary64.isNaN_eq_false_of_le hwidthNonneg).2
      height_nonneg := hheightNonneg
      height_isNumber := (Binary64.isNaN_eq_false_of_le hheightNonneg).2
      width_filled := ?width_filled
      width_px := ?width_px
      width_percent := ?width_percent
      height_default := ?height_default
      height_px := ?height_px
      height_percent := ?height_percent
      height_of_width := ?height_of_width }
  case width_filled =>
    rintro rfl
    rw [Option.map_none, Option.getD_none] at hwidth
    refine ⟨hwidth, ?_⟩
    rw [hwidth]
    exact room_le hfinite hscreen padding
  case width_px =>
    rintro length rfl
    rw [hwidth, Option.map_some, Option.getD_some, resolve_px]
  case width_percent =>
    rintro share rfl
    rw [hwidth, Option.map_some, Option.getD_some, resolve_percent]
  case height_default =>
    rintro rfl
    exact hheight
  case height_px =>
    rintro length rfl
    rw [hheight, Option.map_some, Option.getD_some, resolve_px]
  case height_percent =>
    rintro share rfl
    rw [hheight, Option.map_some, Option.getD_some, resolve_percent]
  case height_of_width =>
    intro width' deviceWidth' padding' size' h' hsame
    obtain ⟨-, -, hheight'⟩ := mobile_eq_ok_iff.mp h'
    rw [hheight', hheight, hsame]

/-- **Only the width of a screen can be refused, and every size given is fit to draw on it.**  A
screen is refused exactly when its width is not finite or is negative; the size of a chart on any
other one is not negative, whatever lengths the chart declares and whatever padding is asked for. -/
theorem mobile_fits (width height : Option Dimension) (deviceWidth padding : Binary64) :
    (∀ fault, mobile width height deviceWidth padding = .error fault ↔
      (deviceWidth.isFinite = false ∨ deviceWidth < 0) ∧ fault = ⟨deviceWidth, 0⟩) ∧
    ∀ size, mobile width height deviceWidth padding = .ok size →
      FitsScreen width height deviceWidth padding size :=
  ⟨fun _ => mobile_eq_error_iff, fun _ => fitsScreen_of_mobile⟩

/-- Zero percent of an infinite width is no number, and comes out as no height. -/
example : mobile (some (.px (.infinite false))) (some (.percent 0)) 375 Binary64.nan =
    .ok ⟨.infinite false, 0⟩ := by decide +kernel

end Viewport
end Charting
