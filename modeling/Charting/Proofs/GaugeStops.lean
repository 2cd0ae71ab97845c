import Charting.Proofs.Rounding.Order
import Charting.Proofs.RoundTrip.Number
import Charting.Proofs.Validation
import Charting.Series.Gauge

/-! # The stops of a gauge

The arc of a gauge is coloured up to stops.  `GaugeProps.StopsFit` says what is asked of them: they
lie on the arc; with zones there is one for each zone, at the end of the zone and in the order of
the ends; and without zones the colours of the arc share it evenly.

All places come from rounded arithmetic, which keeps the order of numbers
(`Number.Binary64.div_le_div_right` and its neighbours), so the stops are where they have to be as
long as the least and the largest value of the gauge have a finite difference.  The checks look at
both values alone, though.  Where the difference is infinite, every zone whose end is finitely far
from the least value has its stop at the very beginning of the arc, and one that is infinitely far
has its stop nowhere: its place is a NaN.  `Props.stops_fit_iff` is the exact condition.
-/
namespace Charting

open Number

/-! ## What is asked of stops -/

/-- A place from the beginning of the arc to its end. -/
def ArcStop.IsOnArc (s : ArcStop) : Prop :=
  s.offset.isFinite = true ∧ 0 ≤ s.offset ∧ s.offset ≤ 1

/-- Colours that share the arc evenly. -/
structure ArcStop.ShareEvenly (stops : List ArcStop) (colors : List String) : Prop where
  inColor : stops.map (·.color) = colors
  offsets : stops.map (·.offset) =
    (List.range colors.length).map fun index => .ofNat (index + 1) / .ofNat colors.length
  ordered : (stops.map (·.offset)).Pairwise (· ≤ ·)
  /-- The last colour goes up to the very end. -/
  last : stops.getLast?.map (·.offset) = some 1

namespace GaugeProps

/-- Stops at the ends of zones. -/
structure StopsFollowZones (g : GaugeProps) (stops : List ArcStop) : Prop where
  /-- Each zone has one stop, in its colour and at its position. -/
  colors : stops.map (·.color) = g.zones.map (·.color)
  low : ∀ row ∈ g.zones.zip stops, row.1.upTo ≤ g.min → (row.2.offset == 0) = true
  high : ∀ row ∈ g.zones.zip stops, g.max ≤ row.1.upTo → row.2.offset = 1
  ordered : ∀ a ∈ g.zones.zip stops, ∀ b ∈ g.zones.zip stops,
    a.1.upTo ≤ b.1.upTo → a.2.offset ≤ b.2.offset

/-- Stops as a gauge needs them. -/
structure StopsFit (g : GaugeProps) (stops : List ArcStop) : Prop where
  ne_nil : stops ≠ []
  onArc : ∀ s ∈ stops, s.IsOnArc
  zones : g.zones ≠ [] → g.StopsFollowZones stops
  each : g.zones = [] → ∀ colors, g.color = some (.each colors) →
    ArcStop.ShareEvenly stops colors
  /-- Without a list of colours one colour goes up to the end. -/
  single : g.zones = [] → (∀ colors, g.color ≠ some (.each colors)) →
    ∃ color, stops = [⟨1, color⟩]

/-- The least value lies below the largest one.  Both are finite, but their difference need not be. -/
structure HasBounds (g : GaugeProps) : Prop where
  min : g.min.isFinite = true
  max : g.max.isFinite = true
  lt : g.min < g.max

/-- There are no more colours than a machine word can count. -/
def HasCountableColors (g : GaugeProps) : Prop :=
  ∀ colors, g.color = some (.each colors) → FitsWord colors.length

theorem hasBounds_of_isValidGauge {g : GaugeProps} (h : Props.IsValidGauge g) : g.HasBounds := by
  obtain ⟨⟨hmin, hmax⟩, hlt⟩ : (g.min.isFinite = true ∧ g.max.isFinite = true) ∧ g.min < g.max := by
    simpa only [Bool.and_eq_true, decide_eq_true_eq] using h.bounds
  exact ⟨hmin, hmax, hlt⟩

end GaugeProps

theorem ArcStop.isOnArc_of_le {offset : Binary64} (hlow : 0 ≤ offset) (hhigh : offset ≤ 1)
    (color : String) : IsOnArc ⟨offset, color⟩ :=
  ⟨Binary64.isFinite_of_le_of_le Binary64.isFinite_zero Binary64.isFinite_one hlow hhigh, hlow,
    hhigh⟩

/-! ## Colours at even distances -/

section Even

variable {colors : List String}

theorem isFinite_ofNat_of_fitsWord {n : Nat} (hcount : FitsWord n) :
    (Binary64.ofNat n).isFinite = true := by
  have hlimit : (n : Int) < 18446744073709551616 := hcount.2
  exact Binary64.isFinite_ofNat (by omega)

/-- A part of a whole, both counted. -/
theorem ArcStop.isOnArc_ofNat_div {m n : Nat} (hn : 0 < n) (hmn : m ≤ n) (hcount : FitsWord n)
    (color : String) : IsOnArc ⟨.ofNat m / .ofNat n, color⟩ := by
  have hfinite := isFinite_ofNat_of_fitsWord hcount
  have hpos := Binary64.ofNat_pos hn
  have hlow := Binary64.zero_le_div hfinite hpos (Binary64.zero_le_ofNat m)
  have hhigh := Binary64.div_le_one hfinite hpos (Binary64.ofNat_le_ofNat hmn)
  exact isOnArc_of_le hlow hhigh color

namespace GaugeProps

theorem getElem?_evenStops (index : Nat) :
    (evenStops colors)[index]? =
      colors[index]?.map fun color => ⟨.ofNat (index + 1) / .ofNat colors.length, color⟩ := by
  rw [evenStops, List.getElem?_mapIdx]

theorem map_offset_evenStops :
    (evenStops colors).map (·.offset) =
      (List.range colors.length).map fun index => .ofNat (index + 1) / .ofNat colors.length := by
  refine List.ext_getElem? fun index => ?_
  rw [List.getElem?_map, List.getElem?_map, getElem?_evenStops, Option.map_map]
  by_cases h : index < colors.length
  · rw [List.getElem?_eq_getElem h, List.getElem?_range h, Option.map_some, Option.map_some,
      Function.comp_apply]
  · have hrange : (List.range colors.length).length ≤ index := by
      rw [List.length_range]
      omega
    rw [List.getElem?_eq_none (by omega), List.getElem?_eq_none hrange, Option.map_none,
      Option.map_none]

theorem isOnArc_of_mem_evenStops (hcount : FitsWord colors.length) :
    ∀ s ∈ evenStops colors, s.IsOnArc := by
  intro s hs
  obtain ⟨index, hindex, rfl⟩ := List.mem_mapIdx.mp hs
  exact ArcStop.isOnArc_ofNat_div (by omega) (by omega) hcount _

theorem shareEvenly_evenStops (hne : colors ≠ []) (hcount : FitsWord colors.length) :
    ArcStop.ShareEvenly (evenStops colors) colors := by
  have hlength : 0 < colors.length := List.length_pos_iff.mpr hne
  have hfinite := isFinite_ofNat_of_fitsWord hcount
  have hpos := Binary64.ofNat_pos hlength
  constructor
  case inColor =>
    refine List.ext_getElem? fun index => ?_
    rw [List.getElem?_map, getElem?_evenStops, Option.map_map]
    exact Option.map_id' ..
  case offsets => exact map_offset_evenStops
  case ordered =>
    rw [map_offset_evenStops, List.pairwise_map]
    refine List.pairwise_lt_range.imp fun {a b} hab => ?_
    exact Binary64.div_le_div_right hfinite hpos (Binary64.ofNat_le_ofNat (by omega))
  case last =>
    have hlast : (evenStops colors).length - 1 = colors.length - 1 := by simp [evenStops]
    rw [List.getLast?_eq_getElem?, hlast, getElem?_evenStops,
      List.getElem?_eq_getElem (by omega), Nat.sub_add_cancel hlength, Option.map_some,
      Option.map_some, Binary64.div_self hfinite hpos]

end GaugeProps

end Even

/-! ## Ends of zones -/

namespace GaugeProps

section Offset

variable {g : GaugeProps} (hbounds : g.HasBounds)
include hbounds

theorem HasBounds.span_pos : 0 < g.max - g.min :=
  Binary64.sub_pos hbounds.min hbounds.max hbounds.lt

theorem offset_eq (value : Binary64) :
    g.offset value = ((value - g.min) / (g.max - g.min)).clamp 0 1 := by
  unfold offset
  dsimp only
  rw [if_pos hbounds.span_pos]

section Finite

variable (hspan : (g.max - g.min).isFinite = true) {value other : Binary64}
  (hvalue : value.isFinite = true)
include hspan hvalue

theorem offset_le_offset (hother : other.isFinite = true) (h : value ≤ other) :
    g.offset value ≤ g.offset other := by
  have hpos := hbounds.span_pos
  have hdiff := Binary64.sub_le_sub_right hvalue hother hbounds.min h
  rw [offset_eq hbounds, offset_eq hbounds]
  exact Binary64.clamp_le_clamp Binary64.zero_le_one (Binary64.div_le_div_right hspan hpos hdiff)

theorem isOnArc_offset (color : String) : ArcStop.IsOnArc ⟨g.offset value, color⟩ := by
  have hpos := hbounds.span_pos
  have hdiff := Binary64.sub_le_sub_right hvalue hvalue hbounds.min
    (Binary64.le_refl (Binary64.isNaN_eq_false_of_isFinite hvalue))
  have hnan := (Binary64.isNaN_eq_false_of_le (Binary64.div_le_div_right hspan hpos hdiff)).1
  rw [offset_eq hbounds]
  exact ArcStop.isOnArc_of_le (Binary64.le_clamp Binary64.zero_le_one hnan)
    (Binary64.clamp_le Binary64.zero_le_one hnan) color

theorem offset_beq_zero (h : value ≤ g.min) : (g.offset value == 0) = true := by
  have hpos := hbounds.span_pos
  have hdiff := Binary64.sub_le_zero hvalue hbounds.min h
  rw [offset_eq hbounds]
  exact Binary64.clamp_beq_low Binary64.zero_le_one (Binary64.div_le_zero hspan hpos hdiff)

theorem offset_eq_one (h : g.max ≤ value) : g.offset value = 1 := by
  have hpos := hbounds.span_pos
  have hdiff := Binary64.sub_le_sub_right hbounds.max hvalue hbounds.min h
  rw [offset_eq hbounds]
  exact Binary64.eq_one_of_beq
    (Binary64.clamp_beq_high Binary64.zero_le_one (Binary64.one_le_div hspan hpos hdiff))

end Finite

section Infinite

variable (hspan : (g.max - g.min).isFinite = false) {value : Binary64}
include hspan

theorem span_eq_infinite : g.max - g.min = .infinite false :=
  Binary64.eq_infinite_of_pos hspan hbounds.span_pos

/-- What is finitely far from the least value is nowhere but at the beginning. -/
theorem offset_eq_zero_of_isFinite (hdiff : (value - g.min).isFinite = true) :
    ∃ negative, g.offset value = .zero negative := by
  rw [offset_eq hbounds, span_eq_infinite hbounds hspan, Binary64.div_infinite hdiff,
    Binary64.clamp_eq_self (Binary64.le_zero _)
      (Binary64.le_trans (Binary64.zero_le _) Binary64.zero_le_one)]
  exact ⟨_, rfl⟩

/-- What is infinitely far from the least value has no place. -/
theorem offset_eq_nan (hdiff : (value - g.min).isFinite = false) : g.offset value = .nan := by
  rw [offset_eq hbounds, span_eq_infinite hbounds hspan,
    Binary64.div_infinite_of_not_isFinite hdiff, Binary64.clamp_nan]

/-- The ends that are not below the largest value are infinitely far too. -/
theorem isFinite_sub_eq_false (hvalue : value.isFinite = true) (h : g.max ≤ value) :
    (value - g.min).isFinite = false := by
  have hpos := Binary64.le_of_lt hbounds.span_pos
  have hle := Binary64.sub_le_sub_right hbounds.max hvalue hbounds.min h
  refine Bool.eq_false_iff.mpr fun hdiff => ?_
  rw [Binary64.isFinite_of_le_of_le Binary64.isFinite_zero hdiff hpos hle] at hspan
  exact Bool.noConfusion hspan

end Infinite

end Offset

/-! ## All stops -/

section Stops

variable {g : GaugeProps} (palette : Palette)

theorem stops_of_zones (hzones : g.zones ≠ []) :
    g.stops palette = g.zones.map fun z => ⟨g.offset z.upTo, z.color⟩ := by
  unfold stops
  split
  · rename_i hnil
    exact absurd hnil hzones
  · rfl

theorem stops_of_each {colors : List String} (hzones : g.zones = [])
    (hcolors : g.color = some (.each colors)) (hne : colors ≠ []) :
    g.stops palette = evenStops colors := by
  obtain ⟨color, rest, rfl⟩ := List.exists_cons_of_ne_nil hne
  unfold stops
  rw [hzones, hcolors]

/-- What is asked of stops at the ends of zones, for each zone and each two of them. -/
theorem stopsFit_of_offsets (hzones : g.zones ≠ [])
    (honArc : ∀ z ∈ g.zones, ArcStop.IsOnArc ⟨g.offset z.upTo, z.color⟩)
    (hlow : ∀ z ∈ g.zones, z.upTo ≤ g.min → (g.offset z.upTo == 0) = true)
    (hhigh : ∀ z ∈ g.zones, g.max ≤ z.upTo → g.offset z.upTo = 1)
    (hordered : ∀ a ∈ g.zones, ∀ b ∈ g.zones, a.upTo ≤ b.upTo →
      g.offset a.upTo ≤ g.offset b.upTo) :
    g.StopsFit (g.stops palette) := by
  have hrow : ∀ row ∈ g.zones.zip (g.stops palette),
      row.1 ∈ g.zones ∧ row.2.offset = g.offset row.1.upTo := by
    intro row hmem
    rw [stops_of_zones palette hzones, ← List.map_prod_left_eq_zip] at hmem
    obtain ⟨z, hz, rfl⟩ := List.mem_map.mp hmem
    refine ⟨hz, ?_⟩
    dsimp only
  constructor
  case ne_nil => rwa [stops_of_zones palette hzones, Ne, List.map_eq_nil_iff]
  case onArc =>
    rw [stops_of_zones palette hzones]
    exact List.forall_mem_map.mpr honArc
  case zones =>
    intro _
    constructor
    case colors => rw [stops_of_zones palette hzones, List.map_map]; rfl
    case low =>
      intro row hmem h
      rw [(hrow row hmem).2]
      exact hlow _ (hrow row hmem).1 h
    case high =>
      intro row hmem h
      rw [(hrow row hmem).2]
      exact hhigh _ (hrow row hmem).1 h
    case ordered =>
      intro a ha b hb h
      rw [(hrow a ha).2, (hrow b hb).2]
      exact hordered _ (hrow a ha).1 _ (hrow b hb).1 h
  case each => exact fun hnil => absurd hnil hzones
  case single => exact fun hnil => absurd hnil hzones

/-- Without zones there is no arithmetic that could fail. -/
theorem stopsFit_of_noZones (hzones : g.zones = [])
    (hcolor : Props.ifGiven g.color Props.hasColors = true) (hcount : g.HasCountableColors) :
    g.StopsFit (g.stops palette) := by
  by_cases heach : ∃ colors, g.color = some (.each colors)
  case pos =>
    obtain ⟨colors, hcolors⟩ := heach
    have hne : colors ≠ [] := Props.colors_ne_nil_of_ifGiven hcolor hcolors
    have hshare := shareEvenly_evenStops hne (hcount colors hcolors)
    rw [stops_of_each palette hzones hcolors hne]
    constructor
    case ne_nil => exact mt List.mapIdx_eq_nil_iff.mp hne
    case onArc => exact isOnArc_of_mem_evenStops (hcount colors hcolors)
    case zones => exact absurd hzones
    case each =>
      intro _ other hother
      rw [hcolors] at hother
      cases hother
      exact hshare
    case single => exact fun _ hnone => absurd hcolors (hnone colors)
  case neg =>
    have hsingle : ∃ color, g.stops palette = [⟨1, color⟩] := by
      unfold stops
      rw [hzones]
      dsimp only
      split
      · exact ⟨_, rfl⟩
      · rename_i hcolors
        exact absurd ⟨_, hcolors⟩ heach
      · exact ⟨_, rfl⟩
    obtain ⟨color, hstops⟩ := hsingle
    rw [hstops]
    constructor
    case ne_nil => exact List.cons_ne_nil _ _
    case onArc =>
      rw [List.forall_mem_singleton]
      exact ArcStop.isOnArc_of_le Binary64.zero_le_one
        (Binary64.le_refl (Binary64.isNaN_eq_false_of_isFinite Binary64.isFinite_one)) color
    case zones => exact absurd hzones
    case each => exact fun _ colors hcolors => absurd ⟨colors, hcolors⟩ heach
    case single => exact fun _ _ => ⟨color, rfl⟩

section Ends

variable (hbounds : g.HasBounds) (hends : ∀ z ∈ g.zones, z.upTo.isFinite = true)
  (hzones : g.zones ≠ [])
include hbounds hends hzones

theorem stopsFit_of_finite (hspan : (g.max - g.min).isFinite = true) :
    g.StopsFit (g.stops palette) := by
  refine stopsFit_of_offsets palette hzones ?onArc ?low ?high ?ordered
  case onArc => exact fun z hz => isOnArc_offset hbounds hspan (hends z hz) z.color
  case low => exact fun z hz => offset_beq_zero hbounds hspan (hends z hz)
  case high => exact fun z hz => offset_eq_one hbounds hspan (hends z hz)
  case ordered =>
    exact fun a ha b hb => offset_le_offset hbounds hspan (hends a ha) (hends b hb)

theorem stopsFit_of_infinite (hspan : (g.max - g.min).isFinite = false)
    (hdiffs : ∀ z ∈ g.zones, (z.upTo - g.min).isFinite = true) :
    g.StopsFit (g.stops palette) := by
  have hoffset : ∀ z ∈ g.zones, ∃ negative, g.offset z.upTo = .zero negative := fun z hz =>
    offset_eq_zero_of_isFinite hbounds hspan (hdiffs z hz)
  refine stopsFit_of_offsets palette hzones ?onArc ?low ?high ?ordered
  case onArc =>
    intro z hz
    obtain ⟨negative, heq⟩ := hoffset z hz
    rw [heq]
    exact ArcStop.isOnArc_of_le (Binary64.le_zero _)
      (Binary64.le_trans (Binary64.zero_le _) Binary64.zero_le_one) z.color
  case low =>
    intro z hz _
    obtain ⟨negative, heq⟩ := hoffset z hz
    rw [heq]
    exact Binary64.beq_of_le_of_le (Binary64.zero_le _) (Binary64.le_zero _)
  case high =>
    intro z hz h
    have hfar := isFinite_sub_eq_false hbounds hspan (hends z hz) h
    rw [hdiffs z hz] at hfar
    exact Bool.noConfusion hfar
  case ordered =>
    intro a ha b hb _
    obtain ⟨negative, heq⟩ := hoffset a ha
    obtain ⟨negative', heq'⟩ := hoffset b hb
    rw [heq, heq']
    exact Binary64.le_trans (Binary64.zero_le _) (Binary64.le_zero _)

omit hends in
theorem isFinite_of_stopsFit (hspan : (g.max - g.min).isFinite = false)
    (hfit : g.StopsFit (g.stops palette)) : ∀ z ∈ g.zones, (z.upTo - g.min).isFinite = true := by
  intro z hz
  refine eq_true_of_ne_false fun hdiff => ?_
  have honArc := hfit.onArc
  rw [stops_of_zones palette hzones] at honArc
  have hfinite := (List.forall_mem_map.mp honArc z hz).1
  dsimp only at hfinite
  rw [offset_eq_nan hbounds hspan hdiff] at hfinite
  exact Bool.noConfusion hfinite

end Ends

end Stops

end GaugeProps

/-- **The stops of an accepted gauge fit exactly when no zone is lost to infinity**: either the
least and the largest value have a finite difference, or the end of no zone is infinitely far from
the least value. -/
theorem Props.stops_fit_iff {p : Props} (hvalid : p.validate = .ok ())
    (hcount : p.gauge.HasCountableColors) (palette : Palette) :
    p.gauge.StopsFit (p.gauge.stops palette) ↔
      (p.gauge.max - p.gauge.min).isFinite = true ∨
        ∀ z ∈ p.gauge.zones, (z.upTo - p.gauge.min).isFinite = true := by
  have hgauge := (Props.validate_eq_ok_iff.mp hvalid).gauge
  have hbounds := GaugeProps.hasBounds_of_isValidGauge hgauge
  have hends : ∀ z ∈ p.gauge.zones, z.upTo.isFinite = true := List.all_eq_true.mp hgauge.zones
  by_cases hzones : p.gauge.zones = []
  case pos =>
    refine iff_of_true (GaugeProps.stopsFit_of_noZones palette hzones hgauge.color hcount) ?_
    rw [hzones]
    exact Or.inr (List.forall_mem_nil _)
  case neg =>
    cases hspan : (p.gauge.max - p.gauge.min).isFinite with
    | true =>
      exact iff_of_true
        (GaugeProps.stopsFit_of_finite palette hbounds hends hzones hspan)
        (Or.inl rfl)
    | false =>
      rw [or_iff_right Bool.false_ne_true]
      exact ⟨GaugeProps.isFinite_of_stopsFit palette hbounds hzones hspan,
        GaugeProps.stopsFit_of_infinite palette hbounds hends hzones hspan⟩

/-- A gauge from 0 to 100 in three zones, the last of which ends beyond. -/
def threeZones : Props :=
  { gauge := { zones := [⟨30, "#22c55e"⟩, ⟨70, "#f59e0b"⟩, ⟨120, "#ef4444"⟩] } }

theorem Props.stops_fit_iff_threeZones :
    threeZones.validate = .ok () ∧ threeZones.gauge.HasCountableColors ∧
      threeZones.gauge.StopsFit (threeZones.gauge.stops Scheme.standard.colors) := by
  have hvalid : threeZones.validate = .ok () := Props.validate_eq_ok_iff.mpr (by decide +kernel)
  have hcount : threeZones.gauge.HasCountableColors := fun colors h => nomatch h
  exact ⟨hvalid, hcount, (Props.stops_fit_iff hvalid hcount _).mpr (.inl (by decide +kernel))⟩

/-- A gauge whose least and largest value are too far apart for a finite difference. -/
def widestGauge : Props :=
  { gauge := { min := -1e308, max := 1e308, zones := [⟨1e308, "#ef4444"⟩] } }

/-- The zone that ends at the largest value has a stop that is not a number. -/
theorem widest_gauge_loses_stop :
    widestGauge.validate = .ok () ∧
      widestGauge.gauge.stops Scheme.standard.colors = [⟨.nan, "#ef4444"⟩] ∧
      ¬widestGauge.gauge.StopsFit (widestGauge.gauge.stops Scheme.standard.colors) := by
  have hvalid : widestGauge.validate = .ok () := Props.validate_eq_ok_iff.mpr (by decide +kernel)
  have hstops : widestGauge.gauge.stops Scheme.standard.colors = [⟨.nan, "#ef4444"⟩] := by
    decide +kernel
  refine ⟨hvalid, hstops, fun hfit => ?_⟩
  have hfinite := (hfit.onArc ⟨.nan, "#ef4444"⟩ (by rw [hstops]; simp)).1
  exact Bool.noConfusion hfinite

end Charting
