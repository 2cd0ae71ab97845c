import Charting.Proofs.AreaFills
import Charting.Proofs.Blocks
import Charting.Proofs.Finite.Numbers
import Charting.Proofs.GaugeStops
import Charting.Proofs.RadarScale

/-! # Fallbacks that no checked properties reach

Where a chart is compiled, everything that could be unusable has a fallback: an empty palette gives
way to the default scheme, an opacity that hides an area to the default one, a gauge without a span
puts every zone at its end.  The checks of properties are made elsewhere, and each in its own words.

Together they leave nothing for the fallbacks to do: whatever is given comes out as it is, and what
the defaults stand in for is what is missing altogether.  Only the width of bars is bounded on
purpose (`Number.Binary64.IsBarWidth`).  That a gauge has a span is the one place where this needs
more than reading the checks: the difference of its bounds must not vanish by rounding, however near
they are (`Number.Binary64.sub_pos`).
-/
namespace Charting

open Number

/-! ## What is given and what comes out -/

/-- A palette is the one that is asked for, and colours are taken from nowhere else. -/
structure Props.PaintsWith (p : Props) (palette : Palette) : Prop where
  ne_nil : palette ≠ []
  given : ∀ colors, p.colors = some colors → palette = colors
  named : p.colors = none → palette = p.scheme.colors
  taken : ∀ index, palette[index % palette.length]? = some (palette.colorAt index)

/-- The width of bars is the one that is asked for as far as bars may be wide. -/
structure Number.Binary64.IsBarWidth (width : Binary64) (asked : Option Binary64) : Prop where
  pos : 0 < width
  le : width ≤ 40
  standard : asked = none → width = 40
  kept : ∀ x, asked = some x → x ≤ 40 → width = x
  capped : ∀ x, asked = some x → 40 ≤ x → width = 40

/-- A series has what the properties give for series of its kind. -/
def Series.ShowsGiven (p : Props) : Series → Prop
  | line s => ∀ x, p.area.opacity = some x → ∀ area ∈ s.area, area.opacity = x
  | bar s => s.maxWidth.IsBarWidth p.bar.maxWidth
  | scatter s => ∀ x, p.scatter.symbolSize = some x → s.symbolSize = x
  | radar s => ∀ x, p.radar.fillOpacity = some x → s.opacity = x
  | pie _ | gauge _ => True

/-- An option has what the properties give for it. -/
structure ChartOption.ShowsGiven (o : ChartOption) (p : Props) : Prop where
  color : o.color = p.context.palette
  series : ∀ s ∈ o.series, s.ShowsGiven p
  spokes : ∀ x, p.radar.maxValue = some x →
    ∀ frame ∈ o.radar, ∀ indicator ∈ frame.indicators, indicator.max = x

/-- A gauge has a span to divide, and a colour for every part of a list of colours. -/
structure GaugeProps.IsDrawable (g : GaugeProps) : Prop where
  span : 0 < g.max - g.min
  offset : ∀ value, g.offset value = ((value - g.min) / (g.max - g.min)).clamp 0 1
  colors_ne_nil : ∀ colors, g.color = some (.each colors) → colors ≠ []
  /-- Zones come before colours, so the colours are those of a gauge without zones. -/
  even : ∀ colors palette, g.zones = [] → g.color = some (.each colors) →
    g.stops palette = evenStops colors

/-! ## Palettes -/

namespace Props

variable {p : Props}

/-- The empty palette, for which a scheme would stand in, is refused. -/
theorem IsValid.palette_eq (valid : p.IsValid) : p.palette = p.colors.getD p.scheme.colors := by
  unfold palette
  cases hcolors : p.colors with
  | none => rfl
  | some colors =>
    have hgiven := ifGiven_some valid.colors hcolors
    cases colors with
    | nil => cases hgiven
    | cons color rest => rfl

theorem IsValid.paintsWith (valid : p.IsValid) : p.PaintsWith p.context.palette := by
  change p.PaintsWith p.palette
  constructor
  case ne_nil => exact p.palette_ne_nil
  case given =>
    intro colors hcolors
    rw [valid.palette_eq, hcolors, Option.getD_some]
  case named =>
    intro hnone
    rw [valid.palette_eq, hnone, Option.getD_none]
  case taken => exact fun index => Palette.getElem?_mod index p.palette_ne_nil

end Props

/-! ## Series -/

/-- The width that is asked for can be used, so it is bounded and nothing else. -/
theorem Number.Binary64.isBarWidth_min {asked : Option Binary64}
    (h : Props.ifGiven asked Props.isPositive = true) :
    ((asked.getD maxBarWidth).min maxBarWidth).IsBarWidth asked := by
  have hforty : (0 : Binary64) < 40 := ofNat_pos (by decide)
  have hfinite : (40 : Binary64).isFinite = true := isFinite_literal 40 (by decide)
  have hnumber := isNaN_eq_false_of_isFinite hfinite
  rw [maxBarWidth]
  by_cases hle : asked.getD 40 ≤ 40
  · rw [Binary64.min_eq_left hle]
    constructor
    case pos =>
      cases asked with
      | none => exact hforty
      | some x => exact (Props.isPositive_iff.mp h).2
    case le => exact hle
    case standard =>
      rintro rfl
      rfl
    case kept =>
      rintro x rfl -
      rfl
    case capped =>
      rintro x rfl hge
      obtain ⟨hx, hpos⟩ := Props.isPositive_iff.mp h
      exact eq_of_le_of_le hx hfinite hpos hforty hle hge
  · cases asked with
    | none => exact absurd (le_refl hnumber) hle
    | some x =>
      rw [Option.getD_some] at hle ⊢
      obtain ⟨hx, -⟩ := Props.isPositive_iff.mp h
      rw [Binary64.min_eq_right ((not_le_iff (isNaN_eq_false_of_isFinite hx) hnumber).mp hle)]
      constructor
      case pos => exact hforty
      case le => exact le_refl hnumber
      case standard => exact fun _ => rfl
      case kept =>
        intro y hy hyle
        obtain rfl := Option.some.inj hy
        exact absurd hyle hle
      case capped => exact fun _ _ _ => rfl

theorem LineSeries.opacity_of_mem_area {d : Dataset} {labels : List String} {color : String}
    {filled : Bool} {style : SeriesStyle} {area : AreaStyle}
    (h : area ∈ (ofDataset d labels color filled style).area) :
    area.opacity = style.visibleAreaOpacity := by
  unfold ofDataset at h
  dsimp only at h
  split at h
  · obtain rfl := Option.some.inj h
    rfl
  · cases h

namespace Series

variable {p : Props} (valid : p.IsValid)
include valid

/-- An opacity that passed its checks is visible, and so it is kept. -/
theorem showsGiven_line (d : Dataset) (labels : List String) (color : String) (filled : Bool) :
    (line (.ofDataset d labels color filled (.ofProps p p.context))).ShowsGiven p := by
  intro x hx area harea
  obtain ⟨⟨-, hpos⟩, hle⟩ := Props.isOpacity_iff.mp (Props.ifGiven_some valid.areaOpacity hx)
  have hasked : (SeriesStyle.ofProps p p.context).areaOpacity = x := by
    rw [SeriesStyle.ofProps, hx, Option.getD_some]
  have hvisible := (SeriesStyle.ofProps p p.context).visibleFor_visibleAreaOpacity
  rw [hasked] at hvisible
  rw [LineSeries.opacity_of_mem_area harea]
  exact hvisible.kept hpos hle

theorem showsGiven_ofDataset (family : Family) (labels : List String) (index : Nat)
    (d : Dataset) :
    (ofDataset family labels (.ofProps p p.context) index d).ShowsGiven p := by
  cases family with
  | line | area => exact showsGiven_line valid d labels _ _
  | bar => exact Binary64.isBarWidth_min valid.barMaxWidth
  | mixed =>
    cases hkind : d.kind.getD .line with
    | line | area =>
      simp only [ofDataset, hkind]
      exact showsGiven_line valid d labels _ _
    | bar =>
      simp only [ofDataset, hkind]
      exact Binary64.isBarWidth_min valid.barMaxWidth
  | scatter =>
    intro x hx
    change p.scatter.symbolSize.getD _ = x
    rw [hx, Option.getD_some]
  | radar =>
    intro x hx
    change p.radar.fillOpacity.getD _ = x
    rw [hx, Option.getD_some]
  | pie | donut | gauge => trivial

theorem showsGiven_of_mem_ofData {d : Data} {family : Family} {s : Series}
    (h : s ∈ ofData d family (.ofProps p p.context)) : s.ShowsGiven p := by
  obtain ⟨index, source, -, rfl⟩ := mem_ofData.mp h
  exact showsGiven_ofDataset valid family d.labels index source

end Series

/-! ## Options -/

theorem Compile.max_of_mem_radarFrame {p : Props} (valid : p.IsValid) {d : Data} {x : Binary64}
    (hx : p.radar.maxValue = some x) :
    ∀ indicator ∈ (radarFrame d p p.context).indicators, indicator.max = x := by
  have hasked : AsksFor p.radar.maxValue x :=
    ⟨hx, Props.isPositive_iff.mp (Props.ifGiven_some valid.radarMaxValue hx)⟩
  intro indicator hmem
  obtain ⟨label, -, rfl⟩ := List.mem_map.mp hmem
  exact indicatorMax_of_asksFor hasked

theorem Compiled.showsGiven {p : Props} (valid : p.IsValid) {family : Family} {data : Option Data}
    {o : ChartOption} (h : Compiled p family data o) : o.ShowsGiven p := by
  cases h with
  | cartesian axes filled =>
    exact ⟨rfl, fun s => Series.showsGiven_of_mem_ofData valid, fun x hx frame hframe => by
      cases hframe⟩
  | @pieOf _ d first round head filled =>
    refine ⟨rfl, fun s => ?_, fun x hx frame hframe => by cases hframe⟩
    exact Series.showsGiven_of_mem_ofData (d := ⟨d.labels, [first]⟩) valid
  | radar filled =>
    refine ⟨rfl, fun s => Series.showsGiven_of_mem_ofData valid, fun x hx frame hframe => ?_⟩
    obtain rfl := Option.some.inj hframe
    exact Compile.max_of_mem_radarFrame valid hx
  | gauge =>
    refine ⟨rfl, fun s hs => ?_, fun x hx frame hframe => by cases hframe⟩
    obtain rfl := List.mem_singleton.mp hs
    trivial

theorem GaugeProps.isDrawable {g : GaugeProps} (h : Props.IsValidGauge g) : g.IsDrawable := by
  have hbounds := hasBounds_of_isValidGauge h
  have hne : ∀ colors, g.color = some (.each colors) → colors ≠ [] :=
    fun _ => Props.colors_ne_nil_of_ifGiven h.color
  exact
    { span := hbounds.span_pos
      offset := offset_eq hbounds
      colors_ne_nil := hne
      even := fun colors palette hzones hcolors =>
        stops_of_each palette hzones hcolors (hne colors hcolors) }

/-- **Properties that pass their checks leave nothing to fall back to.**  The palette is the one
that is asked for, every number that is given for an option comes out in it, and a gauge has a span
and as many colours as it takes. -/
theorem Props.given_is_shown {p : Props} (h : p.validate = .ok ()) :
    p.PaintsWith p.context.palette ∧
    (∀ family data o, compile family data p = .ok (some o) → o.ShowsGiven p) ∧
    p.gauge.IsDrawable := by
  have valid := validate_eq_ok_iff.mp h
  refine ⟨valid.paintsWith, ?_, GaugeProps.isDrawable valid.gauge⟩
  intro family data o ho
  exact (compile_eq_some_iff.mp ho).2.showsGiven valid

/-- Properties with everything that could be fallen back from, and a gauge with the least span. -/
def everythingGiven : Props :=
  { colors := some ["#111111"]
    area := { opacity := some 0.75 }
    bar := { maxWidth := some 64 }
    radar := { fillOpacity := some 1, maxValue := some 9 }
    scatter := { symbolSize := some 4 }
    gauge := { min := 0, max := 5e-324, color := some (.each ["#222222", "#333333"]) } }

theorem Props.given_is_shown_everythingGiven :
    everythingGiven.validate = .ok () ∧
      everythingGiven.PaintsWith ["#111111"] ∧
      (∀ family data o, compile family data everythingGiven = .ok (some o) →
        o.ShowsGiven everythingGiven) ∧
      everythingGiven.gauge.IsDrawable := by
  have hvalid : everythingGiven.validate = .ok () := validate_eq_ok_iff.mpr (by decide +kernel)
  exact ⟨hvalid, given_is_shown hvalid⟩

end Charting
