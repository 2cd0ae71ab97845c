import Charting.Proofs.Axes
import Charting.Proofs.Rounding.Order

/-! # The areas under lines

Three things can ask for the area under a line: the family of the chart, the kind of the dataset in
a mixed chart, and the dataset itself.  Bars have no area, whatever asks for one.

The settings of series can be made without the checks of properties, so the opacity that is asked
for may be anything at all; `Number.Binary64.VisibleFor` says what is shown instead of an opacity
that would hide the area.  What a renderer reads of an area is found in the JSON of its series
(`Series.FillsArea`).
-/
namespace Charting

open Number
open Json (member memberIf)

/-! ## What is asked for and what is shown -/

/-- Whether the area under the line of a dataset is asked for. -/
def Dataset.AsksForArea (d : Dataset) (family : Family) : Prop :=
  family = .area ∨ (family = .mixed ∧ d.kind = some .area) ∨ d.fill = some true

/-- An opacity that can be seen, and what it has to do with the one that is asked for. -/
structure Number.Binary64.VisibleFor (asked shown : Binary64) : Prop where
  isFinite : shown.isFinite = true
  pos : 0 < shown
  le_one : shown ≤ 1
  kept : 0 < asked → asked ≤ 1 → shown = asked
  capped : asked.isFinite = true → 1 < asked → shown = 1
  fallback : asked.isFinite = false ∨ ¬0 < asked → shown = defaultAreaOpacity

/-- A paint that runs straight down from one colour to another one. -/
structure Json.RunsDown (j : Json) (start finish : String) : Prop where
  type : j.at? ["type"] = some (.string "linear")
  top : j.at? ["x"] = some (.ofBinary64 0) ∧ j.at? ["y"] = some (.ofBinary64 0)
  bottom : j.at? ["x2"] = some (.ofBinary64 0) ∧ j.at? ["y2"] = some (.ofBinary64 1)
  stops : j.at? ["colorStops"] =
    some (.array [ColorStop.toJson ⟨0, start⟩, ColorStop.toJson ⟨1, finish⟩])

/-- An area as a renderer reads it, of the opacity that its series reports. -/
structure Json.ShowsArea (j : Json) (style : SeriesStyle) (color : String) (shown : Binary64) :
    Prop where
  opacity : j.at? ["opacity"] = some (.ofBinary64 shown)
  visible : style.areaOpacity.VisibleFor shown
  flat : style.areaGradient = false → j.at? ["color"] = some (.string color)
  fades : style.areaGradient = true →
    ∃ paint ∈ j.at? ["color"], paint.RunsDown color (Color.transparentVariant color)

/-- A series in a colour has an area if one is asked for and there is a line to be above it. -/
structure Series.FillsArea (s : Series) (asks : Prop) (style : SeriesStyle) (color : String) :
    Prop where
  appears : (s.toJson.at? ["areaStyle"]).isSome = true ↔ s.kind = "line" ∧ asks
  shown : ∀ area ∈ s.toJson.at? ["areaStyle"], area.ShowsArea style color s.areaOpacity
  bare : s.toJson.at? ["areaStyle"] = none → s.areaOpacity = 0

/-! ## What is shown -/

theorem SeriesStyle.visibleFor_visibleAreaOpacity (style : SeriesStyle) :
    style.areaOpacity.VisibleFor style.visibleAreaOpacity := by
  unfold visibleAreaOpacity
  generalize style.areaOpacity = asked
  by_cases h : asked.isFinite = true ∧ 0 < asked
  · obtain ⟨hfinite, hpos⟩ := h
    have hused : (asked.isFinite && decide (0 < asked)) = true := by simp [hfinite, hpos]
    have hunused : ¬(asked.isFinite = false ∨ ¬0 < asked) := by simp [hfinite, hpos]
    have hnumber := Binary64.isNaN_eq_false_of_isFinite hfinite
    have hone := Binary64.isNaN_eq_false_of_isFinite Binary64.isFinite_one
    rw [if_pos hused]
    by_cases hle : asked ≤ 1
    · rw [Binary64.min_eq_left hle]
      exact
        { isFinite := hfinite
          pos := hpos
          le_one := hle
          kept := fun _ _ => rfl
          capped := fun _ hlt => absurd hle ((Binary64.not_le_iff hnumber hone).mpr hlt)
          fallback := fun h => absurd h hunused }
    · rw [Binary64.min_eq_right ((Binary64.not_le_iff hnumber hone).mp hle)]
      exact
        { isFinite := Binary64.isFinite_one
          pos := Binary64.ofNat_pos Nat.one_pos
          le_one := Binary64.le_refl hone
          kept := fun _ h => absurd h hle
          capped := fun _ _ => rfl
          fallback := fun h => absurd h hunused }
  · have hunused : (asked.isFinite && decide (0 < asked)) = false := by simpa using h
    rw [hunused, if_neg Bool.false_ne_true]
    refine
      { isFinite := by decide +kernel
        pos := by decide +kernel
        le_one := by decide +kernel
        kept := ?kept
        capped := ?capped
        fallback := fun _ => rfl }
    case kept =>
      intro hpos hle
      have hbetween := Binary64.isFinite_of_le_of_le Binary64.isFinite_zero Binary64.isFinite_one
        (Binary64.le_of_lt hpos) hle
      exact absurd ⟨hbetween, hpos⟩ h
    case capped =>
      intro hfinite hlt
      have hpos := Binary64.lt_of_lt_of_le (Binary64.ofNat_pos Nat.one_pos) (Binary64.le_of_lt hlt)
      exact absurd ⟨hfinite, hpos⟩ h

theorem Gradient.runsDown_area (color : String) :
    (Gradient.area color).toJson.RunsDown color (Color.transparentVariant color) := by
  constructor
  case type => simp [Gradient.toJson]
  case top => simp [Gradient.toJson]
  case bottom => simp [Gradient.toJson, Gradient.area, Gradient.corner]
  case stops => simp [Gradient.toJson, Gradient.area, Gradient.stops]

theorem AreaStyle.showsArea_ofColor (color : String) (style : SeriesStyle) :
    (AreaStyle.ofColor color style).toJson.ShowsArea style color style.visibleAreaOpacity := by
  constructor
  case opacity => simp [toJson, ofColor]
  case visible => exact style.visibleFor_visibleAreaOpacity
  case flat =>
    intro hflat
    simp [toJson, ofColor, hflat, Fill.toJson]
  case fades =>
    intro hgradient
    refine ⟨(Gradient.area color).toJson, ?_, Gradient.runsDown_area color⟩
    simp [toJson, ofColor, hgradient, Fill.toJson]

/-! ## The area of one series -/

namespace Series

theorem areaOpacity_line (s : LineSeries) :
    (line s).areaOpacity = (s.area.map (·.opacity)).getD 0 := rfl

theorem at?_areaStyle_line (s : LineSeries) :
    (line s).toJson.at? ["areaStyle"] = s.area.map AreaStyle.toJson := by
  cases hstacked : s.stacked <;> simp [toJson, members, LineSeries.members, hstacked]

theorem at?_areaStyle_bar (s : BarSeries) : (bar s).toJson.at? ["areaStyle"] = none := by
  cases hstacked : s.stacked <;> simp [toJson, members, BarSeries.members, hstacked]

variable (labels : List String) (style : SeriesStyle) (color : String) (d : Dataset)

theorem fillsArea_bar (s : BarSeries) (asks : Prop) : (bar s).FillsArea asks style color := by
  have hbare := at?_areaStyle_bar s
  constructor
  case appears => simp [hbare, kind]
  case shown =>
    intro area harea
    rw [hbare] at harea
    cases harea
  case bare => exact fun _ => rfl

theorem fillsArea_line {asks : Prop} {filled : Bool}
    (h : asks ↔ filled = true ∨ d.fill = some true) :
    (line (.ofDataset d labels color filled style)).FillsArea asks style color := by
  have hat := at?_areaStyle_line (.ofDataset d labels color filled style)
  rw [h]
  by_cases hasks : filled = true ∨ d.fill = some true
  · have harea : (LineSeries.ofDataset d labels color filled style).area =
        some (.ofColor color style) :=
      if_pos (by simpa using hasks)
    have hopacity : (line (.ofDataset d labels color filled style)).areaOpacity =
        style.visibleAreaOpacity := by
      rw [areaOpacity_line, harea, Option.map_some, Option.getD_some, AreaStyle.ofColor]
    rw [harea, Option.map_some] at hat
    constructor
    case appears => simp [hat, kind, hasks]
    case shown =>
      intro area hmem
      rw [hat] at hmem
      obtain rfl := Option.some.inj hmem
      rw [hopacity]
      exact AreaStyle.showsArea_ofColor color style
    case bare =>
      intro hnone
      rw [hat] at hnone
      cases hnone
  · have harea : (LineSeries.ofDataset d labels color filled style).area = none :=
      if_neg (by simpa using hasks)
    rw [harea, Option.map_none] at hat
    constructor
    case appears => simp [hat, hasks]
    case shown =>
      intro area hmem
      rw [hat] at hmem
      cases hmem
    case bare =>
      intro _
      rw [areaOpacity_line, harea, Option.map_none, Option.getD_none]

end Series

/-! ## All series -/

theorem Dataset.asksForArea_iff (d : Dataset) (family : Family) :
    d.AsksForArea family ↔ d.drawnAs family = .area ∨ d.fill = some true := by
  unfold AsksForArea drawnAs
  by_cases hmixed : family = .mixed
  · subst hmixed
    rcases hkind : d.kind with _ | kind
    · simp [DatasetKind.family]
    · cases kind <;> simp [DatasetKind.family]
  · simp [hmixed]

/-- Charts that draw their datasets as lines, bars or areas. -/
theorem Dataset.drawnAs_cases (d : Dataset) {family : Family}
    (h : family ∈ [Family.line, .area, .bar, .mixed]) :
    d.drawnAs family = .line ∨ d.drawnAs family = .area ∨ d.drawnAs family = .bar := by
  unfold drawnAs
  by_cases hmixed : family = .mixed
  · rw [if_pos hmixed]
    cases d.kind.getD .line with
    | line => exact .inl rfl
    | area => exact .inr (.inl rfl)
    | bar => exact .inr (.inr rfl)
  · rw [if_neg hmixed]
    simpa [hmixed] using h

namespace Series

theorem fillsArea_ofDataset {family : Family} (h : family ∈ [Family.line, .area, .bar, .mixed])
    (labels : List String) (style : SeriesStyle) (index : Nat) (d : Dataset) :
    (ofDataset family labels style index d).FillsArea (d.AsksForArea family) style
      (d.resolveColor index style.context.palette) := by
  rw [← ofDataset_drawnAs, d.asksForArea_iff]
  rcases d.drawnAs_cases h with hdrawn | hdrawn | hdrawn <;> rw [hdrawn]
  · exact fillsArea_line labels style _ d (by simp)
  · exact fillsArea_line labels style _ d (by simp)
  · exact fillsArea_bar style _ _ _

/-- **An area is where it is asked for, and there it can be seen.**  Among charts of lines, areas,
bars and mixed ones the series at a position has an area exactly if it is a line and the chart, the
kind of the dataset or the dataset itself asks for one.  The area then has the colour of its
dataset, or runs down from there to its transparent variant, and an opacity that can be seen,
whatever opacity is asked for; any other series reports none. -/
theorem ofData_fillsArea (d : Data) {family : Family} (style : SeriesStyle)
    (h : family ∈ [Family.line, .area, .bar, .mixed]) :
    (ofData d family style).length = d.datasets.length ∧
    ∀ (index : Nat) (source : Dataset), d.datasets[index]? = some source →
      ∃ (s : Series) (color : String), (ofData d family style)[index]? = some s ∧
        source.colorAmong style.context.palette index = some color ∧
        s.FillsArea (source.AsksForArea family) style color := by
  refine ⟨List.length_mapIdx, ?_⟩
  intro index source hsource
  exact ⟨_, _, getElem?_ofData hsource, source.colorAmong_eq _ index,
    fillsArea_ofDataset h d.labels style index source⟩

/-- Settings that ask for areas that run down, and for an opacity that is no number. -/
def oddAreas : SeriesStyle :=
  { SeriesStyle.standard with areaOpacity := .nan, areaGradient := true }

theorem ofData_fillsArea_threeKinds :
    Family.mixed ∈ [Family.line, .area, .bar, .mixed] ∧
      ∃ (s : Series) (color : String), (ofData threeKinds .mixed oddAreas)[2]? = some s ∧
        ({ label := "lost", kind := some .area } : Dataset).colorAmong
          oddAreas.context.palette 2 = some color ∧
        s.FillsArea (({ label := "lost", kind := some .area } : Dataset).AsksForArea .mixed)
          oddAreas color := by
  have hmixed : Family.mixed ∈ [Family.line, .area, .bar, .mixed] := by decide
  obtain ⟨-, hall⟩ := ofData_fillsArea threeKinds oddAreas hmixed
  exact ⟨hmixed, hall 2 { label := "lost", kind := some .area } rfl⟩

end Series
end Charting
