import Charting.Proofs.SeriesOfData
import Charting.Proofs.Outcome
import Charting.Proofs.Validation

/-! # The axes of a chart

Where the labels go, where the samples are measured and what can be zoomed is settled one after the
other: the category axis gets its room at the ends, then the axes of lying bars change places, then
each place gets its name and its lines across the plot, and the zoom finds out by itself which place
has the labels.

`Family.PlacesLabels` says once at which side of the plot the labels are, and `compile_axes` holds
against it what a renderer finds in the JSON of the axes (`Json.IsAxis`) and of the zoom controls
(`Json.ZoomsAlong`).
-/
namespace Charting

open Json (member memberIf)

/-! ## Reading objects -/

namespace Json

variable {key : String} {members : List (Option (String × Json))}

@[simp] theorem at?_nil (j : Json) : j.at? [] = some j := rfl

@[simp] theorem at?_cons (j : Json) (keys : List String) :
    j.at? (key :: keys) = (j.get? key).bind fun value => value.at? keys := rfl

@[simp] theorem get?_ofMembers_nil : (ofMembers []).get? key = none := rfl

@[simp] theorem get?_ofMembers_none :
    (ofMembers (none :: members)).get? key = (ofMembers members).get? key := rfl

/-- Of repeated keys the last one counts, so what follows comes first. -/
@[simp] theorem get?_ofMembers_member (k : String) (value : Json) :
    (ofMembers (member k value :: members)).get? key =
      ((ofMembers members).get? key).or (if k = key then some value else none) := by
  change lookup key ((k, value) :: members.filterMap id) =
    (lookup key (members.filterMap id)).or _
  rw [lookup, lookup, List.reverse_cons, List.find?_append, Option.map_or]
  by_cases hkey : k = key <;> simp [hkey]

@[simp] theorem get?_ofMembers_memberIf {α : Type} (k : String) (value : Option α)
    (encode : α → Json) :
    (ofMembers (memberIf k value encode :: members)).get? key =
      ((ofMembers members).get? key).or (if k = key then value.map encode else none) := by
  cases value with
  | none => simp [memberIf]
  | some a => exact get?_ofMembers_member k (encode a)

end Json

/-! ## What a renderer reads -/

/-- The scale of an axis: its kind and, on a category axis only, its labels. -/
def Json.ShowsScale (j : Json) : AxisScale → Prop
  | .category labels =>
    j.at? ["type"] = some (.string "category") ∧ j.at? ["data"] = some (.ofStrings labels)
  | .value => j.at? ["type"] = some (.string "value") ∧ j.at? ["data"] = none

/-- An axis as a renderer reads it. -/
structure Json.IsAxis (j : Json) (scale : AxisScale) (name : Option String) (gap : Option Bool)
    (lines : Bool) : Prop where
  scale : j.ShowsScale scale
  name : j.at? ["name"] = name.map .string
  /-- Whether there is room at both ends; not every axis says so. -/
  boundaryGap : j.at? ["boundaryGap"] = gap.map .bool
  splitLines : j.at? ["splitLine", "show"] = some (.bool lines)

/-- A control that narrows the only axis at a side and none at the other one. -/
def Json.ZoomsAlong (j : Json) : AxisSide → Prop
  | .x => j.at? ["xAxisIndex"] = some (.ofNat 0) ∧ j.at? ["yAxisIndex"] = none
  | .y => j.at? ["yAxisIndex"] = some (.ofNat 0) ∧ j.at? ["xAxisIndex"] = none

namespace Axis

theorem isAxis_toJson (a : Axis) :
    a.toJson.IsAxis a.scale (a.name.map (·.text)) a.boundaryGap a.splitLines := by
  constructor
  case scale =>
    cases hscale : a.scale <;>
      simp [Json.ShowsScale, toJson, hscale, AxisScale.isValue, AxisScale.labels?]
  case name => simp [toJson, Function.comp_def]
  case boundaryGap => simp [toJson]
  case splitLines => simp [toJson, Json.shownLine]

/-- An axis that gets a name and lines across the plot keeps its scale and its room at both ends. -/
theorem isAxis_named {a : Axis} (hname : a.name = none) (name : Option String) (ctx : Context)
    (lines : Bool) :
    ((a.withName name ctx).withSplitLines lines).toJson.IsAxis a.scale (name.filter (· ≠ ""))
      a.boundaryGap (lines && a.scale.isValue) := by
  have h := ((a.withName name ctx).withSplitLines lines).isAxis_toJson
  cases name with
  | none => simpa [withName, withSplitLines, hname] using h
  | some text =>
    by_cases hempty : text = ""
    · simpa [withName, withSplitLines, hname, hempty, Option.filter] using h
    · simpa [withName, withSplitLines, hempty, Option.filter] using h

end Axis

theorem DataZoom.zoomsAlong_toJson (z : DataZoom) : z.toJson.ZoomsAlong z.axis := by
  obtain ⟨slider, axis⟩ := z
  cases slider <;> cases axis <;> simp [Json.ZoomsAlong, toJson]

/-! ## The two sides of a plot -/

/-- The axis at a side. -/
def ChartOption.axis (o : ChartOption) : AxisSide → Option Axis
  | .x => o.xAxis
  | .y => o.yAxis

/-- The name that is asked for at a side. -/
def Props.axisLabel (p : Props) : AxisSide → Option String
  | .x => p.xAxisLabel
  | .y => p.yAxisLabel

namespace Family

/-- The side that is zoomed: upright if bars lie. -/
def zoomSide (family : Family) (p : Props) : AxisSide :=
  if family = .bar ∧ p.bar.horizontal = true then .y else .x

/-- Whether the labels are at a side.  Scatter charts have them nowhere; in all other charts they
are where the chart is zoomed. -/
def PlacesLabels (family : Family) (p : Props) (side : AxisSide) : Prop :=
  family ≠ .scatter ∧ side = family.zoomSide p

instance (family : Family) (p : Props) (side : AxisSide) : Decidable (family.PlacesLabels p side) :=
  inferInstanceAs (Decidable (_ ∧ _))

end Family

namespace Compile

variable {family : Family} {p : Props} {ctx : Context} {labels : List String}

theorem zoomSide_eq : family.zoomSide p = if isHorizontal family p then .y else .x := by
  simp [Family.zoomSide, isHorizontal]

/-- Of the charts with labels, those with bars have room at both ends. -/
theorem hasBoundaryGap_eq (haxes : family.isCartesian = true) (hscatter : family ≠ .scatter) :
    hasBoundaryGap family = decide (family = .bar ∨ family = .mixed) := by
  cases family with
  | scatter => exact absurd rfl hscatter
  | line | bar | area | mixed => rfl
  | pie | donut | radar | gauge => cases haxes

/-- The axis that is made for a side, before it has a name. -/
def plainAxis (family : Family) (labels : List String) (p : Props) (ctx : Context) :
    AxisSide → Axis
  | .x => (plainAxes family labels p ctx).1
  | .y => (plainAxes family labels p ctx).2

theorem plainAxis_eq (side : AxisSide) :
    plainAxis family labels p ctx side =
      if family.PlacesLabels p side then
        (Axis.build (.category labels) ctx).withBoundaryGap (hasBoundaryGap family)
      else Axis.build .value ctx := by
  by_cases hscatter : family = .scatter
  · cases side <;> simp [plainAxis, plainAxes, Family.PlacesLabels, hscatter]
  · cases hlying : isHorizontal family p <;> cases side <;>
      simp [plainAxis, plainAxes, Family.PlacesLabels, zoomSide_eq, hscatter, hlying]

theorem isAxis_plainAxis_named (side : AxisSide) (name : Option String) (lines : Bool) :
    ((((plainAxis family labels p ctx side).withName name ctx).withSplitLines lines).toJson).IsAxis
      (if family.PlacesLabels p side then .category labels else .value) (name.filter (· ≠ ""))
      (if family.PlacesLabels p side then some (hasBoundaryGap family) else none)
      (lines && !decide (family.PlacesLabels p side)) := by
  rw [plainAxis_eq]
  by_cases hlabels : family.PlacesLabels p side
  · simpa [hlabels, Axis.withBoundaryGap, Axis.build, AxisScale.isValue] using
      Axis.isAxis_named (a := (Axis.build (.category labels) ctx).withBoundaryGap _) rfl name ctx
        lines
  · simpa [hlabels, Axis.build, AxisScale.isValue] using
      Axis.isAxis_named (a := Axis.build .value ctx) rfl name ctx lines

/-- The axis at each side of a chart. -/
theorem exists_axis_cartesian (d : Data) (side : AxisSide) :
    ∃ axis, (cartesian family d p ctx).axis side = some axis ∧
      axis.toJson.IsAxis (if family.PlacesLabels p side then .category d.labels else .value)
        ((p.axisLabel side).filter (· ≠ ""))
        (if family.PlacesLabels p side then some (hasBoundaryGap family) else none)
        (p.showGridLines && !decide (family.PlacesLabels p side)) := by
  cases side with
  | x => exact ⟨_, rfl, isAxis_plainAxis_named .x p.xAxisLabel p.showGridLines⟩
  | y => exact ⟨_, rfl, isAxis_plainAxis_named .y p.yAxisLabel p.showGridLines⟩

/-- Both controls of a chart zoom the same side. -/
theorem zoomsAlong_of_mem_dataZoom {d : Data} {zooms : List DataZoom}
    (h : (cartesian family d p ctx).dataZoom = some zooms) :
    zooms.length = 2 ∧ ∀ z ∈ zooms, z.toJson.ZoomsAlong (family.zoomSide p) := by
  have hbuild : DataZoom.build p.dataZoom (isHorizontal family p) = some zooms := h
  unfold DataZoom.build at hbuild
  rw [← zoomSide_eq] at hbuild
  obtain ⟨-, hzooms⟩ := Option.ite_none_right_eq_some.mp hbuild
  obtain rfl := Option.some.inj hzooms
  refine ⟨rfl, ?_⟩
  simp only [List.forall_mem_cons]
  exact ⟨DataZoom.zoomsAlong_toJson _, DataZoom.zoomsAlong_toJson _, List.forall_mem_nil _⟩

end Compile

/-- **The labels are at one side of the plot, and everything else goes by it.**  In a chart with
axes there is an axis at both sides.  It is the category axis of all labels where these are placed,
with room at its ends for bars but not for lines, and a value axis elsewhere.  Its name is what is
asked for at its side, lines across the plot belong to value axes, and both zoom controls narrow the
side of the labels, or the x axis if there are none. -/
theorem compile_axes {family : Family} {data : Option Data} {p : Props} {o : ChartOption}
    (haxes : family.isCartesian = true) (h : compile family data p = .ok (some o)) :
    ∃ d, data = some d ∧
      (∀ side, ∃ axis, o.axis side = some axis ∧
        axis.toJson.IsAxis (if family.PlacesLabels p side then .category d.labels else .value)
          ((p.axisLabel side).filter (· ≠ ""))
          (if family.PlacesLabels p side then some (decide (family = .bar ∨ family = .mixed))
            else none)
          (p.showGridLines && !decide (family.PlacesLabels p side))) ∧
      ∀ zooms, o.dataZoom = some zooms →
        zooms.length = 2 ∧ ∀ z ∈ zooms, z.toJson.ZoomsAlong (family.zoomSide p) := by
  obtain ⟨-, hcompiled⟩ := compile_eq_some_iff.mp h
  cases hcompiled with
  | gauge | radar => cases haxes
  | pieOf round => rcases round with rfl | rfl <;> cases haxes
  | @cartesian _ d =>
    refine ⟨d, rfl, fun side => ?_, fun zooms hzooms => Compile.zoomsAlong_of_mem_dataZoom hzooms⟩
    obtain ⟨axis, haxis, hshown⟩ : ∃ axis, (Compile.cartesian family d p p.context).axis side =
        some axis ∧ _ := Compile.exists_axis_cartesian d side
    refine ⟨axis, haxis, ?_⟩
    by_cases hlabels : family.PlacesLabels p side
    · simpa only [hlabels, if_true, Compile.hasBoundaryGap_eq haxes hlabels.1] using hshown
    · simpa only [hlabels, if_false] using hshown

/-- Lying bars with a name for one axis, an empty one for the other, and a control for zooming. -/
def namedLyingBars : Props :=
  { bar := { horizontal := true }, xAxisLabel := some "units", yAxisLabel := some "",
    dataZoom := true }

theorem compile_axes_lying :
    let data : Data := ⟨["q1", "q2"], [{ label := "sold", data := [3, 5] }]⟩
    ∃ o x y, compile .bar (some data) namedLyingBars = .ok (some o) ∧
      o.axis .x = some x ∧ x.toJson.IsAxis .value (some "units") none true ∧
      o.axis .y = some y ∧ y.toJson.IsAxis (.category ["q1", "q2"]) none (some true) false ∧
      ∀ zooms, o.dataZoom = some zooms → ∀ z ∈ zooms, z.toJson.ZoomsAlong .y := by
  intro data
  have hvalid : namedLyingBars.IsValid := by decide +kernel
  have h := compile_eq_some_iff.mpr ⟨Props.validate_eq_ok_iff.mpr hvalid,
    (.cartesian rfl rfl : Compiled _ .bar (some data) _)⟩
  obtain ⟨d, hd, hsides, hzooms⟩ := compile_axes rfl h
  cases hd
  obtain ⟨x, hx, hxshown⟩ := hsides .x
  obtain ⟨y, hy, hyshown⟩ := hsides .y
  exact ⟨_, x, y, h, hx, hxshown, hy, hyshown, fun zooms hz => (hzooms zooms hz).2⟩

end Charting
