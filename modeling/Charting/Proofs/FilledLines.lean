import Charting.Compile

/-! # Areas are filled lines

An area chart and a line chart are two families, and the family is looked at in several places: by
the series, by the room at the ends of the axis, by the trigger of the tooltip and by its pointer.
Still the two differ in one thing only: an area chart fills every line, whether its dataset asks for
it or not.

So an area chart is the line chart of the same data with all areas filled (`Data.filled`), and what
the datasets of an area chart say about their areas is never heard (`Data.withFills`).
-/
namespace Charting

/-! ## What datasets say about their areas -/

/-- The dataset with the area under its line filled. -/
def Dataset.filled (d : Dataset) : Dataset := { d with fill := some true }

namespace Data

/-- The data with the areas of all datasets filled. -/
def filled (d : Data) : Data := { d with datasets := d.datasets.map Dataset.filled }

/-- The data in which the dataset at each position says something else about its area. -/
def withFills (fills : Nat → Option Bool) (d : Data) : Data :=
  { d with datasets := d.datasets.mapIdx fun index s => { s with fill := fills index } }

@[simp] theorem labels_filled (d : Data) : d.filled.labels = d.labels := rfl

@[simp] theorem seriesLabels_filled (d : Data) : d.filled.seriesLabels = d.seriesLabels := by
  unfold seriesLabels filled
  rw [List.map_map]
  rfl

@[simp] theorem isEmpty_filled (d : Data) : d.filled.isEmpty = d.isEmpty := by
  unfold isEmpty filled
  rw [List.all_map]
  rfl

/-- Filling all areas makes up for whatever was said before. -/
theorem filled_withFills (fills : Nat → Option Bool) (d : Data) :
    (d.withFills fills).filled = d.filled := by
  unfold filled withFills
  refine congrArg (Data.mk d.labels) (List.ext_getElem? fun index => ?_)
  rw [List.getElem?_map, List.getElem?_mapIdx, List.getElem?_map, Option.map_map]
  rfl

end Data

/-! ## One series, all series -/

namespace Series

/-- The area of a dataset is the line of the filled one. -/
theorem ofDataset_area (labels : List String) (style : SeriesStyle) (index : Nat) (d : Dataset) :
    ofDataset .area labels style index d = ofDataset .line labels style index d.filled := by
  have hline (color : String) : LineSeries.ofDataset d labels color true style =
      LineSeries.ofDataset d.filled labels color false style := by
    unfold LineSeries.ofDataset
    rw [Bool.true_or, if_pos rfl, Bool.false_or, if_pos (by rfl)]
    rfl
  exact congrArg line (hline _)

theorem ofData_area (d : Data) (style : SeriesStyle) :
    ofData d .area style = ofData d.filled .line style := by
  refine List.ext_getElem? fun index => ?_
  unfold ofData Data.filled
  rw [List.getElem?_mapIdx, List.getElem?_mapIdx, List.getElem?_map, Option.map_map]
  refine congrArg (Option.map · d.datasets[index]?) (funext fun source => ?_)
  exact ofDataset_area d.labels style index source

end Series

/-! ## Options -/

namespace Compile

/-- Lines and areas have the same axes and the same tooltip. -/
theorem cartesian_area (d : Data) (p : Props) (ctx : Context) :
    cartesian .area d p ctx = cartesian .line d.filled p ctx := by
  have htooltip : Tooltip.build p.tooltip .area ctx = Tooltip.build p.tooltip .line ctx := rfl
  have haxes : plainAxes .area d.labels p ctx = plainAxes .line d.labels p ctx := rfl
  have hzoom : isHorizontal .area p = isHorizontal .line p := rfl
  unfold cartesian
  rw [htooltip, haxes, hzoom, Data.labels_filled, Data.seriesLabels_filled, Series.ofData_area]

theorem checked_area (data : Option Data) (p : Props) :
    checked .area data p = checked .line (data.map Data.filled) p := by
  cases data with
  | none => rfl
  | some d =>
    change (if d.isEmpty then none else some (cartesian .area d p p.context)) =
      if d.filled.isEmpty then none else some (cartesian .line d.filled p p.context)
    rw [d.isEmpty_filled, cartesian_area]

end Compile

/-- **An area chart is a line chart with every dataset filled.**  The two are compiled to the same
result, be it an error, nothing or an option, and the result of the area chart is the same whatever
its datasets say about their areas. -/
theorem compile_area_eq_line (data : Option Data) (p : Props) :
    compile .area data p = compile .line (data.map Data.filled) p ∧
      ∀ fills, compile .area (data.map (Data.withFills fills)) p = compile .area data p := by
  have harea (data : Option Data) :
      compile .area data p = compile .line (data.map Data.filled) p := by
    unfold compile
    rw [Compile.checked_area]
  refine ⟨harea data, ?_⟩
  intro fills
  have hfilled : (data.map (Data.withFills fills)).map Data.filled = data.map Data.filled := by
    rw [Option.map_map]
    exact congrArg (Option.map · data) (funext (Data.filled_withFills fills))
  calc
    compile .area (data.map (Data.withFills fills)) p
        = compile .line ((data.map (Data.withFills fills)).map Data.filled) p := harea _
    _ = compile .line (data.map Data.filled) p := by rw [hfilled]
    _ = compile .area data p := (harea data).symm

end Charting
