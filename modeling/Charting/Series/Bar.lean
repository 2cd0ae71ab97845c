import Charting.Data
import Charting.Series.Style

/-! # Bars -/
namespace Charting

open Number
open Json (member memberIf)

/-- The radii of the corners of a shape. -/
structure Corners where
  topLeft : Binary64
  topRight : Binary64
  bottomRight : Binary64
  bottomLeft : Binary64
  deriving DecidableEq

namespace Corners

/-- The radii of a bar that is round at its far end. -/
def ofBar (direction : Direction) (radius : Binary64) : Corners :=
  match direction with
  | .vertical => ⟨radius, radius, 0, 0⟩
  | .horizontal => ⟨0, radius, radius, 0⟩

/-- The radii clockwise from the top left. -/
def toJson (c : Corners) : Json :=
  .array ([c.topLeft, c.topRight, c.bottomRight, c.bottomLeft].map .ofBinary64)

end Corners

/-- Where the value of a bar is written: beyond its far end. -/
inductive LabelPosition where
  | top
  | right
  deriving DecidableEq

namespace LabelPosition

/-- The name of a position. -/
def name : LabelPosition → String
  | top => "top"
  | right => "right"

/-- The place beyond the end of a bar. -/
def ofBar : Direction → LabelPosition
  | .vertical => top
  | .horizontal => right

end LabelPosition

/-- The values beside bars. -/
structure ValueLabel where
  position : LabelPosition
  color : String
  fontSize : Binary64
  deriving DecidableEq

/-- The label as a renderer takes it. -/
def ValueLabel.toJson (l : ValueLabel) : Json :=
  .ofMembers [
    member "show" (.bool true),
    member "position" (.string l.position.name),
    member "color" (.string l.color),
    member "fontSize" (.ofBinary64 l.fontSize)]

/-- A row of bars, one for each sample of a dataset. -/
structure BarSeries where
  name : String
  data : List Binary64
  stacked : Bool
  maxWidth : Binary64
  fill : Fill
  corners : Corners
  label : Option ValueLabel
  deriving DecidableEq

namespace BarSeries

/-- The bars of a dataset in a colour. -/
def ofDataset (d : Dataset) (labels : List String) (color : String) (style : SeriesStyle) :
    BarSeries where
  name := d.label
  data := d.plotted labels
  stacked := style.stacked
  maxWidth := style.barMaxWidth.min maxBarWidth
  fill := if style.barGradient then .gradient (.bar color style.barDirection) else .solid color
  corners := .ofBar style.barDirection style.barBorderRadius
  label :=
    if style.showValues then
      some ⟨.ofBar style.barDirection, style.context.theme.text, style.context.profile.fontSize⟩
    else none

/-- The members of a row of bars behind its type. -/
def members (s : BarSeries) : List (Option (String × Json)) := [
  member "name" (.string s.name),
  member "data" (.array (s.data.map .ofBinary64)),
  if s.stacked then member "stack" (.string stackGroup) else none,
  member "barMaxWidth" (.ofBinary64 s.maxWidth),
  member "itemStyle" (.ofMembers [
    member "color" s.fill.toJson,
    member "borderRadius" s.corners.toJson]),
  memberIf "label" s.label ValueLabel.toJson,
  member "emphasis" (.emphasis "series")]

end BarSeries
end Charting
