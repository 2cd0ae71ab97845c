import Charting.Data
import Charting.Series.Style

/-! # Lines and areas -/
namespace Charting

open Number
open Json (member memberIf)

/-- A line through the samples of a dataset. -/
structure LineSeries where
  name : String
  data : List Binary64
  smooth : Bool
  showPoints : Bool
  symbolSize : Binary64
  stacked : Bool
  color : String
  width : Binary64
  /-- The area under the line, if it is filled. -/
  area : Option AreaStyle
  deriving DecidableEq

namespace LineSeries

/-- The line of a dataset in a colour.  Its area is filled if the chart or the dataset asks
for it. -/
def ofDataset (d : Dataset) (labels : List String) (color : String) (filled : Bool)
    (style : SeriesStyle) : LineSeries where
  name := d.label
  data := d.plotted labels
  smooth := d.smooth.getD style.smooth
  showPoints := style.showPoints
  symbolSize := style.context.profile.symbolSize
  stacked := style.stacked
  color := color
  width := d.borderWidth.getD defaultLineWidth
  area := if filled || d.fill == some true then some (.ofColor color style) else none

/-- The members of a line behind its type. -/
def members (s : LineSeries) : List (Option (String × Json)) := [
  member "name" (.string s.name),
  member "data" (.array (s.data.map .ofBinary64)),
  member "smooth" (.bool s.smooth),
  member "showSymbol" (.bool s.showPoints),
  member "symbolSize" (.ofBinary64 s.symbolSize),
  if s.stacked then member "stack" (.string stackGroup) else none,
  member "itemStyle" (Fill.solid s.color).itemJson,
  member "lineStyle" (LineStyle.toJson { color := s.color, width := some s.width }),
  memberIf "areaStyle" s.area AreaStyle.toJson,
  member "emphasis" (.emphasis "series")]

end LineSeries
end Charting
