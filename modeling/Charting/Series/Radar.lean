import Charting.Data
import Charting.Series.Style

/-! # Outlines in radar charts -/
namespace Charting

open Number
open Json (member)

/-- An outline through the samples of a dataset. -/
structure RadarSeries where
  name : String
  symbolSize : Binary64
  values : List Binary64
  color : String
  width : Binary64
  opacity : Binary64
  deriving DecidableEq

namespace RadarSeries

/-- The outline of a dataset in a colour; all samples are kept. -/
def ofDataset (d : Dataset) (color : String) (style : SeriesStyle) : RadarSeries where
  name := d.label
  symbolSize := style.context.profile.symbolSize
  values := d.data
  color := color
  width := d.borderWidth.getD defaultLineWidth
  opacity := style.radarFillOpacity

/-- The outline as the only item of its series. -/
def itemJson (s : RadarSeries) : Json :=
  .ofMembers [
    member "name" (.string s.name),
    member "value" (.array (s.values.map .ofBinary64)),
    member "itemStyle" (Fill.solid s.color).itemJson,
    member "lineStyle" (LineStyle.toJson { color := s.color, width := some s.width }),
    member "areaStyle" (AreaStyle.toJson ⟨.solid s.color, s.opacity⟩)]

/-- The members of an outline behind its type. -/
def members (s : RadarSeries) : List (Option (String × Json)) := [
  member "name" (.string s.name),
  member "symbolSize" (.ofBinary64 s.symbolSize),
  member "data" (.array [s.itemJson]),
  member "emphasis" (.emphasis "series")]

end RadarSeries
end Charting
