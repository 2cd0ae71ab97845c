import Charting.Block.Axis
import Charting.Block.DataZoom
import Charting.Block.Title
import Charting.Extensions
import Charting.Json.Writer
import Charting.Series

/-! # The option of a chart

The option is what a renderer gets: all blocks and series of one chart.  A block that the
chart does not have is left out of its JSON.  Members that the host adds come last.
-/
namespace Charting

open Json (member memberIf)

/-- The blocks and series of a chart. -/
structure ChartOption where
  color : Palette
  animation : Bool
  textStyle : TextStyle
  title : Option Title := none
  tooltip : Option Tooltip := none
  legend : Option Legend := none
  grid : Option Grid := none
  xAxis : Option Axis := none
  yAxis : Option Axis := none
  radar : Option RadarFrame := none
  dataZoom : Option (List DataZoom) := none
  series : List Series := []
  extensions : Extensions := {}

namespace ChartOption

/-- The option with the blocks that all charts have. -/
def base (p : Props) (ctx : Context) : ChartOption where
  color := ctx.palette
  animation := p.animation
  textStyle := ⟨ctx.theme.text, ctx.profile.fontSize, false⟩
  extensions := p.extensions

/-- The names of the kinds of the series. -/
def seriesKinds (o : ChartOption) : List String := o.series.map Series.kind

/-! ## JSON -/

/-- The members that the library writes. -/
def members (o : ChartOption) : List (Option (String × Json)) := [
  member "color" (.ofStrings o.color),
  member "backgroundColor" (.string "transparent"),
  member "animation" (.bool o.animation),
  member "textStyle" o.textStyle.toJson,
  memberIf "title" o.title Title.toJson,
  memberIf "tooltip" o.tooltip Tooltip.toJson,
  memberIf "legend" o.legend Legend.toJson,
  memberIf "grid" o.grid Grid.toJson,
  memberIf "xAxis" o.xAxis Axis.toJson,
  memberIf "yAxis" o.yAxis Axis.toJson,
  memberIf "radar" o.radar RadarFrame.toJson,
  memberIf "dataZoom" o.dataZoom fun zooms => .array (zooms.map DataZoom.toJson),
  member "series" (.array (o.series.map Series.toJson))]

/-- The option in the order in which it is written. -/
def toJson (o : ChartOption) : Json :=
  .object (o.members.filterMap id ++ o.extensions.entries)

/-- The option with sorted members, as it would be read back. -/
def value (o : ChartOption) : Json := o.toJson.sortMembers

/-- The text of an option. -/
def pretty (o : ChartOption) : String := o.toJson.pretty

/-! ## Checks -/

/-- Why a renderer cannot draw an option. -/
inductive Fault where
  | noSeries
  | noPalette
  | noAxes
  | noRadar
  deriving DecidableEq

/-- The text of a fault. -/
def Fault.message : Fault → String
  | noSeries => "compiled option must contain at least one series"
  | noPalette => "compiled option palette must not be empty"
  | noAxes => "cartesian series require both axes"
  | noRadar => "radar series require a radar component"

/-- Accepts an option that has everything that its series need. -/
def validate (o : ChartOption) : Except Fault Unit :=
  if o.series.isEmpty then .error .noSeries
  else if o.color.isEmpty then .error .noPalette
  else if o.series.any Series.needsAxes && (o.xAxis.isNone || o.yAxis.isNone) then .error .noAxes
  else if o.series.any Series.isRadar && o.radar.isNone then .error .noRadar
  else .ok ()

end ChartOption
end Charting
