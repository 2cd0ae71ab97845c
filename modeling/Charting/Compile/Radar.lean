import Charting.ChartOption
import Charting.Props.Validation

/-! # Radar charts

The frame has a spoke for each label, and all spokes end at the same value.
-/
namespace Charting.Compile

open Number

/-- The value at the end of every spoke: the one that is asked for if it is finite and above
zero, or else the largest sample, or else one. -/
def indicatorMax (d : Data) (asked : Option Binary64) : Binary64 :=
  match asked.filter Props.isPositive with
  | some max => max
  | none => (d.maxValue.filter fun max => decide (0 < max)).getD 1

/-- The frame of a radar chart. -/
def radarFrame (d : Data) (p : Props) (ctx : Context) : RadarFrame where
  indicators := d.labels.map fun label => ⟨label, indicatorMax d p.radar.maxValue⟩
  shape := p.radar.shape
  nameStyle := ⟨ctx.theme.axisLabel, ctx.profile.fontSize, false⟩
  lineColor := ctx.theme.axisLine
  rings := p.showGridLines
  ringColor := ctx.theme.gridLine

/-- The option of a radar chart. -/
def radar (d : Data) (p : Props) (ctx : Context) : ChartOption :=
  { ChartOption.base p ctx with
    tooltip := Tooltip.build p.tooltip .radar ctx
    legend := if p.showLegend then some (.build p.legendPosition d.seriesLabels ctx) else none
    radar := some (radarFrame d p ctx)
    series := Series.ofData d .radar (.ofProps p ctx) }

end Charting.Compile
