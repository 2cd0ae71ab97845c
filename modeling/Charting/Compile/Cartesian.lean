import Charting.ChartOption

/-! # Charts with two axes

One axis has the labels, the other one measures the samples; bars that lie swap them.  In
a scatter chart both axes measure.
-/
namespace Charting.Compile

/-- Whether the chart has its labels on the upright axis. -/
def isHorizontal (family : Family) (p : Props) : Bool :=
  decide (family = .bar) && p.bar.horizontal

/-- Lines begin at the very end of the axis, bars need room there. -/
def hasBoundaryGap (family : Family) : Bool :=
  match family with
  | .line | .area => false
  | _ => true

/-- The x and the y axis, without names. -/
def plainAxes (family : Family) (labels : List String) (p : Props) (ctx : Context) :
    Axis × Axis :=
  let value := Axis.build .value ctx
  if family = .scatter then (value, value)
  else
    let category := (Axis.build (.category labels) ctx).withBoundaryGap (hasBoundaryGap family)
    if isHorizontal family p then (value, category) else (category, value)

/-- The option of a chart with two axes. -/
def cartesian (family : Family) (d : Data) (p : Props) (ctx : Context) : ChartOption :=
  let axes := plainAxes family d.labels p ctx
  { ChartOption.base p ctx with
    tooltip := Tooltip.build p.tooltip family ctx
    legend := if p.showLegend then some (.build p.legendPosition d.seriesLabels ctx) else none
    grid := Grid.build p.grid
    xAxis := some ((axes.1.withName p.xAxisLabel ctx).withSplitLines p.showGridLines)
    yAxis := some ((axes.2.withName p.yAxisLabel ctx).withSplitLines p.showGridLines)
    dataZoom := DataZoom.build p.dataZoom (isHorizontal family p)
    series := Series.ofData d family (.ofProps p ctx) }

end Charting.Compile
