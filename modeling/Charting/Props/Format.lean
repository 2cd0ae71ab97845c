import Charting.Props

/-! # Properties as JSON

All properties are written, with `null` for those that are not given.
-/
namespace Charting

/-- A zone as a record, both of whose fields are needed. -/
def Zone.record : Record Zone where
  start := ⟨0, ""⟩
  needed := 2
  fields := [
    .always "to" .real (·.upTo) fun x z => { z with upTo := x },
    .always "color" .text (·.color) fun x z => { z with color := x }]

/-- Properties of bar charts as a record. -/
def BarProps.record : Record BarProps where
  start := {}
  needed := 0
  fields := [
    .always "horizontal" .bool (·.horizontal) fun x p => { p with horizontal := x },
    .always "barMaxWidth" (.optional .real) (·.maxWidth) fun x p => { p with maxWidth := x },
    .always "borderRadius" .real (·.borderRadius) fun x p => { p with borderRadius := x },
    .always "showValues" .bool (·.showValues) fun x p => { p with showValues := x },
    .always "gradient" .bool (·.gradient) fun x p => { p with gradient := x }]

/-- Properties of area charts as a record. -/
def AreaProps.record : Record AreaProps where
  start := {}
  needed := 0
  fields := [
    .always "opacity" (.optional .real) (·.opacity) fun x p => { p with opacity := x },
    .always "gradient" .bool (·.gradient) fun x p => { p with gradient := x }]

/-- Properties of pie and donut charts as a record. -/
def PieProps.record : Record PieProps where
  start := {}
  needed := 0
  fields := [
    .always "innerRadius" (.optional .dimension) (·.innerRadius)
      fun x p => { p with innerRadius := x },
    .always "outerRadius" (.optional .dimension) (·.outerRadius)
      fun x p => { p with outerRadius := x },
    .always "showLabels" .bool (·.showLabels) fun x p => { p with showLabels := x },
    .always "showPercentage" .bool (·.showPercentage)
      fun x p => { p with showPercentage := x },
    .always "roseType" .bool (·.roseType) fun x p => { p with roseType := x },
    .always "centerText" (.optional .text) (·.centerText)
      fun x p => { p with centerText := x },
    .always "centerSubtext" (.optional .text) (·.centerSubtext)
      fun x p => { p with centerSubtext := x }]

/-- Properties of radar charts as a record. -/
def RadarProps.record : Record RadarProps where
  start := {}
  needed := 0
  fields := [
    .always "maxValue" (.optional .real) (·.maxValue) fun x p => { p with maxValue := x },
    .always "shape" (.named RadarShape.all RadarShape.name) (·.shape)
      fun x p => { p with shape := x },
    .always "fillOpacity" (.optional .real) (·.fillOpacity)
      fun x p => { p with fillOpacity := x }]

/-- Properties of scatter charts as a record. -/
def ScatterProps.record : Record ScatterProps where
  start := {}
  needed := 0
  fields := [
    .always "symbolSize" (.optional .real) (·.symbolSize)
      fun x p => { p with symbolSize := x }]

/-- Properties of gauges as a record. -/
def GaugeProps.record : Record GaugeProps where
  start := {}
  needed := 0
  fields := [
    .always "value" (.optional .real) (·.value) fun x p => { p with value := x },
    .always "min" .real (·.min) fun x p => { p with min := x },
    .always "max" .real (·.max) fun x p => { p with max := x },
    .always "unit" (.optional .text) (·.unit) fun x p => { p with unit := x },
    .always "name" (.optional .text) (·.name) fun x p => { p with name := x },
    .always "zones" (.list Zone.record.format) (·.zones) fun x p => { p with zones := x },
    .always "color" (.optional .coloring) (·.color) fun x p => { p with color := x },
    .always "formatter" (.optional .text) (·.formatter) fun x p => { p with formatter := x },
    .always "splitNumber" .count (·.splitNumber) fun x p => { p with splitNumber := x },
    .always "startAngle" .real (·.startAngle) fun x p => { p with startAngle := x },
    .always "endAngle" .real (·.endAngle) fun x p => { p with endAngle := x },
    .always "arcWidth" .real (·.arcWidth) fun x p => { p with arcWidth := x },
    .always "showPointer" .bool (·.showPointer) fun x p => { p with showPointer := x },
    .always "showProgress" .bool (·.showProgress) fun x p => { p with showProgress := x }]

/-- Extensions are an object of free values. -/
def Extensions.format : Format Extensions where
  encode e := .object e.entries
  decode
    | .object members => .ok (.ofMembers members)
    | _ => .error .mismatch

namespace Props

/-- The properties as a record. -/
def record : Record Props where
  start := {}
  needed := 0
  fields := [
    .always "theme" (.named Theme.all Theme.name) (·.theme) fun x p => { p with theme := x },
    .always "colorScheme" .scheme (·.scheme) fun x p => { p with scheme := x },
    .always "colors" (.optional (.list .text)) (·.colors) fun x p => { p with colors := x },
    .always "target" (.named Target.all Target.name) (·.target)
      fun x p => { p with target := x },
    .always "showLegend" .bool (·.showLegend) fun x p => { p with showLegend := x },
    .always "legendPosition" (.named LegendPosition.all LegendPosition.name) (·.legendPosition)
      fun x p => { p with legendPosition := x },
    .always "grid" (Switch.format GridSettings.record.format) (·.grid)
      fun x p => { p with grid := x },
    .always "tooltip" (Switch.format TooltipSettings.record.format) (·.tooltip)
      fun x p => { p with tooltip := x },
    .always "showGridLines" .bool (·.showGridLines) fun x p => { p with showGridLines := x },
    .always "xAxisLabel" (.optional .text) (·.xAxisLabel)
      fun x p => { p with xAxisLabel := x },
    .always "yAxisLabel" (.optional .text) (·.yAxisLabel)
      fun x p => { p with yAxisLabel := x },
    .always "animation" .bool (·.animation) fun x p => { p with animation := x },
    .always "dataZoom" .bool (·.dataZoom) fun x p => { p with dataZoom := x },
    .always "stacked" .bool (·.stacked) fun x p => { p with stacked := x },
    .always "smooth" (.optional .bool) (·.smooth) fun x p => { p with smooth := x },
    .always "showPoints" .bool (·.showPoints) fun x p => { p with showPoints := x },
    .always "width" (.optional .dimension) (·.width) fun x p => { p with width := x },
    .always "height" (.optional .dimension) (·.height) fun x p => { p with height := x },
    .always "emptyText" .text (·.emptyText) fun x p => { p with emptyText := x },
    .always "bar" BarProps.record.format (·.bar) fun x p => { p with bar := x },
    .always "area" AreaProps.record.format (·.area) fun x p => { p with area := x },
    .always "pie" PieProps.record.format (·.pie) fun x p => { p with pie := x },
    .always "radar" RadarProps.record.format (·.radar) fun x p => { p with radar := x },
    .always "scatter" ScatterProps.record.format (·.scatter)
      fun x p => { p with scatter := x },
    .always "gauge" GaugeProps.record.format (·.gauge) fun x p => { p with gauge := x },
    .always "extraOptions" Extensions.format (·.extensions)
      fun x p => { p with extensions := x }]

/-- The JSON of properties. -/
def format : Format Props := record.format

end Props
end Charting
