import Charting.Fill
import Charting.Props

/-! # How series are drawn

The settings that turn datasets into series, with all defaults filled in.  They usually
come from the properties of a chart, but need not have passed their checks.
-/
namespace Charting

open Number
open Json (member)

/-- The settings of all series of a chart. -/
structure SeriesStyle where
  context : Context
  smooth : Bool
  showPoints : Bool
  stacked : Bool
  areaOpacity : Binary64
  areaGradient : Bool
  barMaxWidth : Binary64
  barBorderRadius : Binary64
  barGradient : Bool
  /-- Whether bars lie. -/
  horizontal : Bool
  showValues : Bool
  scatterSymbolSize : Binary64
  radarFillOpacity : Binary64
  pieInnerRadius : Option Dimension
  pieOuterRadius : Dimension
  pieShowLabels : Bool
  pieShowPercentage : Bool
  pieRoseType : Bool
  gauge : GaugeProps
  deriving DecidableEq

namespace SeriesStyle

/-- The size of points that have none of their own. -/
def defaultScatterSymbolSize : Binary64 := 10

/-- The radius of a pie that has none of its own. -/
def defaultPieOuterRadius : Dimension := .percent 70

/-- The settings that properties ask for. -/
def ofProps (p : Props) (ctx : Context) : SeriesStyle where
  context := ctx
  smooth := p.smooth.getD true
  showPoints := p.showPoints
  stacked := p.stacked
  areaOpacity := p.area.opacity.getD defaultAreaOpacity
  areaGradient := p.area.gradient
  barMaxWidth := p.bar.maxWidth.getD Charting.maxBarWidth
  barBorderRadius := p.bar.borderRadius
  barGradient := p.bar.gradient
  horizontal := p.bar.horizontal
  showValues := p.bar.showValues
  scatterSymbolSize := p.scatter.symbolSize.getD defaultScatterSymbolSize
  radarFillOpacity := p.radar.fillOpacity.getD defaultAreaOpacity
  pieInnerRadius := p.pie.innerRadius
  pieOuterRadius := p.pie.outerRadius.getD defaultPieOuterRadius
  pieShowLabels := p.pie.showLabels
  pieShowPercentage := p.pie.showPercentage
  pieRoseType := p.pie.roseType
  gauge := p.gauge

/-- The settings of a chart without properties. -/
def standard : SeriesStyle := ofProps {} (Props.context {})

/-- The same settings with another palette. -/
def withPalette (s : SeriesStyle) (palette : Palette) : SeriesStyle :=
  { s with context := { s.context with palette := palette } }

/-- The opacity of areas, always visible: what is no opacity above zero gives the default
one, and what is above one gives one. -/
def visibleAreaOpacity (s : SeriesStyle) : Binary64 :=
  if s.areaOpacity.isFinite && decide (0 < s.areaOpacity) then s.areaOpacity.min 1
  else defaultAreaOpacity

/-- The direction in which bars grow, as seen by a gradient along them. -/
def barDirection (s : SeriesStyle) : Direction := if s.horizontal then .horizontal else .vertical

end SeriesStyle

/-- The thickness of lines that have none of their own. -/
def defaultLineWidth : Binary64 := 2

/-- The group in which stacked series add up. -/
def stackGroup : String := "total"

/-- The filled area under a line. -/
structure AreaStyle where
  fill : Fill
  opacity : Binary64
  deriving DecidableEq

namespace AreaStyle

/-- The area in a colour, with a gradient if the settings ask for one. -/
def ofColor (color : String) (style : SeriesStyle) : AreaStyle where
  fill := if style.areaGradient then .gradient (.area color) else .solid color
  opacity := style.visibleAreaOpacity

/-- The area as a renderer takes it. -/
def toJson (a : AreaStyle) : Json :=
  .ofMembers [member "color" a.fill.toJson, member "opacity" (.ofBinary64 a.opacity)]

end AreaStyle

/-- The style of an item with a fill. -/
def Fill.itemJson (f : Fill) : Json := .ofMembers [member "color" f.toJson]

/-- What stays bright while an item is pointed at: its whole series, or the item itself. -/
def Json.emphasis (focus : String) : Json := .ofMembers [member "focus" (.string focus)]

end Charting
