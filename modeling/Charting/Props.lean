import Charting.Block.Grid
import Charting.Block.Legend
import Charting.Block.Radar
import Charting.Block.Tooltip
import Charting.Extensions
import Charting.Viewport

/-! # The properties of a chart

Everything a host may ask for besides the data.  Every property has a default; most
families have a group of their own.
-/
namespace Charting

open Number

/-- The text of a chart without data. -/
def defaultEmptyText : String := "No data available"

/-- A coloured band of a gauge, up to a value. -/
structure Zone where
  upTo : Binary64
  color : String
  deriving BEq, DecidableEq

/-- Properties of bar charts. -/
structure BarProps where
  /-- Whether the bars lie. -/
  horizontal : Bool := false
  /-- The largest thickness that is asked for. -/
  maxWidth : Option Binary64 := none
  borderRadius : Binary64 := 4
  showValues : Bool := false
  gradient : Bool := false
  deriving BEq, DecidableEq

/-- Properties of area charts. -/
structure AreaProps where
  opacity : Option Binary64 := none
  gradient : Bool := false
  deriving BEq, DecidableEq

/-- Properties of pie and donut charts. -/
structure PieProps where
  innerRadius : Option Dimension := none
  outerRadius : Option Dimension := none
  showLabels : Bool := true
  showPercentage : Bool := true
  /-- Whether the slices differ in radius. -/
  roseType : Bool := false
  centerText : Option String := none
  centerSubtext : Option String := none
  deriving BEq, DecidableEq

/-- Properties of radar charts. -/
structure RadarProps where
  /-- The value at the end of every spoke. -/
  maxValue : Option Binary64 := none
  shape : RadarShape := .polygon
  fillOpacity : Option Binary64 := none
  deriving BEq, DecidableEq

/-- Properties of scatter charts. -/
structure ScatterProps where
  symbolSize : Option Binary64 := none
  deriving BEq, DecidableEq

/-- Properties of gauges. -/
structure GaugeProps where
  value : Option Binary64 := none
  min : Binary64 := 0
  max : Binary64 := 100
  unit : Option String := none
  name : Option String := none
  zones : List Zone := []
  /-- The colour of the arc, or colours at even distances along it. -/
  color : Option Coloring := none
  formatter : Option String := none
  splitNumber : UInt32 := 10
  startAngle : Binary64 := 225
  endAngle : Binary64 := -45
  arcWidth : Binary64 := 18
  showPointer : Bool := true
  showProgress : Bool := false
  deriving BEq, DecidableEq

/-- The properties of a chart. -/
structure Props where
  theme : Theme := .light
  scheme : Scheme := .standard
  /-- A palette in place of the scheme. -/
  colors : Option Palette := none
  target : Target := .web
  showLegend : Bool := true
  legendPosition : LegendPosition := .top
  grid : Switch GridSettings := .on
  tooltip : Switch TooltipSettings := .on
  showGridLines : Bool := true
  xAxisLabel : Option String := none
  yAxisLabel : Option String := none
  animation : Bool := true
  dataZoom : Bool := false
  stacked : Bool := false
  /-- Whether lines are smooth; a dataset may say otherwise. -/
  smooth : Option Bool := none
  showPoints : Bool := true
  width : Option Dimension := none
  height : Option Dimension := none
  emptyText : String := defaultEmptyText
  bar : BarProps := {}
  area : AreaProps := {}
  pie : PieProps := {}
  radar : RadarProps := {}
  scatter : ScatterProps := {}
  gauge : GaugeProps := {}
  extensions : Extensions := {}
  deriving BEq

namespace Props

/-- The palette of a chart: the one that is given, or else that of the scheme. -/
def palette (p : Props) : Palette :=
  match p.colors with
  | some (color :: rest) => color :: rest
  | _ => p.scheme.colors

/-- The context of a chart. -/
def context (p : Props) : Context := .of p.theme p.target p.palette

/-- The size of the chart on a web page. -/
def webSize (p : Props) : Size String := Viewport.web p.width p.height

/-- The size of the chart on a mobile screen. -/
def mobileSize (p : Props) (deviceWidth padding : Binary64) :
    Except InvalidViewport (Size Binary64) :=
  Viewport.mobile p.width p.height deviceWidth padding

end Props
end Charting
