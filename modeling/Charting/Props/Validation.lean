import Charting.ChartOption.Keys
import Charting.Props

/-! # Checks of properties

Properties are checked before a chart is made, in a fixed order; the first fault found is
the one that is reported.
-/
namespace Charting

open Number

namespace Props

/-- The properties that are opacities. -/
inductive OpacityOf where
  | area
  | radarFill
  deriving DecidableEq

/-- What is wrong with properties. -/
inductive Fault where
  | emptyPalette
  | opacity (owner : OpacityOf)
  | barMaxWidth
  | barBorderRadius
  | radarMaxValue
  | scatterSymbolSize
  /-- An extension has the key of a part of the option. -/
  | reservedKey (key : String)
  | gaugeBounds (min max : Binary64)
  | gaugeSplitNumber
  | gaugeArcWidth
  | gaugeZone
  | gaugeColors
  deriving DecidableEq

namespace Fault

/-- The name of an opacity in messages. -/
def opacityName : OpacityOf → String
  | .area => "area opacity"
  | .radarFill => "radar fill opacity"

/-- The text of a fault. -/
def message : Fault → String
  | emptyPalette => "explicit palette must contain at least one color"
  | opacity owner => s!"{opacityName owner} must be finite and in (0, 1]"
  | barMaxWidth => "bar max width must be finite and > 0"
  | barBorderRadius => "bar border radius must be finite and >= 0"
  | radarMaxValue => "radar max value must be finite and > 0"
  | scatterSymbolSize => "scatter symbol size must be finite and > 0"
  | reservedKey key => s!"extra option `{key}` collides with a compiled option key"
  | gaugeBounds min max =>
    s!"gauge bounds must be finite with min < max (min={min.plain}, max={max.plain})"
  | gaugeSplitNumber => "gauge split number must be > 0"
  | gaugeArcWidth => "gauge arc width must be finite and > 0"
  | gaugeZone => "gauge zone bound must be finite"
  | gaugeColors => "gauge color stops must not be empty"

end Fault

/-- A finite number above zero. -/
def isPositive (x : Binary64) : Bool := x.isFinite && decide (0 < x)

/-- A finite number above zero and at most one. -/
def isOpacity (x : Binary64) : Bool := isPositive x && decide (x ≤ 1)

/-- Whether a property that is given satisfies a condition. -/
def ifGiven {α : Type} (x : Option α) (holds : α → Bool) : Bool := x.all holds

/-- The fault of a condition that does not hold. -/
def require (holds : Bool) (fault : Fault) : Option Fault := if holds then none else some fault

/-- A list of colours that is not empty. -/
def hasColors : Coloring → Bool
  | .single _ => true
  | .each colors => !colors.isEmpty

/-- The faults of a gauge, in the order of the checks. -/
def gaugeFaults (g : GaugeProps) : List (Option Fault) := [
  require (g.min.isFinite && g.max.isFinite && decide (g.min < g.max)) (.gaugeBounds g.min g.max),
  require (g.splitNumber != 0) .gaugeSplitNumber,
  require (isPositive g.arcWidth) .gaugeArcWidth,
  require (g.zones.all fun z => z.upTo.isFinite) .gaugeZone,
  require (ifGiven g.color hasColors) .gaugeColors]

/-- The key of the first extension that has no right to it. -/
def reservedKey? (e : Extensions) : Option String :=
  (e.entries.map (·.1)).find? fun key => ChartOption.keys.contains key

/-- The faults of properties, in the order of the checks. -/
def faults (p : Props) : List (Option Fault) := [
  require (ifGiven p.colors fun colors => !colors.isEmpty) .emptyPalette,
  require (ifGiven p.area.opacity isOpacity) (.opacity .area),
  require (ifGiven p.radar.fillOpacity isOpacity) (.opacity .radarFill),
  require (ifGiven p.bar.maxWidth isPositive) .barMaxWidth,
  require (p.bar.borderRadius.isFinite && decide (0 ≤ p.bar.borderRadius)) .barBorderRadius,
  require (ifGiven p.radar.maxValue isPositive) .radarMaxValue,
  require (ifGiven p.scatter.symbolSize isPositive) .scatterSymbolSize,
  (reservedKey? p.extensions).map .reservedKey] ++ gaugeFaults p.gauge

/-- Accepts properties without a fault; otherwise the first fault is reported. -/
def validate (p : Props) : Except Fault Unit :=
  match p.faults.findSome? id with
  | some fault => .error fault
  | none => .ok ()

end Props
end Charting
