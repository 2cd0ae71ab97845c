import Charting.Series.Style

/-! # Gauges

A gauge shows one value on an arc.  The arc is coloured up to *stops*, each a place from 0
to 1 and the colour before it.
-/
namespace Charting

open Number
open Json (member)

/-- The colour of an arc up to a place. -/
structure ArcStop where
  offset : Binary64
  color : String
  deriving DecidableEq

/-- The stop as a pair of its place and colour. -/
def ArcStop.toJson (s : ArcStop) : Json := .array [.ofBinary64 s.offset, .string s.color]

namespace GaugeProps

/-- The place of a value on the arc. -/
def offset (g : GaugeProps) (value : Binary64) : Binary64 :=
  let span := g.max - g.min
  if 0 < span then ((value - g.min) / span).clamp 0 1 else 1

/-- Colours at even distances, the last one up to the end of the arc. -/
def evenStops (colors : List String) : List ArcStop :=
  colors.mapIdx fun index color => ⟨.ofNat (index + 1) / .ofNat colors.length, color⟩

/-- The stops of a gauge: one for each zone if there are zones; or else those of its colours,
for which the first colour of the palette stands in. -/
def stops (g : GaugeProps) (palette : Palette) : List ArcStop :=
  match g.zones with
  | [] =>
    match g.color with
    | some (.single color) => [⟨1, color⟩]
    | some (.each (color :: rest)) => evenStops (color :: rest)
    | _ => [⟨1, palette.colorAt 0⟩]
  | zones => zones.map fun z => ⟨g.offset z.upTo, z.color⟩

/-- The text of a value, in the template language of the renderer: the value and its unit. -/
def defaultFormatter (unit : Option String) : String := "\x7bvalue\x7d" ++ unit.getD ""

end GaugeProps

/-- A value on an arc. -/
structure GaugeSeries where
  name : String
  min : Binary64
  max : Binary64
  startAngle : Binary64
  endAngle : Binary64
  splitNumber : UInt32
  value : Binary64
  arcWidth : Binary64
  stops : List ArcStop
  showPointer : Bool
  pointerColor : String
  showProgress : Bool
  /-- How the scale is labelled. -/
  scaleStyle : TextStyle
  formatter : String
  /-- How the value is written. -/
  valueStyle : TextStyle
  deriving DecidableEq

namespace GaugeSeries

/-- The colour of the pointer: the last one of the arc, or that of text if there are zones. -/
def pointerColorFor (g : GaugeProps) (ctx : Context) : String :=
  if g.zones.isEmpty then
    (((g.stops ctx.palette).getLast?).map (·.color)).getD (ctx.palette.colorAt 0)
  else ctx.theme.text

/-- The gauge of a value; a missing or non-finite value reads as the least one. -/
def build (value : Option Binary64) (name : String) (g : GaugeProps) (ctx : Context) :
    GaugeSeries where
  name := name
  min := g.min
  max := g.max
  startAngle := g.startAngle
  endAngle := g.endAngle
  splitNumber := g.splitNumber
  value := (value.filter Binary64.isFinite).getD g.min
  arcWidth := g.arcWidth
  stops := g.stops ctx.palette
  showPointer := g.showPointer
  pointerColor := pointerColorFor g ctx
  showProgress := g.showProgress
  scaleStyle := ⟨ctx.theme.axisLabel, ctx.profile.fontSize, false⟩
  formatter := g.formatter.getD (GaugeProps.defaultFormatter g.unit)
  valueStyle := ⟨ctx.theme.text, ctx.profile.fontSize * 2, false⟩

/-- A place below the centre. -/
def below (percent : Binary64) : Json :=
  .array ([Dimension.percent 0, .percent percent].map Format.dimension.encode)

/-- The members of a gauge behind its type. -/
def members (s : GaugeSeries) : List (Option (String × Json)) := [
  member "name" (.string s.name),
  member "min" (.ofBinary64 s.min),
  member "max" (.ofBinary64 s.max),
  member "startAngle" (.ofBinary64 s.startAngle),
  member "endAngle" (.ofBinary64 s.endAngle),
  member "splitNumber" (.ofNat s.splitNumber.toNat),
  member "data" (.array [.ofMembers [
    member "value" (.ofBinary64 s.value),
    member "name" (.string s.name)]]),
  member "axisLine" (.ofMembers [
    member "lineStyle" (.ofMembers [
      member "width" (.ofBinary64 s.arcWidth),
      member "color" (.array (s.stops.map ArcStop.toJson))])]),
  member "pointer" (.ofMembers [
    member "show" (.bool s.showPointer),
    member "width" (.ofBinary64 6),
    member "length" (Format.dimension.encode (.percent 60)),
    member "itemStyle" (Fill.solid s.pointerColor).itemJson]),
  member "progress" (.ofMembers [
    member "show" (.bool s.showProgress),
    member "width" (.ofBinary64 s.arcWidth)]),
  member "axisTick" (.shown false),
  member "splitLine" (.shown false),
  member "axisLabel" (.ofMembers [
    member "color" (.string s.scaleStyle.color),
    member "fontSize" (.ofBinary64 s.scaleStyle.fontSize),
    member "distance" (.ofBinary64 (s.arcWidth + 8))]),
  member "detail" (.ofMembers [
    member "formatter" (.string s.formatter),
    member "fontSize" (.ofBinary64 s.valueStyle.fontSize),
    member "color" (.string s.valueStyle.color),
    member "offsetCenter" (below 40),
    member "valueAnimation" (.bool true)]),
  member "title" (.ofMembers [
    member "show" (.bool true),
    member "offsetCenter" (below 70),
    member "textStyle" s.scaleStyle.toJson])]

end GaugeSeries
end Charting
