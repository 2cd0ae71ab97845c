import Charting.Number.Binary64

/-! # Targets

A chart is made for a web page or for a mobile screen.  The target fixes font sizes and
a few habits of the layout; the limits below hold on every target.
-/
namespace Charting

open Number

/-- The kinds of host a chart is made for. -/
inductive Target where
  | web
  | mobile
  deriving DecidableEq, Inhabited

/-- What differs between targets. -/
structure Profile where
  fontSize : Binary64
  legendFontSize : Binary64
  /-- A category axis with more labels than this turns them. -/
  rotationThreshold : Nat
  /-- By how many degrees it turns them. -/
  rotationDegrees : Binary64
  /-- Whether tooltips stay inside the chart. -/
  confinesTooltip : Bool
  /-- Whether a long legend scrolls. -/
  scrollsLegend : Bool
  /-- The size of point marks. -/
  symbolSize : Binary64
  deriving DecidableEq

/-- All targets. -/
def Target.all : List Target := [web, mobile]

/-- The name of a target. -/
def Target.name : Target → String
  | web => "web"
  | mobile => "mobile"

/-- The profile of a target. -/
def Target.profile : Target → Profile
  | web => ⟨12, 12, 10, 45, false, false, 6⟩
  | mobile => ⟨10, 10, 6, 45, true, true, 4⟩

/-- The opacity of area fills unless another one is asked for. -/
def defaultAreaOpacity : Binary64 := 0.3

/-- The largest thickness of a bar, in pixels. -/
def maxBarWidth : Binary64 := 40

/-- The alpha at the far end of a bar's gradient. -/
def barGradientEndAlpha : Binary64 := 0.6

end Charting
