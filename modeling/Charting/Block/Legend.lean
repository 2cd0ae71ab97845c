import Charting.Block.Style
import Charting.Context

/-! # Legends

A legend lists the names of what is drawn, beside one edge of the chart.
-/
namespace Charting

open Number
open Json (member)

/-- The edge of the chart beside which the legend stands. -/
inductive LegendPosition where
  | top
  | bottom
  | left
  | right
  deriving DecidableEq, Inhabited

namespace LegendPosition

/-- All positions. -/
def all : List LegendPosition := [top, bottom, left, right]

/-- The name of a position. -/
def name : LegendPosition → String
  | top => "top"
  | bottom => "bottom"
  | left => "left"
  | right => "right"

/-- Whether the entries stand below one another. -/
def isVertical : LegendPosition → Bool
  | left | right => true
  | top | bottom => false

/-- The anchor along the width and the one along the height. -/
def anchors : LegendPosition → String × String
  | top => ("center", "top")
  | bottom => ("center", "bottom")
  | left => ("left", "middle")
  | right => ("right", "middle")

end LegendPosition

/-- The legend of a chart. -/
structure Legend where
  position : LegendPosition
  /-- Whether entries that do not fit are scrolled. -/
  scrolls : Bool
  entries : List String
  textStyle : TextStyle
  deriving DecidableEq

namespace Legend

/-- The legend for some names. -/
def build (position : LegendPosition) (entries : List String) (ctx : Context) : Legend where
  position := position
  scrolls := ctx.profile.scrollsLegend
  entries := entries
  textStyle := ⟨ctx.theme.text, ctx.profile.legendFontSize, false⟩

/-- The distance between entries; a legend that scrolls is denser. -/
def itemGap (l : Legend) : Binary64 := if l.scrolls then 8 else 16

/-- The legend as a renderer takes it. -/
def toJson (l : Legend) : Json :=
  .ofMembers [
    member "show" (.bool true),
    member "type" (.string (if l.scrolls then "scroll" else "plain")),
    member "orient" (.string (if l.position.isVertical then "vertical" else "horizontal")),
    member "left" (.string l.position.anchors.1),
    member "top" (.string l.position.anchors.2),
    member "data" (.ofStrings l.entries),
    member "textStyle" l.textStyle.toJson,
    member "itemWidth" (.ofBinary64 14),
    member "itemHeight" (.ofBinary64 14),
    member "itemGap" (.ofBinary64 l.itemGap)]

end Legend
end Charting
