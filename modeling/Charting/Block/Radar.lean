import Charting.Block.Style
import Charting.Format

/-! # The frame of a radar chart -/
namespace Charting

open Number
open Json (member)

/-- The shape of the rings. -/
inductive RadarShape where
  | polygon
  | circle
  deriving DecidableEq, Inhabited

namespace RadarShape

/-- All shapes. -/
def all : List RadarShape := [polygon, circle]

/-- The name of a shape. -/
def name : RadarShape → String
  | polygon => "polygon"
  | circle => "circle"

end RadarShape

/-- A spoke of the frame: its name and the value at its end. -/
structure Indicator where
  name : String
  max : Binary64
  deriving DecidableEq

/-- The spoke as a renderer takes it. -/
def Indicator.toJson (i : Indicator) : Json :=
  .ofMembers [member "name" (.string i.name), member "max" (.ofBinary64 i.max)]

/-- Spokes with rings around their centre. -/
structure RadarFrame where
  indicators : List Indicator
  shape : RadarShape
  nameStyle : TextStyle
  lineColor : String
  /-- Whether the rings are drawn. -/
  rings : Bool
  ringColor : String
  deriving DecidableEq

namespace RadarFrame

/-- How much of the chart the frame takes. -/
def radius : Dimension := .percent 65

/-- The frame as a renderer takes it. -/
def toJson (f : RadarFrame) : Json :=
  .ofMembers [
    member "indicator" (.array (f.indicators.map Indicator.toJson)),
    member "shape" (.string f.shape.name),
    member "radius" (Format.dimension.encode radius),
    member "axisName" f.nameStyle.toJson,
    member "axisLine" (.shownLine true { color := f.lineColor }),
    member "splitLine" (.shownLine f.rings { color := f.ringColor }),
    member "splitArea" (.shown false)]

end RadarFrame
end Charting
