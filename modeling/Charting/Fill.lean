import Charting.Color
import Charting.Json.Basic
import Charting.Target

/-! # Fills

Items and areas are painted with one colour or with a gradient between two.
-/
namespace Charting

open Number
open Json (member)

/-- Along which side of the painted shape something runs. -/
inductive Direction where
  | vertical
  | horizontal
  deriving DecidableEq

/-- A colour at a place along a gradient, from 0 to 1. -/
structure ColorStop where
  offset : Binary64
  color : String
  deriving DecidableEq

/-- The stop as a renderer takes it. -/
def ColorStop.toJson (s : ColorStop) : Json :=
  .ofMembers [member "offset" (.ofBinary64 s.offset), member "color" (.string s.color)]

/-- A gradient from the top to the bottom of a shape, or from its left to its right. -/
structure Gradient where
  direction : Direction
  start : String
  finish : String
  deriving DecidableEq

namespace Gradient

/-- The colours at both ends. -/
def stops (g : Gradient) : List ColorStop := [⟨0, g.start⟩, ⟨1, g.finish⟩]

/-- The far corner of the gradient in a shape of width and height one. -/
def corner (g : Gradient) : Binary64 × Binary64 :=
  match g.direction with
  | .vertical => (0, 1)
  | .horizontal => (1, 0)

/-- The gradient as a renderer takes it. -/
def toJson (g : Gradient) : Json :=
  .ofMembers [
    member "type" (.string "linear"),
    member "x" (.ofBinary64 0),
    member "y" (.ofBinary64 0),
    member "x2" (.ofBinary64 g.corner.1),
    member "y2" (.ofBinary64 g.corner.2),
    member "colorStops" (.array (g.stops.map ColorStop.toJson)),
    member "global" (.bool false)]

/-- The gradient of an area: downwards to nothing. -/
def area (color : String) : Gradient := ⟨.vertical, color, Color.transparentVariant color⟩

/-- The gradient of a bar: along the bar, to a translucent variant. -/
def bar (color : String) (direction : Direction) : Gradient :=
  ⟨direction, color, Color.alphaVariant color barGradientEndAlpha⟩

end Gradient

/-- The paint of an item or area. -/
inductive Fill where
  | solid (color : String)
  | gradient (g : Gradient)
  deriving DecidableEq

namespace Fill

/-- The colour of a flat fill, or the one at which a gradient starts. -/
def primaryColor : Fill → String
  | solid color => color
  | gradient g => g.start

/-- The fill as a renderer takes it. -/
def toJson : Fill → Json
  | solid color => .string color
  | gradient g => g.toJson

end Fill
end Charting
