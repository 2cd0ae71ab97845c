import Charting.Json.Basic

/-! # Zooming along an axis -/
namespace Charting

open Number
open Json (member)

/-- The two axes of a plot. -/
inductive AxisSide where
  | x
  | y
  deriving DecidableEq

/-- A control that narrows what an axis shows. -/
structure DataZoom where
  /-- Whether the control is a slider below the plot; otherwise it is the plot itself. -/
  slider : Bool
  axis : AxisSide
  deriving DecidableEq

namespace DataZoom

/-- Both controls of the axis with the categories, which stands upright when bars lie. -/
def build (enabled horizontal : Bool) : Option (List DataZoom) :=
  if enabled then
    let axis := if horizontal then .y else .x
    some [⟨false, axis⟩, ⟨true, axis⟩]
  else none

/-- The control over the whole length of its axis. -/
def toJson (z : DataZoom) : Json :=
  .ofMembers [
    member "type" (.string (if z.slider then "slider" else "inside")),
    member (if z.axis = .x then "xAxisIndex" else "yAxisIndex") (.ofNat 0),
    member "start" (.ofBinary64 0),
    member "end" (.ofBinary64 100),
    if z.slider then member "height" (.ofBinary64 20) else none]

end DataZoom
end Charting
