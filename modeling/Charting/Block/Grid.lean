import Charting.Switch

/-! # The grid: where the plot lies inside the chart -/
namespace Charting

open Json (member)

/-- Insets that replace the default ones where they are given. -/
structure GridSettings where
  left : Option Dimension := none
  right : Option Dimension := none
  top : Option Dimension := none
  bottom : Option Dimension := none
  containLabel : Option Bool := none
  deriving BEq, DecidableEq

/-- The distances of the plot from the edges of the chart. -/
structure Grid where
  left : Dimension
  right : Dimension
  top : Dimension
  bottom : Dimension
  /-- Whether the labels of the axes lie inside these distances. -/
  containLabel : Bool
  deriving DecidableEq

/-- The settings of a grid as a record. -/
def GridSettings.record : Record GridSettings where
  start := {}
  needed := 0
  fields := [
    .always "left" (.optional .dimension) (·.left) fun x s => { s with left := x },
    .always "right" (.optional .dimension) (·.right) fun x s => { s with right := x },
    .always "top" (.optional .dimension) (·.top) fun x s => { s with top := x },
    .always "bottom" (.optional .dimension) (·.bottom) fun x s => { s with bottom := x },
    .always "containLabel" (.optional .bool) (·.containLabel)
      fun x s => { s with containLabel := x }]

namespace Grid

/-- The grid of a chart that asks for no other. -/
def standard : Grid := ⟨.percent 3, .percent 4, .percent 15, .percent 10, true⟩

/-- The default grid with the given insets in place of its own. -/
def ofSettings (s : GridSettings) : Grid where
  left := s.left.getD standard.left
  right := s.right.getD standard.right
  top := s.top.getD standard.top
  bottom := s.bottom.getD standard.bottom
  containLabel := s.containLabel.getD standard.containLabel

/-- The grid of a chart, unless it is turned off. -/
def build (grid : Switch GridSettings) : Option Grid := (grid.resolve {}).map ofSettings

/-- The grid as a renderer takes it. -/
def toJson (g : Grid) : Json :=
  .ofMembers [
    member "left" (Format.dimension.encode g.left),
    member "right" (Format.dimension.encode g.right),
    member "top" (Format.dimension.encode g.top),
    member "bottom" (Format.dimension.encode g.bottom),
    member "containLabel" (.bool g.containLabel)]

end Grid
end Charting
