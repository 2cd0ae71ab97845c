import Charting.Data
import Charting.Series.Style

/-! # Scattered points -/
namespace Charting

open Number
open Json (member)

/-- A place in the plot. -/
structure Point where
  x : Binary64
  y : Binary64
  deriving DecidableEq

/-- The place as a pair. -/
def Point.toJson (p : Point) : Json := .array [.ofBinary64 p.x, .ofBinary64 p.y]

/-- Points, one for each sample of a dataset. -/
structure ScatterSeries where
  name : String
  data : List Point
  symbolSize : Binary64
  color : String
  deriving DecidableEq

namespace ScatterSeries

/-- The finite number that a label spells, blanks around it aside. -/
def labelNumber? (label : String) : Option Binary64 :=
  (Binary64.read (Text.trim label.toList)).filter Binary64.isFinite

/-- The numbers that the labels spell; none if a label does not spell any. -/
def labelNumbers (labels : List String) : List Binary64 := (labels.mapM labelNumber?).getD []

/-- The points of samples: beside the number of their label, or else beside their index. -/
def points (xs ys : List Binary64) : List Point :=
  ys.mapIdx fun index y => ⟨(xs[index]?).getD (.ofNat index), y⟩

/-- The points of a dataset in a colour. -/
def ofDataset (d : Dataset) (labels : List String) (color : String) (style : SeriesStyle) :
    ScatterSeries where
  name := d.label
  data := points (labelNumbers labels) d.data
  symbolSize := style.scatterSymbolSize
  color := color

/-- The members of a row of points behind its type. -/
def members (s : ScatterSeries) : List (Option (String × Json)) := [
  member "name" (.string s.name),
  member "data" (.array (s.data.map Point.toJson)),
  member "symbolSize" (.ofBinary64 s.symbolSize),
  member "itemStyle" (Fill.solid s.color).itemJson,
  member "emphasis" (.emphasis "self")]

end ScatterSeries
end Charting
