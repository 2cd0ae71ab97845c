import Charting.Series.Bar
import Charting.Series.Gauge
import Charting.Series.Line
import Charting.Series.Pie
import Charting.Series.Radar
import Charting.Series.Scatter

/-! # Series

A series is one thing that is drawn: a line, a row of bars, a pie.  Every dataset becomes
one series, in order; the family of the chart says which kind, and in a mixed chart the
dataset itself does.
-/
namespace Charting

open Number
open Json (member)

/-- One thing that is drawn. -/
inductive Series where
  | line (s : LineSeries)
  | bar (s : BarSeries)
  | scatter (s : ScatterSeries)
  | pie (s : PieSeries)
  | radar (s : RadarSeries)
  | gauge (s : GaugeSeries)
  deriving DecidableEq

namespace Series

/-! ## From datasets -/

/-- The series of a dataset at a position. -/
def ofDataset (family : Family) (labels : List String) (style : SeriesStyle) (index : Nat)
    (d : Dataset) : Series :=
  let color := d.resolveColor index style.context.palette
  match family with
  | .line => line (.ofDataset d labels color false style)
  | .area => line (.ofDataset d labels color true style)
  | .bar => bar (.ofDataset d labels color style)
  | .mixed =>
    match d.kind.getD .line with
    | .line => line (.ofDataset d labels color false style)
    | .area => line (.ofDataset d labels color true style)
    | .bar => bar (.ofDataset d labels color style)
  | .scatter => scatter (.ofDataset d labels color style)
  | .radar => radar (.ofDataset d color style)
  | .pie | .donut => pie (.ofDataset d labels family style)
  | .gauge => gauge (.build d.data.head? d.label style.gauge style.context)

/-- The series of all datasets. -/
def ofData (d : Data) (family : Family) (style : SeriesStyle) : List Series :=
  d.datasets.mapIdx (ofDataset family d.labels style)

theorem getElem?_ofData {d : Data} {family : Family} {style : SeriesStyle} {index : Nat}
    {source : Dataset} (h : d.datasets[index]? = some source) :
    (ofData d family style)[index]? = some (ofDataset family d.labels style index source) := by
  rw [ofData, List.getElem?_mapIdx, h, Option.map_some]

/-! ## What a series shows -/

/-- The name of the kind of a series. -/
def kind : Series → String
  | line _ => "line"
  | bar _ => "bar"
  | scatter _ => "scatter"
  | pie _ => "pie"
  | radar _ => "radar"
  | gauge _ => "gauge"

/-- The name of a series. -/
def name : Series → String
  | line s => s.name
  | bar s => s.name
  | scatter s => s.name
  | pie s => s.name
  | radar s => s.name
  | gauge s => s.name

/-- The fill of a series that has a single one. -/
def fill? : Series → Option Fill
  | line s => some (.solid s.color)
  | bar s => some s.fill
  | scatter s => some (.solid s.color)
  | radar s => some (.solid s.color)
  | pie _ | gauge _ => none

/-- The opacity of the area of a series; zero for one without an area. -/
def areaOpacity : Series → Binary64
  | line s => (s.area.map (·.opacity)).getD 0
  | radar s => s.opacity
  | _ => 0

/-- The number of samples that are drawn. -/
def length : Series → Nat
  | line s => s.data.length
  | bar s => s.data.length
  | scatter s => s.data.length
  | pie s => s.slices.length
  | radar s => s.values.length
  | gauge _ => 1

/-- The pie that a series is. -/
def pie? : Series → Option PieSeries
  | pie s => some s
  | _ => none

/-- Whether a series is drawn against two axes. -/
def needsAxes : Series → Bool
  | line _ | bar _ | scatter _ => true
  | pie _ | radar _ | gauge _ => false

/-- Whether a series is drawn in the frame of a radar chart. -/
def isRadar : Series → Bool
  | radar _ => true
  | _ => false

/-- The members of a series behind its type. -/
def members : Series → List (Option (String × Json))
  | line s => s.members
  | bar s => s.members
  | scatter s => s.members
  | pie s => s.members
  | radar s => s.members
  | gauge s => s.members

/-- The series as a renderer takes it, its type first. -/
def toJson (s : Series) : Json := .ofMembers (member "type" (.string s.kind) :: s.members)

end Series
end Charting
