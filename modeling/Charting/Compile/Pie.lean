import Charting.ChartOption

/-! # Pies and donuts

A pie shows the first dataset; others are left out.  Its legend names the slices.
-/
namespace Charting.Compile

/-- The caption at the centre, if there is a text for it. -/
def centerTitle (p : Props) (ctx : Context) : Option Title :=
  p.pie.centerText.map fun text =>
    ⟨text, p.pie.centerSubtext, ⟨ctx.theme.text, ctx.profile.fontSize * 2, true⟩⟩

/-- The names of the slices of the first series. -/
def sliceNames (series : List Series) : List String :=
  match series.head?.bind Series.pie? with
  | some s => s.slices.map (·.name)
  | none => []

/-- The option of a pie or donut with one dataset. -/
def pieOf (family : Family) (labels : List String) (first : Dataset) (p : Props) (ctx : Context) :
    ChartOption :=
  let series := Series.ofData ⟨labels, [first]⟩ family (.ofProps p ctx)
  { ChartOption.base p ctx with
    title := centerTitle p ctx
    tooltip := Tooltip.build p.tooltip family ctx
    legend :=
      if p.showLegend then some (.build p.legendPosition (sliceNames series) ctx) else none
    series := series }

/-- The option of the first dataset; there is none if that has no samples. -/
def pie (family : Family) (d : Data) (p : Props) (ctx : Context) : Option ChartOption :=
  match d.datasets with
  | [] => none
  | first :: _ => if first.data.isEmpty then none else some (pieOf family d.labels first p ctx)

end Charting.Compile
