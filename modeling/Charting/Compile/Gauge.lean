import Charting.ChartOption

/-! # Gauges

A gauge takes its value from the properties and needs no data.
-/
namespace Charting.Compile

/-- The name of a gauge that has none. -/
def defaultGaugeName : String := "Value"

/-- The option of a gauge. -/
def gauge (p : Props) (ctx : Context) : ChartOption :=
  { ChartOption.base p ctx with
    tooltip := Tooltip.build p.tooltip .gauge ctx
    series := [.gauge (.build p.gauge.value (p.gauge.name.getD defaultGaugeName) p.gauge ctx)] }

end Charting.Compile
