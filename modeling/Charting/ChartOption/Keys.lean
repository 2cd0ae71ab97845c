/-! # The keys of a chart option

These members of an option belong to the library; extensions of a host must not use them.
-/
namespace Charting.ChartOption

/-- The keys of the parts of an option. -/
def keys : List String :=
  ["color", "backgroundColor", "animation", "textStyle", "title", "tooltip", "legend", "grid",
    "xAxis", "yAxis", "radar", "dataZoom", "series"]

end Charting.ChartOption
