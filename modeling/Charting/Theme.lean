import Charting.Json.Basic

/-! # Themes

A theme fixes the colours of everything that is not data: axes, grid lines, tooltips and
text.
-/
namespace Charting

open Json (member)

/-- The colour themes of a host. -/
inductive Theme where
  | light
  | dark
  deriving DecidableEq, Inhabited

/-- The structural colours that every block of a chart shares. -/
structure ThemeColors where
  axisLine : String
  axisLabel : String
  gridLine : String
  tooltipBackground : String
  tooltipBorder : String
  tooltipText : String
  text : String
  deriving DecidableEq

/-- All themes. -/
def Theme.all : List Theme := [light, dark]

/-- The name of a theme. -/
def Theme.name : Theme → String
  | light => "light"
  | dark => "dark"

/-- The structural colours of a theme. -/
def Theme.colors : Theme → ThemeColors
  | light => ⟨"#e5e7eb", "#6b7280", "#f3f4f6", "#ffffff", "#e5e7eb", "#111827", "#374151"⟩
  | dark => ⟨"#374151", "#9ca3af", "#1f2937", "#1f2937", "#374151", "#f9fafb", "#d1d5db"⟩

/-- The colours under their names. -/
def ThemeColors.toJson (c : ThemeColors) : Json :=
  .ofMembers [
    member "axisLine" (.string c.axisLine),
    member "axisLabel" (.string c.axisLabel),
    member "gridLine" (.string c.gridLine),
    member "tooltipBackground" (.string c.tooltipBackground),
    member "tooltipBorder" (.string c.tooltipBorder),
    member "tooltipText" (.string c.tooltipText),
    member "text" (.string c.text)]

end Charting
