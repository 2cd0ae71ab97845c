import Charting.Json.Basic

/-! # Styles of text and lines -/
namespace Charting

open Number
open Json (member memberIf)

/-- How a text is drawn. -/
structure TextStyle where
  color : String
  fontSize : Binary64
  bold : Bool := false
  deriving DecidableEq

/-- How a line is drawn. -/
structure LineStyle where
  color : String
  width : Option Binary64 := none
  dashed : Bool := false
  deriving DecidableEq

/-- The style of a text; only bold text names its weight. -/
def TextStyle.toJson (s : TextStyle) : Json :=
  .ofMembers [
    member "color" (.string s.color),
    member "fontSize" (.ofBinary64 s.fontSize),
    if s.bold then member "fontWeight" (.string "bold") else none]

/-- The style of a line; only a dashed line names its type. -/
def LineStyle.toJson (s : LineStyle) : Json :=
  .ofMembers [
    member "color" (.string s.color),
    memberIf "width" s.width .ofBinary64,
    if s.dashed then member "type" (.string "dashed") else none]

/-- A part that is only shown or hidden. -/
def Json.shown (visible : Bool) : Json := .ofMembers [member "show" (.bool visible)]

/-- A line that is shown or hidden. -/
def Json.shownLine (visible : Bool) (style : LineStyle) : Json :=
  .ofMembers [member "show" (.bool visible), member "lineStyle" style.toJson]

end Charting
