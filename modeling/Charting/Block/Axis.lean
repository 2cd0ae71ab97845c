import Charting.Block.Style
import Charting.Context

/-! # Axes

A *category* axis has a place for each label and turns the labels when there are many.  A
*value* axis measures samples and has dashed lines across the plot.
-/
namespace Charting

open Number
open Json (member memberIf)

/-- What an axis measures. -/
inductive AxisScale where
  | category (labels : List String)
  | value
  deriving DecidableEq

/-- Whether the axis measures samples. -/
def AxisScale.isValue : AxisScale → Bool
  | category _ => false
  | value => true

/-- The labels of a category axis. -/
def AxisScale.labels? : AxisScale → Option (List String)
  | category labels => some labels
  | value => none

/-- The name of an axis, which stands at its middle. -/
structure AxisName where
  text : String
  /-- The distance from the axis. -/
  gap : Binary64
  style : TextStyle
  deriving DecidableEq

/-- An axis of a chart. -/
structure Axis where
  scale : AxisScale
  name : Option AxisName
  /-- Whether a category axis leaves room at both ends. -/
  boundaryGap : Option Bool
  lineColor : String
  /-- How the labels are drawn. -/
  labelStyle : TextStyle
  /-- By how many degrees the labels are turned; turned labels are all shown. -/
  rotation : Option Binary64
  /-- Whether lines go across the plot. -/
  splitLines : Bool
  splitColor : String
  deriving DecidableEq

namespace Axis

/-- Labels are turned if there are more than the target bears. -/
def rotationFor (profile : Profile) : AxisScale → Option Binary64
  | .category labels =>
    if profile.rotationThreshold < labels.length then some profile.rotationDegrees else none
  | .value => none

/-- An axis without a name. -/
def build (scale : AxisScale) (ctx : Context) : Axis where
  scale := scale
  name := none
  boundaryGap := none
  lineColor := ctx.theme.axisLine
  labelStyle := ⟨ctx.theme.axisLabel, ctx.profile.fontSize, false⟩
  rotation := rotationFor ctx.profile scale
  splitLines := scale.isValue
  splitColor := ctx.theme.gridLine

/-- The distance of a name from an axis: more from a value axis. -/
def nameGap (scale : AxisScale) : Binary64 := if scale.isValue then 45 else 30

/-- The axis with a name; a missing or empty one changes nothing. -/
def withName (a : Axis) (name : Option String) (ctx : Context) : Axis :=
  match name with
  | none => a
  | some text =>
    if text = "" then a
    else
      { a with
        name := some ⟨text, nameGap a.scale, ⟨ctx.theme.axisLabel, ctx.profile.fontSize, false⟩⟩ }

/-- The axis with or without room at both ends. -/
def withBoundaryGap (a : Axis) (gap : Bool) : Axis := { a with boundaryGap := some gap }

/-- The axis with or without lines across the plot; only a value axis has any. -/
def withSplitLines (a : Axis) (lines : Bool) : Axis :=
  { a with splitLines := lines && a.scale.isValue }

/-- The members of the labels' style; turned labels are shown without gaps. -/
def labelJson (a : Axis) : Json :=
  .ofMembers [
    member "show" (.bool true),
    member "color" (.string a.labelStyle.color),
    member "fontSize" (.ofBinary64 a.labelStyle.fontSize),
    memberIf "rotate" a.rotation .ofBinary64,
    memberIf "interval" a.rotation fun _ => .ofNat 0]

/-- The axis as a renderer takes it. -/
def toJson (a : Axis) : Json :=
  .ofMembers [
    member "type" (.string (if a.scale.isValue then "value" else "category")),
    memberIf "data" a.scale.labels? .ofStrings,
    memberIf "name" a.name fun n => .string n.text,
    memberIf "nameLocation" a.name fun _ => .string "middle",
    memberIf "nameGap" a.name fun n => .ofBinary64 n.gap,
    memberIf "nameTextStyle" a.name fun n => n.style.toJson,
    memberIf "boundaryGap" a.boundaryGap .bool,
    member "axisLine" (.shownLine (!a.scale.isValue) { color := a.lineColor }),
    member "axisTick" (.shown false),
    member "axisLabel" a.labelJson,
    member "splitLine" (.shownLine a.splitLines { color := a.splitColor, dashed := true })]

end Axis
end Charting
