import Charting.Block.Style
import Charting.Context
import Charting.Family
import Charting.Switch

/-! # Tooltips -/
namespace Charting

open Number
open Json (member memberIf)

/-- What brings a tooltip up. -/
inductive TooltipTrigger where
  | axis
  | item
  | none
  deriving DecidableEq

namespace TooltipTrigger

/-- All triggers. -/
def all : List TooltipTrigger := [axis, item, none]

/-- The name of a trigger. -/
def name : TooltipTrigger → String
  | axis => "axis"
  | item => "item"
  | none => "none"

/-- The trigger of a family: charts with axes react to a place on the axis, others to an
item. -/
def standard (family : Family) : TooltipTrigger := if family.isCartesian then axis else item

end TooltipTrigger

/-- How a place on the axis is marked. -/
inductive AxisPointer where
  | line
  | shadow
  | cross
  | none
  deriving DecidableEq

namespace AxisPointer

/-- All pointers. -/
def all : List AxisPointer := [line, shadow, cross, none]

/-- The name of a pointer. -/
def name : AxisPointer → String
  | line => "line"
  | shadow => "shadow"
  | cross => "cross"
  | none => "none"

/-- The pointer of a family: charts with bars have shadows. -/
def standard : Family → AxisPointer
  | .bar | .mixed => shadow
  | _ => line

end AxisPointer

/-- Settings of a tooltip, each in place of the one that the family has. -/
structure TooltipSettings where
  trigger : Option TooltipTrigger := Option.none
  formatter : Option String := Option.none
  axisPointer : Option AxisPointer := Option.none
  deriving BEq, DecidableEq

/-- The settings of a tooltip as a record. -/
def TooltipSettings.record : Record TooltipSettings where
  start := {}
  needed := 0
  fields := [
    .always "trigger" (.optional (.named TooltipTrigger.all TooltipTrigger.name)) (·.trigger)
      fun x s => { s with trigger := x },
    .always "formatter" (.optional .text) (·.formatter) fun x s => { s with formatter := x },
    .always "axisPointer" (.optional (.named AxisPointer.all AxisPointer.name)) (·.axisPointer)
      fun x s => { s with axisPointer := x }]

/-- The tooltip of a chart. -/
structure Tooltip where
  trigger : TooltipTrigger
  backgroundColor : String
  borderColor : String
  textStyle : TextStyle
  /-- Whether the tooltip stays inside the chart. -/
  confine : Bool
  axisPointer : Option AxisPointer
  formatter : Option String
  deriving DecidableEq

namespace Tooltip

/-- The text of a slice's tooltip, in the template language of the renderer. -/
def sliceFormatter : String := "\x7bb\x7d: \x7bc\x7d (\x7bd\x7d%)"

/-- The tooltip that the settings describe.  Only a tooltip of the axis has a pointer. -/
def ofSettings (s : TooltipSettings) (family : Family) (ctx : Context) : Tooltip :=
  let trigger := s.trigger.getD (.standard family)
  { trigger := trigger
    backgroundColor := ctx.theme.tooltipBackground
    borderColor := ctx.theme.tooltipBorder
    textStyle := ⟨ctx.theme.tooltipText, ctx.profile.fontSize, false⟩
    confine := ctx.profile.confinesTooltip
    axisPointer :=
      if trigger = .axis then some (s.axisPointer.getD (.standard family)) else none
    formatter := s.formatter.or (if family.isPie then some sliceFormatter else none) }

/-- The tooltip of a chart, unless it is turned off. -/
def build (tooltip : Switch TooltipSettings) (family : Family) (ctx : Context) :
    Option Tooltip :=
  (tooltip.resolve {}).map fun s => ofSettings s family ctx

/-- The tooltip as a renderer takes it. -/
def toJson (t : Tooltip) : Json :=
  .ofMembers [
    member "show" (.bool true),
    member "trigger" (.string t.trigger.name),
    member "backgroundColor" (.string t.backgroundColor),
    member "borderColor" (.string t.borderColor),
    member "borderWidth" (.ofBinary64 1),
    member "textStyle" t.textStyle.toJson,
    member "confine" (.bool t.confine),
    memberIf "axisPointer" t.axisPointer fun p => .ofMembers [member "type" (.string p.name)],
    memberIf "formatter" t.formatter .string]

end Tooltip
end Charting
