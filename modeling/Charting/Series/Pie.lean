import Charting.Data
import Charting.Percent
import Charting.Series.Style

/-! # Slices of pies and donuts -/
namespace Charting

open Number
open Json (member memberIf)

/-- The text beside a slice. -/
structure SliceLabel where
  shown : Bool
  text : String
  deriving DecidableEq

/-- The label as a renderer takes it. -/
def SliceLabel.toJson (l : SliceLabel) : Json :=
  .ofMembers [member "show" (.bool l.shown), member "formatter" (.string l.text)]

/-- A slice of a pie. -/
structure Slice where
  name : String
  value : Binary64
  color : String
  label : Option SliceLabel
  /-- The share of the slice in the whole, as a text; it is not written. -/
  percentage : String
  deriving DecidableEq

/-- The slice as a renderer takes it. -/
def Slice.toJson (s : Slice) : Json :=
  .ofMembers [
    member "name" (.string s.name),
    member "value" (.ofBinary64 s.value),
    member "itemStyle" (Fill.solid s.color).itemJson,
    memberIf "label" s.label SliceLabel.toJson]

/-- A pie with the samples of a dataset as slices. -/
structure PieSeries where
  name : String
  innerRadius : Dimension
  outerRadius : Dimension
  /-- Whether the slices differ in radius. -/
  roseType : Bool
  slices : List Slice
  showLabels : Bool
  /-- How the names beside the slices are drawn. -/
  labelStyle : TextStyle
  borderColor : String
  deriving DecidableEq

namespace PieSeries

/-- The radius of the hole: a donut has one. -/
def defaultInnerRadius (family : Family) : Dimension :=
  if family = .donut then .percent 50 else .percent 0

/-- The name of a slice: its label, or its number counted from one. -/
def sliceName (labels : List String) (index : Nat) : String :=
  (labels[index]?).getD (toString (index + 1))

/-- The colour of a slice: its own if the dataset has one for each sample, or else that of
the palette. -/
def sliceColor (d : Dataset) (index : Nat) (palette : Palette) : String :=
  match d.backgroundColor with
  | some (.each colors) => (colors[index]?).getD (palette.colorAt index)
  | _ => palette.colorAt index

/-- The slice of a sample in a total. -/
def slice (d : Dataset) (labels : List String) (style : SeriesStyle) (total : Binary64)
    (index : Nat) (value : Binary64) : Slice :=
  let name := sliceName labels index
  let percentage := Percent.label value total
  { name := name
    value := value
    color := sliceColor d index style.context.palette
    label :=
      if style.pieShowPercentage then some ⟨style.pieShowLabels, s!"{name}: {percentage}"⟩
      else none
    percentage := percentage }

/-- The pie of a dataset. -/
def ofDataset (d : Dataset) (labels : List String) (family : Family) (style : SeriesStyle) :
    PieSeries :=
  let values := d.plotted labels
  { name := d.label
    innerRadius := style.pieInnerRadius.getD (defaultInnerRadius family)
    outerRadius := style.pieOuterRadius
    roseType := style.pieRoseType
    slices := values.mapIdx (slice d labels style (Percent.finiteTotal values))
    showLabels := style.pieShowLabels
    labelStyle := ⟨style.context.theme.text, style.context.profile.fontSize, false⟩
    borderColor := style.context.theme.tooltipBackground }

/-- The shares of the slices. -/
def percentages (s : PieSeries) : List String := s.slices.map (·.percentage)

/-- A pie lies at the centre of the chart. -/
def center : List Dimension := [.percent 50, .percent 50]

/-- The members of a pie behind its type. -/
def members (s : PieSeries) : List (Option (String × Json)) := [
  member "name" (.string s.name),
  member "radius" (.array ([s.innerRadius, s.outerRadius].map Format.dimension.encode)),
  member "center" (.array (center.map Format.dimension.encode)),
  if s.roseType then member "roseType" (.string "radius") else none,
  member "avoidLabelOverlap" (.bool true),
  member "data" (.array (s.slices.map Slice.toJson)),
  member "label" (.ofMembers [
    member "show" (.bool s.showLabels),
    member "position" (.string "outside"),
    member "formatter" (.string "\x7bb\x7d"),
    member "color" (.string s.labelStyle.color),
    member "fontSize" (.ofBinary64 s.labelStyle.fontSize)]),
  member "labelLine" (.shown s.showLabels),
  member "itemStyle" (.ofMembers [
    member "borderColor" (.string s.borderColor),
    member "borderWidth" (.ofBinary64 2)]),
  member "emphasis" (.emphasis "self")]

end PieSeries
end Charting
