import Charting.Number.Binary64
import Charting.Palette

/-! # Chart data

The data of a chart are category labels and *datasets*, each a named row of samples with
optional attributes.  Samples may be any binary64 numbers.

Two equalities matter.  `==` compares samples as numbers, so that data with a NaN differs
from itself.  `sameAs` takes two NaNs for equal and decides whether a chart has to be drawn
again.
-/
namespace Charting

open Number

/-- How one dataset of a mixed chart is drawn. -/
inductive DatasetKind where
  | line
  | bar
  | area
  deriving DecidableEq, Inhabited

namespace DatasetKind

/-- All kinds of datasets. -/
def all : List DatasetKind := [line, bar, area]

/-- The name of a kind. -/
def name : DatasetKind → String
  | line => "line"
  | bar => "bar"
  | area => "area"

end DatasetKind

/-- A named row of samples. -/
structure Dataset where
  label : String
  data : List Binary64 := []
  /-- How a mixed chart draws the dataset. -/
  kind : Option DatasetKind := none
  color : Option String := none
  borderColor : Option String := none
  /-- Colours of a fill; a list has one colour for each sample. -/
  backgroundColor : Option Coloring := none
  borderWidth : Option Binary64 := none
  /-- Whether the area under a line is filled. -/
  fill : Option Bool := none
  smooth : Option Bool := none
  deriving BEq, DecidableEq

namespace Dataset

/-- The colour that the dataset asks for: its own, or else that of its border. -/
def declaredColor (d : Dataset) : Option String := d.color.or d.borderColor

/-- The colour of the dataset at a position: the one that it asks for, or else that of the
palette. -/
def resolveColor (d : Dataset) (index : Nat) (palette : Palette) : String :=
  d.declaredColor.getD (palette.colorAt index)

/-- Whether two lists are equally long and equal place by place. -/
def allSame {α : Type} (same : α → α → Bool) : List α → List α → Bool
  | [], [] => true
  | a :: as, b :: bs => same a b && allSame same as bs
  | _, _ => false

/-- Whether two widths are both missing or the same. -/
def sameWidth : Option Binary64 → Option Binary64 → Bool
  | some a, some b => a.sameAs b
  | none, none => true
  | _, _ => false

/-- Equality of all attributes and samples, two NaNs being equal. -/
def sameAs (a b : Dataset) : Bool :=
  a.label == b.label && a.kind == b.kind && a.color == b.color &&
    a.borderColor == b.borderColor && a.backgroundColor == b.backgroundColor &&
    sameWidth a.borderWidth b.borderWidth && a.fill == b.fill && a.smooth == b.smooth &&
    allSame Binary64.sameAs a.data b.data

/-- The samples that have a label; without any labels all of them. -/
def plotted (d : Dataset) (labels : List String) : List Binary64 :=
  if labels.isEmpty then d.data else d.data.take labels.length

end Dataset

/-- Category labels and datasets. -/
structure Data where
  labels : List String := []
  datasets : List Dataset := []
  deriving BEq, DecidableEq

namespace Data

/-- Whether there is nothing to plot: every dataset is without samples. -/
def isEmpty (d : Data) : Bool := d.datasets.all fun s => s.data.isEmpty

/-- The labels of the datasets. -/
def seriesLabels (d : Data) : List String := d.datasets.map (·.label)

/-- Equality of all labels and datasets, two NaNs being equal. -/
def sameAs (a b : Data) : Bool :=
  a.labels == b.labels && Dataset.allSame Dataset.sameAs a.datasets b.datasets

/-- All samples, dataset by dataset. -/
def samples (d : Data) : List Binary64 := d.datasets.flatMap (·.data)

/-- The larger of a best value so far and a next one, the next one if they are equal. -/
def larger (best : Option Binary64) (x : Binary64) : Option Binary64 :=
  match best with
  | none => some x
  | some b => if b ≤ x then some x else some b

/-- The largest finite sample, the last one of equal ones. -/
def maxValue (d : Data) : Option Binary64 := (d.samples.filter Binary64.isFinite).foldl larger none

end Data
end Charting
