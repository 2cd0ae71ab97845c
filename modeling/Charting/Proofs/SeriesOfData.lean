import Charting.Series

/-! # One series for each dataset

Datasets become series one by one.  `Series.Follows` says what the series at a position owes to its
dataset: its name, how much of the dataset it draws, and its colour, which is the first one found
among those that the dataset asks for and that of the palette at the position.

The colour reaches a renderer in more than one place, as a fill that may be a gradient and as the
colour of a line; `Series.lineColor?` reads the latter from the JSON of the series.

A mixed chart has no way of its own to draw a dataset.  It draws each one as some other family does
(`Dataset.drawnAs`), so what holds of the other families holds of it.
-/
namespace Charting

open Number
open Json (member)

/-! ## What a series owes to its dataset -/

/-- Whether a series shows samples only as far as there are labels. -/
def Family.cutsToLabels : Family → Bool
  | line | bar | area | mixed | pie | donut => true
  | scatter | radar | gauge => false

/-- How many samples of a dataset are drawn; a gauge has one value in any case. -/
def Family.drawnLength (family : Family) (labels : List String) (d : Dataset) : Nat :=
  if family = .gauge then 1
  else if family.cutsToLabels = true ∧ labels ≠ [] then min d.data.length labels.length
  else d.data.length

/-- Whether a series has one colour.  Pies have one for each slice and gauges one for each
stop. -/
def Family.paintsSeries : Family → Bool
  | line | bar | area | mixed | scatter | radar => true
  | pie | donut | gauge => false

/-- Whether a series has a line through its samples. -/
def Family.drawsLines : Family → Bool
  | line | area | radar => true
  | bar | scatter | mixed | pie | donut | gauge => false

/-- The family of charts in which all datasets are of a kind. -/
def DatasetKind.family : DatasetKind → Family
  | line => .line
  | bar => .bar
  | area => .area

namespace Dataset

/-- The family as which a dataset is drawn: in a mixed chart that of its kind, or else that of
lines. -/
def drawnAs (d : Dataset) (family : Family) : Family :=
  if family = .mixed then (d.kind.getD .line).family else family

/-- The colour of a dataset: its own, or else that of its border, or else that of the palette at a
position, counted around; the default scheme stands in for an empty palette. -/
def colorAmong (d : Dataset) (palette : Palette) (index : Nat) : Option String :=
  let colors := if palette = [] then Scheme.standard.colors else palette
  d.color.or (d.borderColor.or colors[index % colors.length]?)

end Dataset

/-- The value under some keys, each inside the value of the one before. -/
def Json.at? (j : Json) (keys : List String) : Option Json :=
  keys.foldlM (fun j key => j.get? key) j

/-- The colour of the line through the samples, as a renderer takes it.  The line of a radar chart
is styled together with the values, in the only item of its series. -/
def Series.lineColor? : Series → Option Json
  | radar s => s.itemJson.at? ["lineStyle", "color"]
  | s => s.toJson.at? ["lineStyle", "color"]

/-- The series shows the dataset at a position. -/
structure Series.Follows (s : Series) (family : Family) (labels : List String) (palette : Palette)
    (index : Nat) (d : Dataset) : Prop where
  name : s.name = d.label
  length : s.length = family.drawnLength labels d
  /-- The colour of a flat fill, or the one at which a gradient starts. -/
  fill : s.fill?.map Fill.primaryColor =
    if family.paintsSeries = true then d.colorAmong palette index else none
  line : s.lineColor? =
    if (d.drawnAs family).drawsLines = true then (d.colorAmong palette index).map .string else none

/-! ## Colours of a palette -/

namespace Palette

variable {palette : Palette} (index : Nat)

theorem orStandard_of_ne_nil (h : palette ≠ []) : palette.orStandard = palette :=
  if_neg (by rwa [List.isEmpty_iff])

theorem getElem?_orStandard_mod :
    palette.orStandard[index % palette.orStandard.length]? = some (palette.colorAt index) :=
  List.getElem?_eq_getElem (Nat.mod_lt _ palette.length_orStandard_pos)

/-- The default scheme stands in for an empty palette only. -/
theorem getElem?_mod (h : palette ≠ []) :
    palette[index % palette.length]? = some (palette.colorAt index) := by
  have hcolor := palette.getElem?_orStandard_mod index
  rwa [orStandard_of_ne_nil h] at hcolor

end Palette

/-! ## The series of one dataset -/

namespace Dataset

variable (d : Dataset)

theorem colorAmong_eq (palette : Palette) (index : Nat) :
    d.colorAmong palette index = some (d.resolveColor index palette) := by
  have hpalette : (if palette = [] then Scheme.standard.colors else palette) =
      palette.orStandard := by
    simp [Palette.orStandard]
  simp only [colorAmong, hpalette, Palette.getElem?_orStandard_mod, resolveColor, declaredColor]
  cases d.color with
  | some color => rfl
  | none => cases d.borderColor <;> rfl

theorem length_plotted (labels : List String) :
    (d.plotted labels).length =
      if labels ≠ [] then min d.data.length labels.length else d.data.length := by
  unfold plotted
  cases labels with
  | nil => rfl
  | cons label rest => simp [Nat.min_comm]

/-- What mixed charts share with those of every kind does not depend on how a dataset is drawn. -/
theorem apply_drawnAs {α : Type} (f : Family → α)
    (h : ∀ kind : DatasetKind, f kind.family = f .mixed) (family : Family) :
    f (d.drawnAs family) = f family := by
  unfold drawnAs
  split
  case isTrue hmixed => rw [h, hmixed]
  case isFalse => rfl

theorem drawnLength_drawnAs (family : Family) (labels : List String) :
    (d.drawnAs family).drawnLength labels d = family.drawnLength labels d := by
  refine d.apply_drawnAs (Family.drawnLength · labels d) (fun kind => ?_) family
  cases kind <;> rfl

theorem paintsSeries_drawnAs (family : Family) :
    (d.drawnAs family).paintsSeries = family.paintsSeries := by
  refine d.apply_drawnAs Family.paintsSeries (fun kind => ?_) family
  cases kind <;> rfl

theorem drawnAs_ne_mixed (family : Family) : d.drawnAs family ≠ .mixed := by
  unfold drawnAs
  split
  · cases d.kind.getD .line <;> exact Family.noConfusion
  · assumption

end Dataset

theorem BarSeries.primaryColor_ofDataset (d : Dataset) (labels : List String) (color : String)
    (style : SeriesStyle) : (ofDataset d labels color style).fill.primaryColor = color := by
  unfold ofDataset
  split <;> rfl

namespace Series

theorem lineColor?_line (s : LineSeries) : (line s).lineColor? = some (.string s.color) := by
  cases hstacked : s.stacked <;> cases harea : s.area <;>
    simp [lineColor?, Json.at?, toJson, members, LineSeries.members, LineStyle.toJson, Json.get?,
      Json.lookup, Json.ofMembers, member, Json.memberIf, hstacked, harea]

theorem lineColor?_bar (s : BarSeries) : (bar s).lineColor? = none := by
  cases hstacked : s.stacked <;> cases hlabel : s.label <;>
    simp [lineColor?, Json.at?, toJson, members, BarSeries.members, Json.get?, Json.lookup,
      Json.ofMembers, member, Json.memberIf, hstacked, hlabel]

theorem lineColor?_pie (s : PieSeries) : (pie s).lineColor? = none := by
  cases hrose : s.roseType <;>
    simp [lineColor?, Json.at?, toJson, members, PieSeries.members, Json.get?, Json.lookup,
      Json.ofMembers, member, hrose]

variable (labels : List String) (style : SeriesStyle) (index : Nat) (d : Dataset)

/-- A mixed chart draws a dataset as charts of another family do. -/
theorem ofDataset_drawnAs (family : Family) :
    ofDataset (d.drawnAs family) labels style index d = ofDataset family labels style index d := by
  unfold Dataset.drawnAs
  split
  case isTrue hmixed =>
    subst hmixed
    cases hkind : d.kind.getD .line <;> simp [ofDataset, hkind, DatasetKind.family]
  case isFalse => rfl

/-- Outside of mixed charts the family alone says how a dataset is drawn. -/
theorem follows_ofDataset_of_ne_mixed {family : Family} (h : family ≠ .mixed) :
    (ofDataset family labels style index d).Follows family labels style.context.palette index
      d := by
  have hcolor := d.colorAmong_eq style.context.palette index
  have hdrawn : d.drawnAs family = family := if_neg h
  have hplotted := d.length_plotted labels
  constructor
  case name =>
    cases family with
    | mixed => exact absurd rfl h
    | line | area | bar | scatter | radar | pie | donut | gauge => rfl
  case length =>
    cases family with
    | mixed => exact absurd rfl h
    | line | area | bar =>
      exact hplotted.trans (by simp [Family.drawnLength, Family.cutsToLabels])
    | pie | donut =>
      exact List.length_mapIdx.trans
        (hplotted.trans (by simp [Family.drawnLength, Family.cutsToLabels]))
    | scatter => exact List.length_mapIdx
    | radar | gauge => rfl
  case fill =>
    rw [hcolor]
    cases family with
    | mixed => exact absurd rfl h
    | bar => exact congrArg some (BarSeries.primaryColor_ofDataset d labels _ style)
    | line | area | scatter | radar | pie | donut | gauge => rfl
  case line =>
    rw [hcolor, hdrawn]
    cases family with
    | mixed => exact absurd rfl h
    | line | area => exact lineColor?_line _
    | bar => exact lineColor?_bar _
    | pie | donut => exact lineColor?_pie _
    | scatter | radar | gauge => rfl

theorem follows_ofDataset (family : Family) :
    (ofDataset family labels style index d).Follows family labels style.context.palette index
      d := by
  have hdrawn := d.drawnAs_ne_mixed family
  have h := follows_ofDataset_of_ne_mixed labels style index d hdrawn
  rw [ofDataset_drawnAs] at h
  constructor
  case name => exact h.name
  case length => rw [h.length, d.drawnLength_drawnAs]
  case fill => rw [h.fill, d.paintsSeries_drawnAs]
  case line => rw [h.line, Dataset.drawnAs, if_neg hdrawn]

/-! ## All series -/

/-- **Every dataset becomes one series, by itself.**  There are as many series as datasets.  The
series at a position follows the dataset there; it is the one that charts of the family as which the
dataset is drawn have there; and no other dataset has a part in it. -/
theorem ofData_follows (d : Data) (family : Family) (style : SeriesStyle) :
    (ofData d family style).length = d.datasets.length ∧
    ∀ (index : Nat) (source : Dataset), d.datasets[index]? = some source →
      ∃ s : Series, (ofData d family style)[index]? = some s ∧
        s.Follows family d.labels style.context.palette index source ∧
        (ofData d (source.drawnAs family) style)[index]? = some s ∧
        ∀ others : List Dataset, others[index]? = some source →
          (ofData ⟨d.labels, others⟩ family style)[index]? = some s := by
  refine ⟨List.length_mapIdx, ?_⟩
  intro index source hsource
  refine ⟨_, getElem?_ofData hsource, follows_ofDataset d.labels style index source family, ?_, ?_⟩
  · rw [getElem?_ofData hsource, ofDataset_drawnAs]
  · intro others hothers
    exact getElem?_ofData (d := ⟨d.labels, others⟩) hothers

/-- Bars in the colour of their border, more of them than there are labels. -/
def madeBars : Dataset :=
  { label := "made", data := [2, 4], kind := some .bar, borderColor := some "#333333" }

/-- The bars between datasets that are drawn in other ways. -/
def threeKinds : Data :=
  ⟨["q1"], [{ label := "sold", data := [3] }, madeBars, { label := "lost", kind := some .area }]⟩

/-- Bars with a gradient, without a palette. -/
def gradientBars : SeriesStyle := { SeriesStyle.standard with barGradient := true }.withPalette []

theorem ofData_follows_threeKinds :
    threeKinds.datasets[1]? = some madeBars ∧
      ∃ s, (ofData threeKinds .mixed gradientBars)[1]? = some s ∧
        s.Follows .mixed ["q1"] [] 1 madeBars ∧
        (ofData threeKinds .bar gradientBars)[1]? = some s ∧
        (ofData ⟨["q1"], [{ label := "kept" }, madeBars]⟩ .mixed gradientBars)[1]? = some s := by
  obtain ⟨-, hall⟩ := ofData_follows threeKinds .mixed gradientBars
  obtain ⟨s, hs, hfollows, hbars, hothers⟩ := hall 1 madeBars rfl
  exact ⟨rfl, s, hs, hfollows, hbars, hothers [{ label := "kept" }, madeBars] rfl⟩

end Series
end Charting
