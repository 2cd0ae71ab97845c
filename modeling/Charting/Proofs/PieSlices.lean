import Charting.Proofs.Blocks
import Charting.Proofs.SeriesOfData

/-! # The slices of a pie

A pie shows one dataset, a slice for each sample that has a label.  What a slice looks like comes
from lists that need not be equally long: names from the labels, colours from the dataset as far as
it has any and then from the palette.  Its percentage is worked out slice by slice against the total
of all slices, while `Percent.labels` does the same for a list at once.

`Slice.Shows` and `PieSeries.Shows` say that all of this stays in step, position by position.  What
datasets there are besides the first one makes no difference (`compile_pie_shows_first`).
-/
namespace Charting

open Number

/-! ## What a slice owes to its sample -/

/-- The colour that a dataset has for one of its samples. -/
def Dataset.ownColor? (d : Dataset) (index : Nat) : Option String :=
  match d.backgroundColor with
  | some (.each colors) => colors[index]?
  | some (.single _) | none => none

/-- The slice shows the sample at a position. -/
structure Slice.Shows (slice : Slice) (p : Props) (labels : List String) (d : Dataset)
    (index : Nat) : Prop where
  value : some slice.value = (d.plotted labels)[index]?
  /-- Without labels slices are counted from one. -/
  name : some slice.name = if labels = [] then some (toString (index + 1)) else labels[index]?
  color : some slice.color = (d.ownColor? index).or p.palette[index % p.palette.length]?
  percentage : some slice.percentage = (Percent.labels (d.plotted labels))[index]?
  label : slice.label =
    if p.pie.showPercentage = true then
      some ⟨p.pie.showLabels, slice.name ++ ": " ++ slice.percentage⟩
    else none

/-- The pie shows the samples of a dataset, each in a slice of its own. -/
structure PieSeries.Shows (s : PieSeries) (p : Props) (labels : List String) (d : Dataset) :
    Prop where
  name : s.name = d.label
  length : s.slices.length = (d.plotted labels).length
  slices : ∀ (index : Nat) (slice : Slice), s.slices[index]? = some slice →
    slice.Shows p labels d index

/-! ## One slice -/

namespace PieSeries

variable (d : Dataset) (labels : List String) (index : Nat)

/-- A sample that is shown has a label, if there are any. -/
theorem sliceName_eq {value : Binary64} (h : (d.plotted labels)[index]? = some value) :
    some (sliceName labels index) =
      if labels = [] then some (toString (index + 1)) else labels[index]? := by
  by_cases hlabels : labels = []
  · subst hlabels
    rfl
  · -- what is plotted ends with the labels, so the index never runs past them
    obtain ⟨hplotted, -⟩ := List.getElem?_eq_some_iff.mp h
    rw [d.length_plotted, if_pos hlabels] at hplotted
    have hlabel : index < labels.length := by omega
    rw [if_neg hlabels, sliceName, List.getElem?_eq_getElem hlabel, Option.getD_some]

theorem sliceColor_eq {palette : Palette} (h : palette ≠ []) :
    some (sliceColor d index palette) =
      (d.ownColor? index).or palette[index % palette.length]? := by
  rw [Palette.getElem?_mod index h]
  unfold sliceColor Dataset.ownColor?
  cases d.backgroundColor with
  | none => rfl
  | some coloring =>
    cases coloring with
    | single color => rfl
    | each colors =>
      dsimp only
      cases colors[index]? <;> rfl

theorem shows_slice (p : Props) {value : Binary64} (h : (d.plotted labels)[index]? = some value) :
    (slice d labels (.ofProps p p.context) (Percent.finiteTotal (d.plotted labels)) index
      value).Shows p labels d index := by
  constructor
  case value => exact h.symm
  case name => exact sliceName_eq d labels index h
  case color => exact sliceColor_eq d index p.palette_ne_nil
  case percentage =>
    rw [Percent.labels, List.getElem?_map, h]
    rfl
  case label => rfl

/-- The pie of a dataset shows the dataset. -/
theorem shows_ofDataset (family : Family) (p : Props) :
    (ofDataset d labels family (.ofProps p p.context)).Shows p labels d := by
  refine ⟨rfl, List.length_mapIdx, ?_⟩
  intro index slice hslice
  rw [ofDataset, List.getElem?_mapIdx] at hslice
  obtain ⟨value, hvalue, rfl⟩ := Option.map_eq_some_iff.mp hslice
  exact shows_slice d labels index p hvalue

end PieSeries

/-! ## Compiled pies -/

/-- **A pie shows its first dataset, slice by slice.**  The option of a pie or donut has one series,
whose slices show the samples of the first dataset in order, in the palette of the option, and the
datasets behind the first one have no part in it: with any others in their place the option is the
same. -/
theorem compile_pie_shows_first {family : Family} (hround : family = .pie ∨ family = .donut)
    {data : Option Data} {p : Props} {o : ChartOption}
    (h : compile family data p = .ok (some o)) :
    ∃ d first s, data = some d ∧ d.datasets.head? = some first ∧
      o.series = [.pie s] ∧ o.color = p.palette ∧ s.Shows p d.labels first ∧
      ∀ others, compile family (some ⟨d.labels, first :: others⟩) p = .ok (some o) := by
  obtain ⟨hvalid, hcompiled⟩ := compile_eq_some_iff.mp h
  obtain ⟨d, first, rfl, head, filled, rfl⟩ := hcompiled.exists_eq_pieOf hround
  have hseries := Compile.series_pieOf hround d.labels first p p.context
  have hshows := PieSeries.shows_ofDataset first d.labels family p
  refine ⟨d, first, _, rfl, head, hseries, rfl, hshows, ?_⟩
  intro others
  exact compile_eq_some_iff.mpr ⟨hvalid, .pieOf hround rfl filled⟩

/-- Votes of which one has a colour of its own and one has no label. -/
def paintedVotes : Dataset :=
  { label := "votes", data := [1, 3, 7], backgroundColor := some (.each ["#ff0000"]) }

theorem compile_pie_shows_first_votes :
    ∃ o s, compile .donut (some ⟨["yes", "no"], [paintedVotes, { label := "seats" }]⟩) {} =
        .ok (some o) ∧
      compile .donut (some ⟨["yes", "no"], [paintedVotes]⟩) {} = .ok (some o) ∧
      o.series = [.pie s] ∧ s.slices.length = 2 ∧
      ∀ slice, s.slices[1]? = some slice →
        slice.value = 3 ∧ slice.name = "no" ∧ slice.color = "#10b981" ∧
          slice.percentage = "75.0%" ∧ slice.label = some ⟨true, "no: 75.0%"⟩ := by
  have hvalid := Props.validate_eq_ok_iff.mpr Props.isValid_default
  have h := compile_eq_some_iff.mpr ⟨hvalid, (.pieOf (.inr rfl) rfl (by simp [paintedVotes]) :
    Compiled {} .donut (some ⟨["yes", "no"], [paintedVotes, { label := "seats" }]⟩) _)⟩
  obtain ⟨d, first, s, hdata, hfirst, hseries, -, hshows, hothers⟩ :=
    compile_pie_shows_first (.inr rfl) h
  cases hdata
  cases hfirst
  refine ⟨_, s, h, hothers [], hseries, hshows.length, ?_⟩
  intro slice hslice
  have hshown := hshows.slices 1 slice hslice
  have hshare : (Percent.labels (paintedVotes.plotted ["yes", "no"]))[1]? = some "75.0%" := by
    decide +kernel
  have hname : slice.name = "no" := Option.some.inj hshown.name
  have hpercentage : slice.percentage = "75.0%" := Option.some.inj (hshown.percentage.trans hshare)
  refine ⟨Option.some.inj hshown.value, hname, Option.some.inj hshown.color, hpercentage, ?_⟩
  rw [hshown.label, hname, hpercentage]
  decide

end Charting
