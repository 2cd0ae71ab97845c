import Charting.Proofs.Outcome
import Charting.Proofs.SeriesOfData
import Mathlib.Data.List.Forall2

/-! # Samples beyond the labels

A chart with a place for each label leaves out the samples that have none.  They are left out
everywhere: not drawn, not part of the total of a pie, and without a say in whether there is
anything to plot.  So `Data.cut`, which takes them away, changes nothing (`compile_cut`), and data
that differ in nothing else are compiled alike.

Without any labels nothing is left out.  Scatter plots and radar charts keep all samples anyway.
-/
namespace Charting

open Number

/-! ## Cutting -/

/-- The dataset with at most so many samples. -/
def Dataset.cut (length : Nat) (d : Dataset) : Dataset := { d with data := d.data.take length }

/-- The data without the samples beyond their labels. -/
def Data.cut (d : Data) : Data := { d with datasets := d.datasets.map (.cut d.labels.length) }

/-- Two datasets with the same attributes and so many first samples in common, or all of them. -/
structure Dataset.AgreesUpTo (length : Nat) (a b : Dataset) : Prop where
  attributes : { a with data := b.data } = b
  samples : a.data.take length = b.data.take length

/-- Two data with the same labels, whose datasets agree place by place as far as there are
labels. -/
structure Data.AgreesOnLabelled (a b : Data) : Prop where
  labels : a.labels = b.labels
  datasets : List.Forall₂ (Dataset.AgreesUpTo a.labels.length) a.datasets b.datasets

theorem Dataset.AgreesUpTo.cut_eq {length : Nat} {a b : Dataset} (h : a.AgreesUpTo length b) :
    a.cut length = b.cut length := by
  rw [cut, h.samples, ← h.attributes]
  rfl

theorem Dataset.map_cut_eq {length : Nat} {as bs : List Dataset}
    (h : List.Forall₂ (AgreesUpTo length) as bs) : as.map (cut length) = bs.map (cut length) := by
  induction h with
  | nil => rfl
  | cons hab _ ih => rw [List.map_cons, List.map_cons, hab.cut_eq, ih]

/-- What is left of data that agree is the same. -/
theorem Data.AgreesOnLabelled.cut_eq {a b : Data} (h : a.AgreesOnLabelled b) : a.cut = b.cut := by
  rw [cut, cut, Dataset.map_cut_eq h.datasets, h.labels]

/-! ## What is left is what is plotted -/

section

variable {labels : List String} (hlabels : labels ≠ [])
include hlabels

theorem Dataset.plotted_cut (d : Dataset) :
    (d.cut labels.length).plotted labels = d.plotted labels := by
  have hsome : labels.isEmpty = false := by simpa using hlabels
  simp only [plotted, hsome, Bool.false_eq_true, if_false, cut, List.take_take, Nat.min_self]

/-- With a label at hand, cutting leaves at least one sample if there was any. -/
theorem Dataset.data_cut_eq_nil_iff (d : Dataset) :
    (d.cut labels.length).data = [] ↔ d.data = [] := by
  have hlength : labels.length ≠ 0 := by simpa using hlabels
  simp [cut, List.take_eq_nil_iff, hlength]

theorem Series.ofDataset_cut {family : Family} (hcuts : family.cutsToLabels = true)
    (style : SeriesStyle) (index : Nat) (d : Dataset) :
    ofDataset family labels style index (d.cut labels.length) =
      ofDataset family labels style index d := by
  have hplotted := d.plotted_cut hlabels
  have hline (color : String) (filled : Bool) :
      LineSeries.ofDataset (d.cut labels.length) labels color filled style =
        .ofDataset d labels color filled style := by
    simp only [LineSeries.ofDataset, hplotted]
    rfl
  have hbar (color : String) :
      BarSeries.ofDataset (d.cut labels.length) labels color style =
        .ofDataset d labels color style := by
    simp only [BarSeries.ofDataset, hplotted]
    rfl
  -- The total of a pie and the names of its slices go by what is plotted as well.
  have hpie (family : Family) :
      PieSeries.ofDataset (d.cut labels.length) labels family style =
        .ofDataset d labels family style := by
    simp only [PieSeries.ofDataset, hplotted]
    rfl
  cases family with
  | scatter | radar | gauge => cases hcuts
  | line | area => exact congrArg line (hline _ _)
  | bar => exact congrArg bar (hbar _)
  | pie | donut => exact congrArg pie (hpie _)
  | mixed =>
    have hkind : (d.cut labels.length).kind = d.kind := rfl
    unfold ofDataset
    rw [hkind]
    cases d.kind.getD .line with
    | line | area => exact congrArg line (hline _ _)
    | bar => exact congrArg bar (hbar _)

end

variable {family : Family} {d : Data}

namespace Data

theorem isEmpty_cut (hlabels : d.labels ≠ []) : d.cut.isEmpty = d.isEmpty := by
  rw [Bool.eq_iff_iff, isEmpty_iff, isEmpty_iff]
  simp only [cut, List.forall_mem_map, Dataset.data_cut_eq_nil_iff hlabels]

@[simp] theorem seriesLabels_cut : d.cut.seriesLabels = d.seriesLabels := by
  simp [seriesLabels, cut, Dataset.cut, Function.comp_def]

end Data

theorem Series.ofData_cut (hcuts : family.cutsToLabels = true) (hlabels : d.labels ≠ [])
    (style : SeriesStyle) : ofData d.cut family style = ofData d family style := by
  refine List.ext_getElem? fun index => ?_
  simp only [ofData, Data.cut, List.getElem?_mapIdx, List.getElem?_map, Option.map_map]
  refine congrArg (Option.map · d.datasets[index]?) (funext fun source => ?_)
  exact ofDataset_cut hlabels hcuts style index source

/-! ## Compiling -/

namespace Compile

variable (hcuts : family.cutsToLabels = true) (hlabels : d.labels ≠ []) (p : Props) (ctx : Context)
include hcuts hlabels

theorem cartesian_cut : cartesian family d.cut p ctx = cartesian family d p ctx := by
  simp only [cartesian, Data.seriesLabels_cut, Series.ofData_cut hcuts hlabels]
  rfl

/-- The first dataset of a pie is cut by itself. -/
theorem pie_cut : pie family d.cut p ctx = pie family d p ctx := by
  have hfirst (first : Dataset) :
      Series.ofData ⟨d.labels, [first.cut d.labels.length]⟩ family (.ofProps p ctx) =
        Series.ofData ⟨d.labels, [first]⟩ family (.ofProps p ctx) :=
    Series.ofData_cut (d := ⟨d.labels, [first]⟩) hcuts hlabels _
  unfold pie
  cases hdatasets : d.datasets with
  | nil => simp [Data.cut, hdatasets]
  | cons first rest =>
    simp only [Data.cut, hdatasets, List.map_cons, List.isEmpty_iff,
      Dataset.data_cut_eq_nil_iff hlabels, pieOf, hfirst]

theorem checked_cut : checked family (some d.cut) p = checked family (some d) p := by
  have hplot : plot family d.cut p p.context = plot family d p p.context := by
    cases family with
    | scatter | radar | gauge => cases hcuts
    | line | bar | area | mixed => exact congrArg some (cartesian_cut hcuts hlabels p _)
    | pie | donut => exact pie_cut hcuts hlabels p _
  simp only [checked, Data.isEmpty_cut hlabels, hplot]

end Compile

/-- **Samples beyond the labels are ignored.**  In a chart that cuts its samples to its labels, data
and what the labels leave of them are compiled alike; so are any two data that agree as far as there
are labels, whatever they have beyond. -/
theorem compile_eq_of_agreesOnLabelled (hcuts : family.cutsToLabels = true)
    (hlabels : d.labels ≠ []) (p : Props) :
    compile family (some d.cut) p = compile family (some d) p ∧
      ∀ other, d.AgreesOnLabelled other →
        compile family (some other) p = compile family (some d) p := by
  have hcut {d : Data} (hlabels : d.labels ≠ []) :
      compile family (some d.cut) p = compile family (some d) p := by
    unfold compile
    rw [Compile.checked_cut hcuts hlabels p]
  refine ⟨hcut hlabels, ?_⟩
  intro other hother
  have hlabels' : other.labels ≠ [] := hother.labels ▸ hlabels
  calc
    compile family (some other) p = compile family (some other.cut) p := (hcut hlabels').symm
    _ = compile family (some d.cut) p := by rw [hother.cut_eq]
    _ = compile family (some d) p := hcut hlabels

/-- Two labels and four samples, of which those without a label would spoil the total. -/
def overlong : Data := ⟨["yes", "no"], [{ label := "votes", data := [1, 3, .nan, 1e300] }]⟩

/-- The two samples that have a label, and one more. -/
def otherwiseLong : Data := ⟨["yes", "no"], [{ label := "votes", data := [1, 3, -7] }]⟩

theorem compile_eq_of_agreesOnLabelled_pie :
    overlong.labels ≠ [] ∧ overlong.AgreesOnLabelled otherwiseLong ∧
      compile .pie (some overlong.cut) {} = compile .pie (some overlong) {} ∧
      compile .pie (some otherwiseLong) {} = compile .pie (some overlong) {} := by
  have hlabels : overlong.labels ≠ [] := by simp [overlong]
  have hagree : overlong.AgreesOnLabelled otherwiseLong :=
    ⟨rfl, .cons ⟨by decide +kernel, by decide +kernel⟩ .nil⟩
  have hcuts : Family.pie.cutsToLabels = true := rfl
  obtain ⟨hcut, hother⟩ := compile_eq_of_agreesOnLabelled hcuts hlabels {}
  exact ⟨hlabels, hagree, hcut, hother _ hagree⟩

end Charting
