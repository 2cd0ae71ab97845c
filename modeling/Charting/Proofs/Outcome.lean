import Charting.Compile

/-! # When a chart has an option

Compiling has three outcomes.  It fails exactly when the properties are at fault, with their
fault; it has no option exactly when there is nothing to plot; and otherwise it has an option
that plots something.

Whether there is anything to plot is asked at three places: gauges come before the data are
looked at, the data must not be empty as a whole, and a pie needs samples in its first
dataset.  `NothingToPlot` says it in one place, and `Compiled` lists how the options that
remain come about, each with the data that it plots.  The facts about all options of the other
modules go through the cases of `Compiled`.
-/
namespace Charting

/-- Not a gauge, and there are no data, or every dataset is without samples, or it is the first
dataset of a pie or donut that is. -/
def NothingToPlot (family : Family) (data : Option Data) : Prop :=
  family ≠ .gauge ∧
    (data = none ∨ ∃ d, data = some d ∧
      ((∀ s ∈ d.datasets, s.data = []) ∨
        (family = .pie ∨ family = .donut) ∧ ∃ first, d.datasets.head? = some first ∧
          first.data = []))

/-- How the option of a chart comes about. -/
inductive Compiled (p : Props) : Family → Option Data → ChartOption → Prop
  /-- Charts with axes plot all datasets, one of which has samples. -/
  | cartesian {family d} (axes : family.isCartesian = true) (filled : d.isEmpty = false) :
    Compiled p family (some d) (Compile.cartesian family d p p.context)
  /-- Pies plot the first dataset, which has samples. -/
  | pieOf {family d first} (round : family = .pie ∨ family = .donut)
    (head : d.datasets.head? = some first) (filled : first.data ≠ []) :
    Compiled p family (some d) (Compile.pieOf family d.labels first p p.context)
  /-- Radar charts plot all datasets, one of which has samples. -/
  | radar {d} (filled : d.isEmpty = false) :
    Compiled p .radar (some d) (Compile.radar d p p.context)
  /-- Gauges plot no data. -/
  | gauge {data} : Compiled p .gauge data (Compile.gauge p p.context)

namespace Data

theorem isEmpty_iff {d : Data} : d.isEmpty = true ↔ ∀ s ∈ d.datasets, s.data = [] := by
  simp [isEmpty]

/-- Data that are not empty have a dataset with samples. -/
theorem exists_of_isEmpty_eq_false {d : Data} (h : d.isEmpty = false) :
    ∃ s ∈ d.datasets, s.data ≠ [] := by
  simpa [isEmpty] using h

end Data

/-! ## The three outcomes -/

namespace Compile

/-- A pie has an option exactly when its first dataset has samples. -/
theorem pie_eq_some_iff {family : Family} {d : Data} {p : Props} {ctx : Context}
    {o : ChartOption} :
    pie family d p ctx = some o ↔
      ∃ first, d.datasets.head? = some first ∧ first.data ≠ [] ∧
        pieOf family d.labels first p ctx = o := by
  unfold pie
  cases d.datasets with
  | nil => simp
  | cons first rest =>
    by_cases h : first.data = []
    · simp [h]
    · simp [h, List.isEmpty_iff]

/-- A pie has one series, that of its dataset. -/
theorem series_pieOf {family : Family} (round : family = .pie ∨ family = .donut)
    (labels : List String) (first : Dataset) (p : Props) (ctx : Context) :
    (pieOf family labels first p ctx).series =
      [.pie (.ofDataset first labels family (.ofProps p ctx))] := by
  rcases round with rfl | rfl <;> rfl

/-- Properties that passed their checks lead to the options of `Compiled` and to no others. -/
theorem checked_eq_some_iff {family : Family} {data : Option Data} {p : Props}
    {o : ChartOption} : checked family data p = some o ↔ Compiled p family data o := by
  constructor
  · intro h
    unfold checked at h
    split at h
    · rename_i hg
      subst hg
      cases h
      exact .gauge
    · rename_i hg
      cases data with
      | none => cases h
      | some d =>
        cases hd : d.isEmpty with
        | true => simp [hd] at h
        | false =>
          simp only [hd, Bool.false_eq_true, if_false] at h
          cases family with
          | gauge => exact absurd rfl hg
          | radar => cases h; exact .radar hd
          | pie | donut =>
            obtain ⟨first, hfirst, hne, rfl⟩ := pie_eq_some_iff.mp h
            exact .pieOf (by simp) hfirst hne
          | line | bar | area | scatter | mixed => cases h; exact .cartesian rfl hd
  · intro h
    cases h with
    | gauge => rfl
    | radar filled => simp [checked, plot, filled]
    | cartesian axes filled =>
      cases family with
      | line | bar | area | scatter | mixed => simp [checked, plot, filled]
      | pie | donut | radar | gauge => cases axes
    | @pieOf _ d first round head filled =>
      have hd : d.isEmpty = false := by
        refine Bool.eq_false_iff.mpr fun hempty => filled ?_
        exact Data.isEmpty_iff.mp hempty first (List.mem_of_head? head)
      have hpie : pie family d p p.context = some (pieOf family d.labels first p p.context) :=
        pie_eq_some_iff.mpr ⟨first, head, filled, rfl⟩
      rcases round with rfl | rfl <;> simpa [checked, plot, hd] using hpie

/-- There is an option to compile unless there is nothing to plot. -/
theorem exists_compiled_iff {family : Family} {data : Option Data} {p : Props} :
    (∃ o, Compiled p family data o) ↔ ¬NothingToPlot family data := by
  constructor
  · rintro ⟨o, h⟩ ⟨hg, hdata⟩
    cases h with
    | gauge => exact hg rfl
    | cartesian axes filled =>
      rcases hdata with hnone | ⟨d, hd, hempty | ⟨hround, -⟩⟩
      · cases hnone
      · cases hd
        exact absurd (Data.isEmpty_iff.mpr hempty) (by simp [filled])
      · rcases hround with rfl | rfl <;> cases axes
    | radar filled =>
      rcases hdata with hnone | ⟨d, hd, hempty | ⟨hround, -⟩⟩
      · cases hnone
      · cases hd
        exact absurd (Data.isEmpty_iff.mpr hempty) (by simp [filled])
      · rcases hround with h | h <;> cases h
    | pieOf round head filled =>
      rcases hdata with hnone | ⟨d, hd, hempty | ⟨-, first, hfirst, hnil⟩⟩
      · cases hnone
      · cases hd
        exact filled (hempty _ (List.mem_of_head? head))
      · cases hd
        rw [head] at hfirst
        cases hfirst
        exact filled hnil
  · intro h
    by_cases hg : family = .gauge
    · subst hg
      exact ⟨_, .gauge⟩
    · have hdata := fun hx => h ⟨hg, hx⟩
      cases data with
      | none => exact absurd (Or.inl rfl) hdata
      | some d =>
        have hd : d.isEmpty = false := by
          refine Bool.eq_false_iff.mpr fun hempty => hdata (Or.inr ⟨d, rfl, Or.inl ?_⟩)
          exact Data.isEmpty_iff.mp hempty
        by_cases hround : family = .pie ∨ family = .donut
        · cases hfirst : d.datasets.head? with
          | none =>
            rw [List.head?_eq_none_iff] at hfirst
            simp [Data.isEmpty, hfirst] at hd
          | some first =>
            refine ⟨_, .pieOf hround hfirst fun hnil => hdata (Or.inr ⟨d, rfl, Or.inr ?_⟩)⟩
            exact ⟨hround, first, hfirst, hnil⟩
        · cases family with
          | gauge => exact absurd rfl hg
          | pie | donut => exact absurd (by simp) hround
          | radar => exact ⟨_, .radar hd⟩
          | line | bar | area | scatter | mixed => exact ⟨_, .cartesian rfl hd⟩

end Compile

theorem compile_eq_error_iff {family : Family} {data : Option Data} {p : Props}
    {e : ChartError} :
    compile family data p = .error e ↔ p.validate.mapError .props = .error e := by
  unfold compile
  cases p.validate with
  | error fault =>
    constructor
    · rintro ⟨⟩
      rfl
    · rintro ⟨⟩
      rfl
  | ok => exact iff_of_false nofun nofun

theorem compile_eq_ok_iff {family : Family} {data : Option Data} {p : Props}
    {result : Option ChartOption} :
    compile family data p = .ok result ↔
      p.validate = .ok () ∧ Compile.checked family data p = result := by
  unfold compile
  cases p.validate <;> simp

/-- An option is compiled exactly from properties without a fault, in one of the ways of
`Compiled`. -/
theorem compile_eq_some_iff {family : Family} {data : Option Data} {p : Props}
    {o : ChartOption} :
    compile family data p = .ok (some o) ↔ p.validate = .ok () ∧ Compiled p family data o := by
  rw [compile_eq_ok_iff, Compile.checked_eq_some_iff]

theorem compile_eq_none_iff {family : Family} {data : Option Data} {p : Props} :
    compile family data p = .ok none ↔ p.validate = .ok () ∧ NothingToPlot family data := by
  rw [compile_eq_ok_iff, Option.eq_none_iff_forall_ne_some]
  refine and_congr_right fun _ => ?_
  simp only [ne_eq, Compile.checked_eq_some_iff, ← not_exists, Compile.exists_compiled_iff,
    Classical.not_not]

/-! ## Options plot something -/

/-- Cutting samples to the labels never takes away all of them: no labels cut nothing. -/
theorem Dataset.plotted_ne_nil {d : Dataset} (labels : List String) (h : d.data ≠ []) :
    d.plotted labels ≠ [] := by
  unfold plotted
  cases labels with
  | nil => exact h
  | cons label rest => simpa using h

namespace Series

/-- The series of a dataset with samples draws some of them, in every family. -/
theorem length_ofDataset_pos {d : Dataset} (family : Family) (labels : List String)
    (style : SeriesStyle) (index : Nat) (h : d.data ≠ []) :
    0 < (ofDataset family labels style index d).length := by
  have hdata : 0 < d.data.length := List.length_pos_iff.mpr h
  have hplotted : 0 < (d.plotted labels).length :=
    List.length_pos_iff.mpr (d.plotted_ne_nil labels h)
  cases family with
  | line | area | bar => exact hplotted
  | mixed =>
    cases hkind : d.kind.getD .line <;> simp only [ofDataset, hkind] <;> exact hplotted
  | scatter => simpa [ofDataset, length, ScatterSeries.ofDataset, ScatterSeries.points] using hdata
  | radar => exact hdata
  | pie | donut => simpa [ofDataset, length, PieSeries.ofDataset] using hplotted
  | gauge => exact Nat.one_pos

/-- Every series comes from a dataset, and its position is that of the dataset. -/
theorem mem_ofData {d : Data} {family : Family} {style : SeriesStyle} {s : Series} :
    s ∈ ofData d family style ↔
      ∃ index source, d.datasets[index]? = some source ∧
        ofDataset family d.labels style index source = s := by
  simp [ofData, List.mem_iff_getElem?, Option.map_eq_some_iff]

/-- A dataset with samples leads to a series that draws some of them. -/
theorem exists_length_pos_of_mem {d : Data} {source : Dataset} (family : Family)
    (style : SeriesStyle) (hmem : source ∈ d.datasets) (h : source.data ≠ []) :
    ∃ s ∈ ofData d family style, 0 < s.length := by
  obtain ⟨index, hindex⟩ := List.mem_iff_getElem?.mp hmem
  exact ⟨_, mem_ofData.mpr ⟨index, source, hindex, rfl⟩, length_ofDataset_pos _ _ _ _ h⟩

end Series

namespace Compiled

variable {p : Props} {family : Family} {data : Option Data} {o : ChartOption}

/-- There is one way to a pie. -/
theorem exists_eq_pieOf (h : Compiled p family data o) (round : family = .pie ∨ family = .donut) :
    ∃ d first, data = some d ∧ d.datasets.head? = some first ∧ first.data ≠ [] ∧
      o = Compile.pieOf family d.labels first p p.context := by
  cases h with
  | gauge | radar => rcases round with h | h <;> cases h
  | cartesian axes => rcases round with rfl | rfl <;> cases axes
  | pieOf _ head filled => exact ⟨_, _, rfl, head, filled, rfl⟩

/-- There is one way to a radar chart. -/
theorem exists_eq_radar (h : Compiled p .radar data o) :
    ∃ d, data = some d ∧ d.isEmpty = false ∧ o = Compile.radar d p p.context := by
  cases h with
  | cartesian axes => cases axes
  | pieOf round => rcases round with h | h <;> cases h
  | radar filled => exact ⟨_, rfl, filled, rfl⟩

/-- Unless it is of a gauge, an option has a series that draws a sample. -/
theorem exists_length_pos (h : Compiled p family data o) (hg : family ≠ .gauge) :
    ∃ s ∈ o.series, 0 < s.length := by
  cases h with
  | gauge => exact absurd rfl hg
  | cartesian _ filled | radar filled =>
    obtain ⟨source, hmem, hne⟩ := Data.exists_of_isEmpty_eq_false filled
    exact Series.exists_length_pos_of_mem _ _ hmem hne
  | pieOf _ _ filled => exact Series.exists_length_pos_of_mem _ _ (List.mem_singleton_self _) filled

theorem series_ne_nil (h : Compiled p family data o) : o.series ≠ [] := by
  by_cases hg : family = .gauge
  · subst hg
    cases h with
    | gauge => simp [Compile.gauge]
    | cartesian axes => cases axes
    | pieOf round => rcases round with h | h <;> cases h
  · obtain ⟨s, hs, -⟩ := h.exists_length_pos hg
    exact List.ne_nil_of_mem hs

end Compiled

/-- **The outcome of compiling is determined.**  It is an error exactly when the properties
have a fault, with that fault; no option exactly when they have none and there is nothing to
plot; and in every other case an option with a series, which outside of gauges draws a
sample. -/
theorem compile_outcome (family : Family) (data : Option Data) (p : Props) :
    (∀ e, compile family data p = .error e ↔ p.validate.mapError .props = .error e) ∧
    (compile family data p = .ok none ↔ p.validate = .ok () ∧ NothingToPlot family data) ∧
    ((∃ o, compile family data p = .ok (some o) ∧ o.series ≠ [] ∧
        (family = .gauge ∨ ∃ s ∈ o.series, 0 < s.length)) ↔
      p.validate = .ok () ∧ ¬NothingToPlot family data) := by
  refine ⟨fun e => compile_eq_error_iff, compile_eq_none_iff, ?_, ?_⟩
  · rintro ⟨o, ho, -⟩
    obtain ⟨hvalid, hcompiled⟩ := compile_eq_some_iff.mp ho
    exact ⟨hvalid, Compile.exists_compiled_iff.mp ⟨o, hcompiled⟩⟩
  · rintro ⟨hvalid, hsome⟩
    obtain ⟨o, hcompiled⟩ := Compile.exists_compiled_iff.mpr hsome
    refine ⟨o, compile_eq_some_iff.mpr ⟨hvalid, hcompiled⟩, hcompiled.series_ne_nil, ?_⟩
    by_cases hg : family = .gauge
    · exact Or.inl hg
    · exact Or.inr (hcompiled.exists_length_pos hg)

end Charting
