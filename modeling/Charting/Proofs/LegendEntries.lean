import Charting.Proofs.SeriesOfData
import Charting.Proofs.Outcome
import Charting.Proofs.Validation

/-! # The entries of the legend

A renderer looks the entries of a legend up among the names of what it draws, and an entry that it
does not find there does nothing.  The entries do not come from what is drawn, though: charts with
axes and radar charts take the labels of the datasets (`Data.seriesLabels`), and only pies look at
their slices (`Compile.sliceNames`).

`ChartOption.drawnNames` reads off an option which names are drawn, without regard to where they
come from, and `compile_legend_lists_drawn` says that a legend has these entries and no others.
-/
namespace Charting

/-! ## The names of what is drawn -/

/-- The names that a series brings into the chart: those of the slices of a pie, and otherwise its
own. -/
def Series.drawnNames : Series → List String
  | pie s => s.slices.map (·.name)
  | s => [s.name]

/-- The names of what is drawn, series by series. -/
def ChartOption.drawnNames (o : ChartOption) : List String := o.series.flatMap Series.drawnNames

/-- The names for some slices: the labels as far as there are slices, or, if there are no labels,
numbers counted from one. -/
def PieSeries.namesFor (labels : List String) (count : Nat) : List String :=
  if labels = [] then (List.range count).map fun index => toString (index + 1)
  else labels.take count

/-- A pie has a slice for each sample, but not more slices than labels, if there are any. -/
theorem PieSeries.map_name_slices (d : Dataset) (labels : List String) (family : Family)
    (style : SeriesStyle) :
    (ofDataset d labels family style).slices.map (·.name) = namesFor labels d.data.length := by
  refine List.ext_getElem? fun index => ?_
  simp only [ofDataset, List.getElem?_map, List.getElem?_mapIdx, Option.map_map]
  change (d.plotted labels)[index]?.map (fun _ => sliceName labels index) = _
  cases labels with
  | nil =>
    change d.data[index]?.map _ = ((List.range _).map _)[index]?
    by_cases hindex : index < d.data.length <;> simp [hindex, sliceName]
  | cons label rest =>
    change (d.data.take (label :: rest).length)[index]?.map _ = ((label :: rest).take _)[index]?
    generalize label :: rest = labels
    rw [List.getElem?_take, List.getElem?_take]
    by_cases hdata : index < d.data.length <;> by_cases hlabels : index < labels.length <;>
      simp [hdata, hlabels, sliceName]

namespace Series

variable {d : Data} {family : Family} {style : SeriesStyle}

theorem map_name_ofData : (ofData d family style).map name = d.seriesLabels := by
  refine List.ext_getElem? fun index => ?_
  simp only [ofData, Data.seriesLabels, List.getElem?_map, List.getElem?_mapIdx, Option.map_map]
  cases d.datasets[index]? with
  | none => rfl
  | some source =>
    exact congrArg some (follows_ofDataset d.labels style index source family).name

/-- Only pies bring names other than their own. -/
theorem drawnNames_ofDataset (h : family.isPie = false) (labels : List String) (index : Nat)
    (source : Dataset) :
    (ofDataset family labels style index source).drawnNames =
      [(ofDataset family labels style index source).name] := by
  cases family with
  | pie | donut => cases h
  | mixed =>
    unfold ofDataset
    cases source.kind.getD .line with
    | line | area | bar => rfl
  | line | area | bar | scatter | radar | gauge => rfl

theorem flatMap_drawnNames_ofData (h : family.isPie = false) :
    (ofData d family style).flatMap drawnNames = (ofData d family style).map name := by
  rw [List.map_eq_flatMap, List.flatMap_def, List.flatMap_def]
  refine congrArg List.flatten (List.map_congr_left fun s hs => ?_)
  obtain ⟨index, source, -, rfl⟩ := mem_ofData.mp hs
  exact drawnNames_ofDataset h d.labels index source

end Series

/-! ## Legends -/

theorem Family.isPie_eq_false_of_isCartesian {family : Family} (h : family.isCartesian = true) :
    family.isPie = false := by
  cases family with
  | line | bar | area | scatter | mixed => rfl
  | pie | donut | radar | gauge => cases h

theorem Legend.map_entries_build (shown : Bool) (position : LegendPosition) (entries : List String)
    (ctx : Context) :
    (if shown then some (build position entries ctx) else none).map Legend.entries =
      if shown = true then some entries else none := by
  cases shown <;> rfl

namespace Compiled

variable {p : Props} {family : Family} {data : Option Data} {o : ChartOption}

/-- A round chart is a single pie, made of the first dataset. -/
theorem exists_pie (h : Compiled p family data o) (hround : family.isPie = true) :
    ∃ d first s, data = some d ∧ d.datasets.head? = some first ∧ o.series = [.pie s] ∧
      s.slices.map (·.name) = PieSeries.namesFor d.labels first.data.length := by
  have hfamily : family = .pie ∨ family = .donut := by
    cases family with
    | pie | donut => simp
    | line | bar | area | radar | scatter | mixed | gauge => cases hround
  obtain ⟨d, first, rfl, head, -, rfl⟩ := h.exists_eq_pieOf hfamily
  have hnames := PieSeries.map_name_slices first d.labels family (.ofProps p p.context)
  exact ⟨d, first, _, rfl, head, Compile.series_pieOf hfamily _ _ _ _, hnames⟩

/-- In all other charts each series brings its own name. -/
theorem drawnNames_eq (h : Compiled p family data o) (hround : family.isPie = false) :
    o.drawnNames = o.series.map Series.name := by
  cases h with
  | gauge => rfl
  | radar | cartesian => exact Series.flatMap_drawnNames_ofData hround
  | pieOf round => rcases round with rfl | rfl <;> cases hround

/-- A legend that is asked for lists what is drawn; gauges have none. -/
theorem map_entries_legend (h : Compiled p family data o) :
    o.legend.map Legend.entries =
      if p.showLegend = true ∧ family ≠ .gauge then some o.drawnNames else none := by
  cases h with
  | gauge => simp [Compile.gauge, ChartOption.base]
  | @radar d filled =>
    have hdrawn : (Compile.radar d p p.context).drawnNames = d.seriesLabels :=
      (drawnNames_eq (.radar filled) rfl).trans Series.map_name_ofData
    rw [hdrawn]
    simpa [Compile.radar] using Legend.map_entries_build p.showLegend _ _ _
  | @cartesian _ d axes filled =>
    have hround := Family.isPie_eq_false_of_isCartesian axes
    have hgauge : family ≠ .gauge := by rintro rfl; cases axes
    have hdrawn : (Compile.cartesian family d p p.context).drawnNames = d.seriesLabels :=
      (drawnNames_eq (.cartesian axes filled) hround).trans Series.map_name_ofData
    rw [hdrawn]
    simpa [Compile.cartesian, hgauge] using Legend.map_entries_build p.showLegend _ _ _
  | @pieOf _ d first round head filled =>
    have hgauge : family ≠ .gauge := by rcases round with rfl | rfl <;> simp
    have hdrawn : Compile.sliceNames (Compile.pieOf family d.labels first p p.context).series =
        (Compile.pieOf family d.labels first p p.context).drawnNames := by
      rcases round with rfl | rfl <;> simp [Compile.sliceNames, ChartOption.drawnNames,
        Compile.pieOf, Series.ofData, Series.ofDataset, Series.pie?, Series.drawnNames]
    rw [← hdrawn]
    simpa [Compile.pieOf, hgauge] using Legend.map_entries_build p.showLegend _ _ _

end Compiled

/-- **The legend lists exactly what is drawn.**  It is there if it is asked for and the chart is not
a gauge, and it has an entry for each name that is drawn, in order: the name of each series, or, for
pies and donuts, that of each slice of their only series.  Slices have the labels for names, as far
as there are samples; without labels they are counted from one. -/
theorem compile_legend_lists_drawn {family : Family} {data : Option Data} {p : Props}
    {o : ChartOption} (h : compile family data p = .ok (some o)) :
    o.legend.map Legend.entries =
      (if p.showLegend = true ∧ family ≠ .gauge then some o.drawnNames else none) ∧
    (family.isPie = false → o.drawnNames = o.series.map Series.name) ∧
    (family.isPie = true → ∃ d first s, data = some d ∧ d.datasets.head? = some first ∧
      o.series = [.pie s] ∧ o.drawnNames = s.slices.map (·.name) ∧
      s.slices.map (·.name) = PieSeries.namesFor d.labels first.data.length) := by
  obtain ⟨-, hcompiled⟩ := compile_eq_some_iff.mp h
  refine ⟨hcompiled.map_entries_legend, hcompiled.drawnNames_eq, fun hround => ?_⟩
  obtain ⟨d, first, s, hdata, hfirst, hseries, hnames⟩ := hcompiled.exists_pie hround
  refine ⟨d, first, s, hdata, hfirst, hseries, ?_, hnames⟩
  rw [ChartOption.drawnNames, hseries]
  exact List.flatMap_singleton ..

/-- Votes with a label too many and a dataset that is left out. -/
def labelledVotes : Data :=
  ⟨["yes", "no", "yes", "void"], [{ label := "votes", data := [1, 3, 2] }, { label := "seats" }]⟩

theorem compile_legend_lists_drawn_votes :
    ∃ o, compile .donut (some labelledVotes) {} = .ok (some o) ∧
      o.legend.map Legend.entries = some o.drawnNames ∧ o.drawnNames = ["yes", "no", "yes"] := by
  have hvalid := Props.validate_eq_ok_iff.mpr Props.isValid_default
  have h := compile_eq_some_iff.mpr ⟨hvalid,
    (.pieOf (.inr rfl) rfl (by simp) : Compiled {} .donut (some labelledVotes) _)⟩
  obtain ⟨hlegend, -, hround⟩ := compile_legend_lists_drawn h
  obtain ⟨d, first, s, hdata, hfirst, -, hdrawn, hnames⟩ := hround rfl
  cases hdata
  cases hfirst
  exact ⟨_, h, hlegend, hdrawn.trans hnames⟩

end Charting
