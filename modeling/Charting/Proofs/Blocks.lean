import Charting.Proofs.Outcome
import Charting.Proofs.Validation

/-! # The blocks of a compiled option

A renderer checks an option before it draws it (`ChartOption.validate`), and it relies on more
than it checks: which blocks there are follows from the family of the chart.  `HasBlocksOf` and
`Family.seriesKinds` say what the family calls for, without a look at the compilers, and every
option that comes out of `compile` is held against them, case by case of `Compiled`.
-/
namespace Charting

/-! ## What a family calls for -/

namespace Family

/-- The kind of series that a dataset becomes. -/
def kindOf (family : Family) (d : Dataset) : String :=
  match family with
  | line | area => "line"
  | bar => "bar"
  | scatter => "scatter"
  | pie | donut => "pie"
  | radar => "radar"
  | gauge => "gauge"
  | mixed =>
    match d.kind with
    | some .bar => "bar"
    | some .line | some .area | none => "line"

/-- The kinds of the series of a chart: pies and gauges have a single one, other charts one for
each dataset. -/
def seriesKinds (family : Family) (data : Option Data) : List String :=
  match family with
  | pie | donut => ["pie"]
  | gauge => ["gauge"]
  | line | bar | area | scatter | mixed | radar =>
    ((data.map Data.datasets).getD []).map family.kindOf

end Family

namespace ChartOption

/-- The option has the blocks of a family, and of those that can be turned off the ones that
are asked for. -/
structure HasBlocksOf (o : ChartOption) (family : Family) (p : Props) : Prop where
  /-- Both axes are there in charts with axes and nowhere else. -/
  axes : o.xAxis.isSome = family.isCartesian ∧ o.yAxis.isSome = family.isCartesian
  grid : o.grid.isSome = (family.isCartesian && (p.grid.resolve {}).isSome)
  dataZoom : o.dataZoom.isSome = (family.isCartesian && p.dataZoom)
  radar : o.radar.isSome = decide (family = .radar)
  /-- Only round charts have a place for a title. -/
  title : o.title.isSome = true → family = .pie ∨ family = .donut
  legend : family = .gauge → o.legend = none

/-! ## The checks of a renderer -/

/-- What the checks of a renderer come to. -/
theorem validate_eq_ok_iff {o : ChartOption} :
    o.validate = .ok () ↔
      o.series ≠ [] ∧ o.color ≠ [] ∧
      (∀ s ∈ o.series, s.needsAxes = true → o.xAxis.isSome = true ∧ o.yAxis.isSome = true) ∧
      (∀ s ∈ o.series, s.isRadar = true → o.radar.isSome = true) := by
  unfold validate
  split
  · rename_i h
    simp [List.isEmpty_iff.mp h]
  split
  · rename_i h
    simp [List.isEmpty_iff.mp h]
  split
  · rename_i h
    simp only [Bool.and_eq_true, List.any_eq_true, Bool.or_eq_true, Option.isNone_iff_eq_none] at h
    obtain ⟨⟨s, hs, hneeds⟩, hnone⟩ := h
    refine iff_of_false (by simp) fun hall => ?_
    have hboth := hall.2.2.1 s hs hneeds
    rcases hnone with hnone | hnone <;> simp [hnone] at hboth
  split
  · rename_i h
    simp only [Bool.and_eq_true, List.any_eq_true, Option.isNone_iff_eq_none] at h
    obtain ⟨⟨s, hs, hradar⟩, hnone⟩ := h
    refine iff_of_false (by simp) fun hall => ?_
    simpa [hnone] using hall.2.2.2 s hs hradar
  · rename_i hseries hcolor haxes hradar
    simp only [List.isEmpty_iff] at hseries hcolor
    refine iff_of_true rfl ⟨hseries, hcolor, fun s hs hneeds => ?_, fun s hs hr => ?_⟩
    · have hany : o.series.any Series.needsAxes = true := List.any_eq_true.mpr ⟨s, hs, hneeds⟩
      simpa [hany, Option.isSome_iff_ne_none] using haxes
    · have hany : o.series.any Series.isRadar = true := List.any_eq_true.mpr ⟨s, hs, hr⟩
      simpa [hany, Option.isSome_iff_ne_none] using hradar

end ChartOption

/-! ## What the series of an option are -/

/-- The explicit colours stand only if there are any, and no scheme is empty. -/
theorem Props.palette_ne_nil (p : Props) : p.palette ≠ [] := by
  unfold palette
  split
  · simp
  · exact Scheme.colors_ne_nil _

namespace Series

variable {family : Family} {labels : List String} {style : SeriesStyle} {index : Nat} {d : Dataset}

theorem kind_ofDataset : (ofDataset family labels style index d).kind = family.kindOf d := by
  cases family with
  | mixed =>
    cases hkind : d.kind with
    | none => simp [ofDataset, Family.kindOf, hkind, kind]
    | some k => cases k <;> simp [ofDataset, Family.kindOf, hkind, kind]
  | _ => rfl

theorem needsAxes_ofDataset :
    (ofDataset family labels style index d).needsAxes = family.isCartesian := by
  cases family with
  | mixed =>
    cases hkind : d.kind.getD .line <;> simp [ofDataset, hkind, needsAxes, Family.isCartesian]
  | _ => rfl

theorem isRadar_ofDataset :
    (ofDataset family labels style index d).isRadar = decide (family = .radar) := by
  cases family with
  | mixed => cases hkind : d.kind.getD .line <;> simp [ofDataset, hkind, isRadar]
  | _ => rfl

theorem map_kind_ofData {d : Data} :
    (ofData d family style).map kind = d.datasets.map family.kindOf := by
  refine List.ext_getElem? fun index => ?_
  simp only [ofData, List.getElem?_map, List.getElem?_mapIdx]
  cases d.datasets[index]? with
  | none => rfl
  | some source => exact congrArg some kind_ofDataset

end Series

namespace Compiled

variable {p : Props} {family : Family} {data : Option Data} {o : ChartOption}

/-- Axes are asked for by the series of exactly those families that have them. -/
theorem needsAxes_of_mem (h : Compiled p family data o) {s : Series} (hs : s ∈ o.series) :
    s.needsAxes = family.isCartesian := by
  cases h with
  | gauge =>
    cases List.mem_singleton.mp hs
    rfl
  | cartesian | radar | pieOf =>
    obtain ⟨_, _, -, rfl⟩ := Series.mem_ofData.mp hs
    exact Series.needsAxes_ofDataset

theorem isRadar_of_mem (h : Compiled p family data o) {s : Series} (hs : s ∈ o.series) :
    s.isRadar = decide (family = .radar) := by
  cases h with
  | gauge =>
    cases List.mem_singleton.mp hs
    rfl
  | cartesian | radar | pieOf =>
    obtain ⟨_, _, -, rfl⟩ := Series.mem_ofData.mp hs
    exact Series.isRadar_ofDataset

theorem seriesKinds_eq (h : Compiled p family data o) :
    o.seriesKinds = family.seriesKinds data := by
  cases h with
  | gauge => rfl
  | radar => exact Series.map_kind_ofData
  | cartesian axes =>
    cases family with
    | line | bar | area | scatter | mixed => exact Series.map_kind_ofData
    | pie | donut | radar | gauge => cases axes
  | pieOf round => rcases round with rfl | rfl <;> rfl

theorem hasBlocksOf (h : Compiled p family data o) : o.HasBlocksOf family p := by
  cases h with
  | gauge => exact ⟨⟨rfl, rfl⟩, rfl, rfl, rfl, nofun, fun _ => rfl⟩
  | radar => exact ⟨⟨rfl, rfl⟩, rfl, rfl, rfl, nofun, nofun⟩
  | cartesian axes =>
    have hradar : family ≠ .radar := by rintro rfl; cases axes
    have hgauge : family ≠ .gauge := by rintro rfl; cases axes
    refine ⟨⟨axes.symm, axes.symm⟩, ?_, ?_, ?_, nofun, fun hg => absurd hg hgauge⟩
    · simp [Compile.cartesian, Grid.build, axes]
    · cases hzoom : p.dataZoom <;> simp [Compile.cartesian, DataZoom.build, axes, hzoom]
    · simp [Compile.cartesian, ChartOption.base, hradar]
  | pieOf round =>
    have haxes : family.isCartesian = false := by rcases round with rfl | rfl <;> rfl
    have hradar : family ≠ .radar := by rcases round with rfl | rfl <;> simp
    have hgauge : family ≠ .gauge := by rcases round with rfl | rfl <;> simp
    refine ⟨⟨haxes.symm, haxes.symm⟩, ?_, ?_, ?_, fun _ => round, fun hg => absurd hg hgauge⟩
    · simp [Compile.pieOf, ChartOption.base, haxes]
    · simp [Compile.pieOf, ChartOption.base, haxes]
    · simp [Compile.pieOf, ChartOption.base, hradar]

theorem color_ne_nil (h : Compiled p family data o) : o.color ≠ [] := by
  cases h <;> exact p.palette_ne_nil

/-- A renderer finds nothing to object to in a compiled option. -/
theorem validate_eq_ok (h : Compiled p family data o) : o.validate = .ok () := by
  have hblocks := h.hasBlocksOf
  refine ChartOption.validate_eq_ok_iff.mpr ⟨h.series_ne_nil, h.color_ne_nil, ?_, ?_⟩
  · intro s hs hneeds
    rw [h.needsAxes_of_mem hs] at hneeds
    exact ⟨hblocks.axes.1.trans hneeds, hblocks.axes.2.trans hneeds⟩
  · intro s hs hradar
    rw [h.isRadar_of_mem hs] at hradar
    exact hblocks.radar.trans hradar

end Compiled

/-- **Every option that is compiled passes the checks of a renderer and has exactly the blocks
and the kinds of series that its family calls for.** -/
theorem compile_wellFormed {family : Family} {data : Option Data} {p : Props} {o : ChartOption}
    (h : compile family data p = .ok (some o)) :
    o.validate = .ok () ∧ o.HasBlocksOf family p ∧ o.seriesKinds = family.seriesKinds data := by
  obtain ⟨-, hcompiled⟩ := compile_eq_some_iff.mp h
  exact ⟨hcompiled.validate_eq_ok, hcompiled.hasBlocksOf, hcompiled.seriesKinds_eq⟩

/-- A mixed chart of bars and a line, with a control for zooming. -/
theorem compile_wellFormed_mixed :
    let data : Data := ⟨["q1"], [{ label := "sold", data := [1], kind := some .bar },
      { label := "planned", data := [.nan, 2] }]⟩
    ∃ o, compile .mixed (some data) { dataZoom := true } = .ok (some o) ∧
      o.validate = .ok () ∧ o.HasBlocksOf .mixed { dataZoom := true } ∧
      o.seriesKinds = ["bar", "line"] := by
  intro data
  have hvalid : ({ dataZoom := true } : Props).IsValid := by decide +kernel
  have h := compile_eq_some_iff.mpr ⟨Props.validate_eq_ok_iff.mpr hvalid,
    (.cartesian rfl rfl : Compiled _ .mixed (some data) _)⟩
  exact ⟨_, h, compile_wellFormed h⟩

end Charting
