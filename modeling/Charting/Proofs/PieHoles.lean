import Charting.Proofs.Outcome

/-! # Donuts are pies with a hole

Pies and donuts are two families, and the family is looked at by the dispatch, by the trigger of the
tooltip, by its pointer and its text, and by the series.  All of these take the two for one, except
for the radius of the hole: a donut has one even if nobody asks for it.

So the option of a donut is that of the pie with another hole (`Compile.pieOf_donut`), and once the
holes are made equal nothing tells the two apart (`compile_donut_like_pie`).
-/
namespace Charting

/-! ## Holes -/

/-- The pie with a hole of the given radius. -/
def PieSeries.withHole (radius : Dimension) (s : PieSeries) : PieSeries :=
  { s with innerRadius := radius }

/-- The series with a hole of the given radius if it is a pie. -/
def Series.withHole (radius : Dimension) : Series → Series
  | pie s => pie (s.withHole radius)
  | s => s

namespace ChartOption

/-- The option with a hole of the given radius in every pie. -/
def withHoles (radius : Dimension) (o : ChartOption) : ChartOption :=
  { o with series := o.series.map (Series.withHole radius) }

/-- The radii of the holes of all pies. -/
def holes (o : ChartOption) : List Dimension :=
  (o.series.filterMap Series.pie?).map (·.innerRadius)

/-- Only the last hole counts. -/
theorem withHoles_withHoles (radius other : Dimension) (o : ChartOption) :
    (o.withHoles other).withHoles radius = o.withHoles radius := by
  have hseries : (o.series.map (Series.withHole other)).map (Series.withHole radius) =
      o.series.map (Series.withHole radius) := by
    rw [List.map_map]
    refine List.map_congr_left fun s _ => ?_
    cases s <;> rfl
  unfold withHoles
  dsimp only
  rw [hseries]

/-- A pie with the hole that it has stays as it is. -/
theorem withHoles_eq_self {o : ChartOption} {s : PieSeries} (h : o.series = [.pie s]) :
    o.withHoles s.innerRadius = o := by
  have hmap : o.series.map (Series.withHole s.innerRadius) = o.series := by
    rw [h]
    rfl
  unfold withHoles
  rw [hmap]

theorem holes_eq {o : ChartOption} {s : PieSeries} (h : o.series = [.pie s]) :
    o.holes = [s.innerRadius] := by
  rw [holes, h]
  rfl

end ChartOption

/-! ## Pies and donuts of the same data -/

/-- The slices of a donut are those of the pie. -/
theorem PieSeries.ofDataset_donut (d : Dataset) (labels : List String) (style : SeriesStyle) :
    ofDataset d labels .donut style =
      (ofDataset d labels .pie style).withHole (style.pieInnerRadius.getD (.percent 50)) := rfl

theorem Series.ofData_donut (d : Data) (style : SeriesStyle) :
    ofData d .donut style =
      (ofData d .pie style).map (withHole (style.pieInnerRadius.getD (.percent 50))) := by
  refine List.ext_getElem? fun index => ?_
  unfold ofData
  rw [List.getElem?_mapIdx, List.getElem?_map, List.getElem?_mapIdx, Option.map_map]
  refine congrArg (Option.map · d.datasets[index]?) (funext fun source => ?_)
  exact congrArg pie (PieSeries.ofDataset_donut source d.labels style)

theorem nothingToPlot_donut_iff {data : Option Data} :
    NothingToPlot .donut data ↔ NothingToPlot .pie data := by
  simp [NothingToPlot]

namespace Compile

/-- Slices are named alike whatever the hole. -/
theorem sliceNames_withHole (radius : Dimension) (series : List Series) :
    sliceNames (series.map (Series.withHole radius)) = sliceNames series := by
  cases series with
  | nil => rfl
  | cons s rest => cases s <;> rfl

variable (labels : List String) (first : Dataset) (p : Props) (ctx : Context)

/-- **The option of a donut is that of the pie with another hole.** -/
theorem pieOf_donut :
    pieOf .donut labels first p ctx =
      (pieOf .pie labels first p ctx).withHoles (p.pie.innerRadius.getD (.percent 50)) := by
  have htooltip : Tooltip.build p.tooltip .donut ctx = Tooltip.build p.tooltip .pie ctx := rfl
  unfold pieOf
  dsimp only
  rw [htooltip, Series.ofData_donut, sliceNames_withHole]
  rfl

theorem holes_pieOf_pie :
    (pieOf .pie labels first p ctx).holes = [p.pie.innerRadius.getD (.percent 0)] :=
  ChartOption.holes_eq (series_pieOf (.inl rfl) labels first p ctx)

theorem holes_pieOf_donut :
    (pieOf .donut labels first p ctx).holes = [p.pie.innerRadius.getD (.percent 50)] :=
  ChartOption.holes_eq (series_pieOf (.inr rfl) labels first p ctx)

/-- A hole that is asked for is the same in both. -/
theorem pieOf_donut_eq_iff :
    pieOf .pie labels first p ctx = pieOf .donut labels first p ctx ↔
      p.pie.innerRadius.isSome = true := by
  constructor
  · intro h
    have hholes := congrArg ChartOption.holes h
    rw [holes_pieOf_pie, holes_pieOf_donut] at hholes
    cases hradius : p.pie.innerRadius with
    | some radius => rfl
    | none =>
      rw [hradius] at hholes
      exact absurd hholes (by decide +kernel)
  · intro h
    obtain ⟨radius, hradius⟩ := Option.isSome_iff_exists.mp h
    have hself := ChartOption.withHoles_eq_self (series_pieOf (.inl rfl) labels first p ctx)
    have hhole : (PieSeries.ofDataset first labels .pie (.ofProps p ctx)).innerRadius = radius :=
      congrArg (Option.getD · _) hradius
    rw [hhole] at hself
    rw [pieOf_donut, hradius, Option.getD_some, hself]

end Compile

/-- **Pies and donuts differ in the hole only.**  For the same data and properties both fail alike,
or both have nothing to plot, or both have an option.  The options are equal once their holes are
made equal; the holes are those that the properties ask for, and otherwise none for a pie and half
of the radius for a donut; and so the options are equal from the outset exactly if the properties
ask for a hole. -/
theorem compile_donut_like_pie (data : Option Data) (p : Props) :
    (∃ e, compile .pie data p = .error e ∧ compile .donut data p = .error e) ∨
    (compile .pie data p = .ok none ∧ compile .donut data p = .ok none) ∨
    ∃ pie donut, compile .pie data p = .ok (some pie) ∧ compile .donut data p = .ok (some donut) ∧
      (∀ radius, pie.withHoles radius = donut.withHoles radius) ∧
      pie.holes = [p.pie.innerRadius.getD (.percent 0)] ∧
      donut.holes = [p.pie.innerRadius.getD (.percent 50)] ∧
      (pie = donut ↔ p.pie.innerRadius.isSome = true) := by
  cases h : compile .pie data p with
  | error e => exact .inl ⟨e, rfl, compile_eq_error_iff.mpr (compile_eq_error_iff.mp h)⟩
  | ok result =>
    right
    cases result with
    | none =>
      obtain ⟨hvalid, hnothing⟩ := compile_eq_none_iff.mp h
      exact .inl ⟨rfl, compile_eq_none_iff.mpr ⟨hvalid, nothingToPlot_donut_iff.mpr hnothing⟩⟩
    | some pie =>
      right
      obtain ⟨hvalid, hcompiled⟩ := compile_eq_some_iff.mp h
      obtain ⟨d, first, rfl, head, filled, rfl⟩ := hcompiled.exists_eq_pieOf (.inl rfl)
      have hdonut := compile_eq_some_iff.mpr ⟨hvalid, .pieOf (.inr rfl) head filled⟩
      refine ⟨_, _, rfl, hdonut, ?_, Compile.holes_pieOf_pie .., Compile.holes_pieOf_donut ..,
        Compile.pieOf_donut_eq_iff ..⟩
      intro radius
      rw [Compile.pieOf_donut, ChartOption.withHoles_withHoles]

end Charting
