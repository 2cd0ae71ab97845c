import Charting.Proofs.Outcome
import Charting.Proofs.Validation
import Charting.Proofs.ZeroSign.Series

/-! # Compiling up to the sign of zeros

Taking the sign from the zeros of the inputs changes nothing in the outcome of compiling: the same
properties pass their checks (`Props.isValid_iff_unsignZeros`), there is as much to plot
(`nothingToPlot_unsignZeros_iff`), and the members that the library writes are the same up to the
sign of zeros (`Compiled.exists_unsignZeros`).

Inputs that give no reason to compile again are the same up to the sign of zeros and the order of
their extensions, and so are their options (`compile_unchanged`).
-/
namespace Charting

open Number
open Json (unsignMember)

/-! ## The same outcome -/

/-- The library writes the same members into both options up to the signs of zeros, and the host
the same extensions. -/
structure ChartOption.SameUpToZeroSigns (o o' : ChartOption) : Prop where
  members : (Json.ofMembers o.members).unsignZeros = (Json.ofMembers o'.members).unsignZeros
  /-- Extensions have no order, and their numbers are compared as numbers. -/
  extensions : (o.extensions == o'.extensions) = true

theorem ChartOption.SameUpToZeroSigns.refl (o : ChartOption) : o.SameUpToZeroSigns o :=
  ⟨rfl, o.extensions.beq_refl⟩

/-- Two outcomes of compiling: both without an option, or with options that are the same up to the
signs of zeros. -/
inductive SameOutcome : Option ChartOption → Option ChartOption → Prop
  | empty : SameOutcome none none
  | drawn {o o'} (same : o.SameUpToZeroSigns o') : SameOutcome (some o) (some o')

theorem SameOutcome.refl (result : Option ChartOption) : SameOutcome result result := by
  cases result with
  | none => exact .empty
  | some o => exact .drawn (.refl o)

/-! ## Checks -/

namespace Props

theorem isPositive_unsignZero (x : Binary64) : isPositive x.unsignZero = isPositive x := by
  simp [isPositive]

theorem isOpacity_unsignZero (x : Binary64) : isOpacity x.unsignZero = isOpacity x := by
  simp [isOpacity, isPositive_unsignZero]

theorem ifGiven_map {holds : Binary64 → Bool} (h : ∀ x, holds x.unsignZero = holds x)
    (x : Option Binary64) : ifGiven (x.map Binary64.unsignZero) holds = ifGiven x holds := by
  cases x with
  | none => rfl
  | some a => exact h a

theorem isValidGauge_unsignZeros_iff {g : GaugeProps} :
    IsValidGauge g.unsignZeros ↔ IsValidGauge g := by
  have hbounds : (g.unsignZeros.min.isFinite && g.unsignZeros.max.isFinite &&
      decide (g.unsignZeros.min < g.unsignZeros.max)) =
      (g.min.isFinite && g.max.isFinite && decide (g.min < g.max)) := by
    simp [GaugeProps.unsignZeros]
  have hzones : (g.unsignZeros.zones.all fun z => z.upTo.isFinite) =
      g.zones.all fun z => z.upTo.isFinite := by
    simp [GaugeProps.unsignZeros, Zone.unsignZero, Function.comp_def]
  have harc := isPositive_unsignZero g.arcWidth
  constructor
  · intro h
    exact ⟨hbounds.symm.trans h.bounds, h.splitNumber, harc.symm.trans h.arcWidth,
      hzones.symm.trans h.zones, h.color⟩
  · intro h
    exact ⟨hbounds.trans h.bounds, h.splitNumber, harc.trans h.arcWidth, hzones.trans h.zones,
      h.color⟩

/-- No check sees the sign of a zero. -/
theorem isValid_iff_unsignZeros {p : Props} :
    IsValid p ↔
      IsValid p.unsignZeros ∧ ∀ key ∈ p.extensions.entries.map (·.1), key ∉ ChartOption.keys := by
  have harea := ifGiven_map isOpacity_unsignZero p.area.opacity
  have hfill := ifGiven_map isOpacity_unsignZero p.radar.fillOpacity
  have hwidth := ifGiven_map isPositive_unsignZero p.bar.maxWidth
  have hmax := ifGiven_map isPositive_unsignZero p.radar.maxValue
  have hsize := ifGiven_map isPositive_unsignZero p.scatter.symbolSize
  have hradius : (p.unsignZeros.bar.borderRadius.isFinite &&
      decide (0 ≤ p.unsignZeros.bar.borderRadius)) =
      (p.bar.borderRadius.isFinite && decide (0 ≤ p.bar.borderRadius)) := by
    simp [unsignZeros, BarProps.unsignZeros]
  constructor
  · intro h
    exact ⟨⟨h.colors, harea.trans h.areaOpacity, hfill.trans h.radarOpacity,
      hwidth.trans h.barMaxWidth, hradius.trans h.barBorderRadius, hmax.trans h.radarMaxValue,
      hsize.trans h.scatterSymbolSize, by simp [unsignZeros],
      isValidGauge_unsignZeros_iff.mpr h.gauge⟩, h.extensions⟩
  · rintro ⟨h, hextensions⟩
    exact ⟨h.colors, harea.symm.trans h.areaOpacity, hfill.symm.trans h.radarOpacity,
      hwidth.symm.trans h.barMaxWidth, hradius.symm.trans h.barBorderRadius,
      hmax.symm.trans h.radarMaxValue, hsize.symm.trans h.scatterSymbolSize, hextensions,
      isValidGauge_unsignZeros_iff.mp h.gauge⟩

end Props

/-! ## Data -/

namespace Data

variable (d : Data)

@[simp] theorem isEmpty_unsignZeros : d.unsignZeros.isEmpty = d.isEmpty := by
  simp [isEmpty, unsignZeros, Dataset.unsignZeros, Function.comp_def]

@[simp] theorem seriesLabels_unsignZeros : d.unsignZeros.seriesLabels = d.seriesLabels := by
  simp [seriesLabels, unsignZeros, Dataset.unsignZeros, Function.comp_def]

/-- The largest of the samples is found at the same place. -/
theorem foldl_larger_map (xs : List Binary64) (best : Option Binary64) :
    (xs.map Binary64.unsignZero).foldl larger (best.map Binary64.unsignZero) =
      (xs.foldl larger best).map Binary64.unsignZero := by
  induction xs generalizing best with
  | nil => rfl
  | cons x xs ih =>
    have hlarger : larger (best.map Binary64.unsignZero) x.unsignZero =
        (larger best x).map Binary64.unsignZero := by
      cases best with
      | none => rfl
      | some b => by_cases h : b ≤ x <;> simp [larger, h]
    rw [List.map_cons, List.foldl_cons, List.foldl_cons, hlarger, ih]

theorem maxValue_unsignZeros : d.unsignZeros.maxValue = d.maxValue.map Binary64.unsignZero := by
  have hsamples : d.unsignZeros.samples.filter Binary64.isFinite =
      (d.samples.filter Binary64.isFinite).map Binary64.unsignZero := by
    simp [samples, unsignZeros, Dataset.unsignZeros, List.filter_map, Function.comp_def,
      List.flatMap_map, List.map_flatMap, List.filter_flatMap]
  rw [maxValue, hsamples]
  exact foldl_larger_map _ none

end Data

theorem nothingToPlot_unsignZeros_iff {family : Family} {data : Option Data} :
    NothingToPlot family (data.map Data.unsignZeros) ↔ NothingToPlot family data := by
  cases data with
  | none => rfl
  | some d =>
    have hempty : (∀ s ∈ d.unsignZeros.datasets, s.data = []) ↔ ∀ s ∈ d.datasets, s.data = [] := by
      rw [← Data.isEmpty_iff, Data.isEmpty_unsignZeros, Data.isEmpty_iff]
    have hfirst : (∃ first, d.unsignZeros.datasets.head? = some first ∧ first.data = []) ↔
        ∃ first, d.datasets.head? = some first ∧ first.data = [] := by
      simp [Data.unsignZeros, Dataset.unsignZeros]
    simp only [NothingToPlot, Option.map_some, Option.some.injEq, exists_eq_left', hempty, hfirst,
      reduceCtorEq, false_or]

/-! ## Blocks -/

theorem Grid.unsignZeros_toJson_build (grid : Switch GridSettings) :
    (build (grid.map GridSettings.unsignZeros)).map (fun g => g.toJson.unsignZeros) =
      (build grid).map (fun g => g.toJson.unsignZeros) := by
  have hsettings (s : GridSettings) :
      (ofSettings s.unsignZeros).toJson.unsignZeros = (ofSettings s).toJson.unsignZeros := by
    simp only [toJson, ofSettings, GridSettings.unsignZeros, Json.unsignZeros_ofMembers,
      List.map_cons, List.map_nil, Json.map_unsignMember_member,
      Dimension.unsignZeros_encode_getD_map]
  cases grid with
  | off | on => rfl
  | custom s => exact congrArg some (hsettings s)

namespace ChartOption

/-- Only the grid, the frame and the series have numbers that come from the inputs. -/
theorem unsignZeros_members (o : ChartOption) {grid : Option Grid} {radar : Option RadarFrame}
    {series : List Series} {extensions : Extensions}
    (hgrid : grid.map (fun g => g.toJson.unsignZeros) =
      o.grid.map (fun g => g.toJson.unsignZeros))
    (hradar : radar.map (fun r => r.toJson.unsignZeros) =
      o.radar.map (fun r => r.toJson.unsignZeros))
    (hseries : series.map (fun s => s.toJson.unsignZeros) =
      o.series.map (fun s => s.toJson.unsignZeros)) :
    (Json.ofMembers ({ o with
        grid := grid
        radar := radar
        series := series
        extensions := extensions }).members).unsignZeros =
      (Json.ofMembers o.members).unsignZeros := by
  simp only [members, Json.unsignZeros_ofMembers, List.map_cons, List.map_nil,
    Json.map_unsignMember_member, Json.map_unsignMember_memberIf, Json.unsignZeros_array,
    List.map_map, Function.comp_def, hgrid, hradar, hseries]

end ChartOption

namespace Compile

variable (d : Data) (p : Props) (ctx : Context)

theorem unsignZeros_cartesian (family : Family) :
    (Json.ofMembers (cartesian family d.unsignZeros p.unsignZeros ctx).members).unsignZeros =
      (Json.ofMembers (cartesian family d p ctx).members).unsignZeros := by
  have hoption : cartesian family d.unsignZeros p.unsignZeros ctx =
      { cartesian family d p ctx with
        grid := Grid.build (p.grid.map GridSettings.unsignZeros)
        radar := none
        series := Series.ofData d.unsignZeros family (SeriesStyle.ofProps p ctx).unsignZeros
        extensions := {} } := by
    simp only [cartesian, SeriesStyle.ofProps_unsignZeros, Data.seriesLabels_unsignZeros]
    rfl
  rw [hoption]
  exact ChartOption.unsignZeros_members _ (Grid.unsignZeros_toJson_build p.grid) rfl
    (Series.unsignZeros_toJson_ofData _ d family)

/-- The names of slices do not depend on their values. -/
theorem sliceNames_unsignZeros {family : Family} (round : family = .pie ∨ family = .donut)
    (labels : List String) (first : Dataset) (style : SeriesStyle) :
    sliceNames (Series.ofData ⟨labels, [first.unsignZeros]⟩ family style.unsignZeros) =
      sliceNames (Series.ofData ⟨labels, [first]⟩ family style) := by
  have hslices (family : Family) :
      (PieSeries.ofDataset first.unsignZeros labels family style.unsignZeros).slices.map (·.name) =
        (PieSeries.ofDataset first labels family style).slices.map (·.name) := by
    simp only [PieSeries.ofDataset, Dataset.plotted_unsignZeros]
    refine map_mapIdx_map (fun _ _ => ?_) _
    rfl
  rcases round with rfl | rfl
  · exact hslices .pie
  · exact hslices .donut

theorem unsignZeros_pieOf {family : Family} (round : family = .pie ∨ family = .donut)
    (labels : List String) (first : Dataset) :
    (Json.ofMembers (pieOf family labels first.unsignZeros p.unsignZeros ctx).members).unsignZeros =
      (Json.ofMembers (pieOf family labels first p ctx).members).unsignZeros := by
  have hoption : pieOf family labels first.unsignZeros p.unsignZeros ctx =
      { pieOf family labels first p ctx with
        grid := none
        radar := none
        series :=
          Series.ofData ⟨labels, [first.unsignZeros]⟩ family (SeriesStyle.ofProps p ctx).unsignZeros
        extensions := {} } := by
    simp only [pieOf, SeriesStyle.ofProps_unsignZeros, sliceNames_unsignZeros round]
    rfl
  rw [hoption]
  exact ChartOption.unsignZeros_members _ rfl rfl
    (Series.unsignZeros_toJson_ofData _ ⟨labels, [first]⟩ family)

/-- The largest sample may be a zero, but then one stands in for it. -/
theorem indicatorMax_unsignZeros (asked : Option Binary64) :
    indicatorMax d.unsignZeros (asked.map Binary64.unsignZero) =
      (indicatorMax d asked).unsignZero := by
  have hasked : (asked.map Binary64.unsignZero).filter Props.isPositive =
      (asked.filter Props.isPositive).map Binary64.unsignZero := by
    simp [Option.filter_map, Function.comp_def, Props.isPositive_unsignZero]
  have hfound : (d.maxValue.map Binary64.unsignZero).filter (fun max => decide (0 < max)) =
      (d.maxValue.filter fun max => decide (0 < max)).map Binary64.unsignZero := by
    simp [Option.filter_map, Function.comp_def]
  have hone : (1 : Binary64).unsignZero = 1 := Binary64.unsignZero_literal 1
  unfold indicatorMax
  rw [hasked, Data.maxValue_unsignZeros, hfound]
  cases asked.filter Props.isPositive with
  | some max => rfl
  | none =>
    cases d.maxValue.filter fun max => decide (0 < max) with
    | some max => rfl
    | none => exact hone.symm

theorem unsignZeros_radar :
    (Json.ofMembers (radar d.unsignZeros p.unsignZeros ctx).members).unsignZeros =
      (Json.ofMembers (radar d p ctx).members).unsignZeros := by
  have hframe : (radarFrame d.unsignZeros p.unsignZeros ctx).toJson.unsignZeros =
      (radarFrame d p ctx).toJson.unsignZeros := by
    have hasked : p.unsignZeros.radar.maxValue = p.radar.maxValue.map Binary64.unsignZero := rfl
    simp only [RadarFrame.toJson, radarFrame, Indicator.toJson, Json.unsignZeros_ofMembers,
      List.map_cons, List.map_nil, Json.map_unsignMember_member, Json.unsignZeros_array,
      List.map_map, Function.comp_def, Json.unsignZeros_ofBinary64, hasked,
      indicatorMax_unsignZeros, Binary64.unsignZero_unsignZero]
    rfl
  have hoption : radar d.unsignZeros p.unsignZeros ctx =
      { radar d p ctx with
        grid := none
        radar := some (radarFrame d.unsignZeros p.unsignZeros ctx)
        series := Series.ofData d.unsignZeros .radar (SeriesStyle.ofProps p ctx).unsignZeros
        extensions := {} } := by
    simp only [radar, SeriesStyle.ofProps_unsignZeros, Data.seriesLabels_unsignZeros]
    rfl
  rw [hoption]
  exact ChartOption.unsignZeros_members _ rfl (congrArg some hframe)
    (Series.unsignZeros_toJson_ofData _ d .radar)

theorem unsignZeros_gauge :
    (Json.ofMembers (gauge p.unsignZeros ctx).members).unsignZeros =
      (Json.ofMembers (gauge p ctx).members).unsignZeros := by
  have hseries := Series.unsignZeros_toJson_gauge p.gauge.value
    (p.gauge.name.getD defaultGaugeName) p.gauge ctx
  exact ChartOption.unsignZeros_members (gauge p ctx) rfl rfl (congrArg (fun j => [j]) hseries)

end Compile

/-- Every compiled option has a counterpart without signs on the zeros of its inputs. -/
theorem Compiled.exists_unsignZeros {p : Props} {family : Family} {data : Option Data}
    {o : ChartOption} (h : Compiled p family data o) :
    ∃ o', Compiled p.unsignZeros family (data.map Data.unsignZeros) o' ∧
      (Json.ofMembers o'.members).unsignZeros = (Json.ofMembers o.members).unsignZeros := by
  cases h with
  | @cartesian _ d axes filled =>
    exact ⟨_, .cartesian axes (d.isEmpty_unsignZeros.trans filled),
      Compile.unsignZeros_cartesian d p p.context family⟩
  | @pieOf _ d first round head filled =>
    have hhead : d.unsignZeros.datasets.head? = some first.unsignZeros := by
      simp [Data.unsignZeros, head]
    have hfilled : first.unsignZeros.data ≠ [] := by simpa [Dataset.unsignZeros] using filled
    exact ⟨_, .pieOf round hhead hfilled,
      Compile.unsignZeros_pieOf p p.context round d.labels first⟩
  | @radar d filled =>
    exact ⟨_, .radar (d.isEmpty_unsignZeros.trans filled), Compile.unsignZeros_radar d p p.context⟩
  | gauge => exact ⟨_, .gauge, Compile.unsignZeros_gauge p p.context⟩

theorem Compiled.extensions_eq {p : Props} {family : Family} {data : Option Data}
    {o : ChartOption} (h : Compiled p family data o) : o.extensions = p.extensions := by
  cases h <;> rfl

/-! ## Unchanged inputs -/

theorem Props.validate_eq_ok_of_unchanged {a b : Inputs} (h : a.unchanged b = true)
    (ha : a.props.validate = .ok ()) : b.props.validate = .ok () := by
  obtain ⟨-, -, hprops, hextensions⟩ := Inputs.unsignZeros_eq_of_unchanged h
  rw [validate_eq_ok_iff, isValid_iff_unsignZeros, hprops] at ha
  rw [validate_eq_ok_iff, isValid_iff_unsignZeros]
  exact ⟨ha.1, fun key hkey => ha.2 key ((Extensions.mem_keys_iff_of_beq hextensions key).mpr hkey)⟩

/-- **Inputs that give no reason to compile again lead to the same outcome.** -/
theorem compile_unchanged {a b : Inputs} (h : a.unchanged b = true) {result : Option ChartOption}
    (ha : compile a.family a.data a.props = .ok result) :
    ∃ result', compile b.family b.data b.props = .ok result' ∧ SameOutcome result result' := by
  obtain ⟨hfamily, hdata, hprops, hextensions⟩ := Inputs.unsignZeros_eq_of_unchanged h
  cases result with
  | none =>
    obtain ⟨hvalid, hnothing⟩ := compile_eq_none_iff.mp ha
    rw [← nothingToPlot_unsignZeros_iff, hfamily, hdata, nothingToPlot_unsignZeros_iff] at hnothing
    exact ⟨none, compile_eq_none_iff.mpr ⟨Props.validate_eq_ok_of_unchanged h hvalid, hnothing⟩,
      .empty⟩
  | some o =>
    obtain ⟨hvalid, hcompiled⟩ := compile_eq_some_iff.mp ha
    obtain ⟨oa, hoa, hmembers⟩ := hcompiled.exists_unsignZeros
    have hsome : ∃ o', Compiled b.props b.family b.data o' := by
      rw [Compile.exists_compiled_iff, ← nothingToPlot_unsignZeros_iff, ← hfamily, ← hdata,
        nothingToPlot_unsignZeros_iff]
      exact Compile.exists_compiled_iff.mp ⟨o, hcompiled⟩
    obtain ⟨o', hcompiled'⟩ := hsome
    obtain ⟨ob, hob, hmembers'⟩ := hcompiled'.exists_unsignZeros
    -- Both options have the same counterpart without signs, since the inputs without signs agree.
    have hbetween : oa = ob := by
      rw [hfamily, hdata, hprops] at hoa
      exact Option.some.inj ((Compile.checked_eq_some_iff.mpr hoa).symm.trans
        (Compile.checked_eq_some_iff.mpr hob))
    refine ⟨some o', compile_eq_some_iff.mpr
      ⟨Props.validate_eq_ok_of_unchanged h hvalid, hcompiled'⟩, .drawn ⟨?_, ?_⟩⟩
    · rw [← hmembers, hbetween, hmembers']
    · rw [hcompiled.extensions_eq, hcompiled'.extensions_eq]
      exact hextensions

end Charting
