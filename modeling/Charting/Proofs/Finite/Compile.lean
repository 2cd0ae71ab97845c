import Charting.Proofs.Finite.Inputs
import Charting.Proofs.PassThrough
import Charting.Proofs.RadarScale
import Charting.Proofs.ScatterPlaces

/-! # Only finite numbers reach a renderer

Finite data and properties from a text lead to options with finite numbers
(`Compiled.allFinite_numbers`), and these are written without `null`.  Labels may spell numbers that
are not finite, but these count as no numbers; and the only number that is computed from samples is
their maximum, for the shares of slices are texts.

Gauges are another matter, since what they show is not looked at by any check.
-/
namespace Charting

open Number

/-! ## Blocks -/

section Blocks

variable {ctx : Context} (hctx : ctx.profile.IsFinite)
include hctx

theorem ChartOption.allFinite_textStyle (p : Props) :
    AllFinite (base p ctx).textStyle.numbers :=
  allFinite_cons.mpr ⟨hctx.fontSize, allFinite_nil⟩

theorem Tooltip.allFinite_numbers (settings : Switch TooltipSettings) (family : Family) :
    ∀ t ∈ build settings family ctx, AllFinite t.numbers := by
  intro t ht
  obtain ⟨s, -, rfl⟩ := Option.map_eq_some_iff.mp ht
  exact allFinite_cons.mpr ⟨hctx.fontSize, allFinite_nil⟩

theorem Legend.allFinite_numbers (position : LegendPosition) (entries : List String) :
    AllFinite (build position entries ctx).numbers := by
  have hgap : (build position entries ctx).itemGap.isFinite = true := by
    unfold itemGap
    split
    · exact Binary64.isFinite_literal 8 (by decide)
    · exact Binary64.isFinite_literal 16 (by decide)
  exact allFinite_cons.mpr ⟨hgap, allFinite_cons.mpr ⟨hctx.legendFontSize, allFinite_nil⟩⟩

theorem Compile.allFinite_legend (shown : Bool) (position : LegendPosition)
    (entries : List String) :
    ∀ l ∈ if shown then some (Legend.build position entries ctx) else none,
      AllFinite l.numbers := by
  intro l hl
  obtain ⟨-, hl⟩ := Option.ite_none_right_eq_some.mp hl
  exact Option.some.inj hl ▸ Legend.allFinite_numbers hctx position entries

theorem Axis.allFinite_build (scale : AxisScale) : AllFinite (build scale ctx).numbers := by
  have hrotation : ∀ x ∈ rotationFor ctx.profile scale, x.isFinite = true := by
    intro x hx
    cases scale with
    | value => cases hx
    | category labels =>
      obtain ⟨-, hx⟩ := Option.ite_none_right_eq_some.mp hx
      exact Option.some.inj hx ▸ hctx.rotationDegrees
  simpa [numbers, build, TextStyle.numbers, hctx.fontSize] using hrotation

/-- A name adds its distance from the axis and its size. -/
theorem Axis.allFinite_named {a : Axis} (h : AllFinite a.numbers) (name : Option String)
    (lines : Bool) : AllFinite ((a.withName name ctx).withSplitLines lines).numbers := by
  have hgap : (nameGap a.scale).isFinite = true := by
    unfold nameGap
    split
    · exact Binary64.isFinite_literal 45 (by decide)
    · exact Binary64.isFinite_literal 30 (by decide)
  have hplain : AllFinite (a.withSplitLines lines).numbers := h
  cases name with
  | none => exact hplain
  | some text =>
    by_cases htext : text = ""
    · simpa [withName, htext] using hplain
    · simp only [numbers, allFinite_append] at h
      have hrest := And.intro h.1.2 h.2
      simpa [numbers, withName, htext, withSplitLines, AxisName.numbers, TextStyle.numbers, hgap,
        hctx.fontSize] using hrest

theorem Compile.allFinite_plainAxes (family : Family) (labels : List String) (p : Props) :
    AllFinite (plainAxes family labels p ctx).1.numbers ∧
      AllFinite (plainAxes family labels p ctx).2.numbers := by
  have hvalue := Axis.allFinite_build hctx .value
  have hcategory : AllFinite
      ((Axis.build (.category labels) ctx).withBoundaryGap (hasBoundaryGap family)).numbers :=
    Axis.allFinite_build hctx (.category labels)
  unfold plainAxes
  split
  · exact ⟨hvalue, hvalue⟩
  · cases isHorizontal family p
    · exact ⟨hcategory, hvalue⟩
    · exact ⟨hvalue, hcategory⟩

theorem Compile.allFinite_centerTitle (p : Props) :
    ∀ t ∈ centerTitle p ctx, AllFinite t.numbers := by
  intro t ht
  obtain ⟨text, -, rfl⟩ := Option.map_eq_some_iff.mp ht
  exact allFinite_cons.mpr ⟨hctx.captionSize, allFinite_nil⟩

end Blocks

theorem Grid.allFinite_ofSettings {s : GridSettings}
    (h : ∀ l ∈ s.insets, l.number.isFinite = true) : AllFinite (ofSettings s).numbers := by
  simp only [GridSettings.insets, List.forall_mem_append] at h
  obtain ⟨⟨⟨hleft, hright⟩, htop⟩, hbottom⟩ := h
  simp only [numbers, ofSettings, List.map_cons, List.map_nil, allFinite_cons]
  exact ⟨Dimension.isFinite_getD hleft (Binary64.isFinite_literal _ (by decide)),
    Dimension.isFinite_getD hright (Binary64.isFinite_literal _ (by decide)),
    Dimension.isFinite_getD htop (Binary64.isFinite_literal _ (by decide)),
    Dimension.isFinite_getD hbottom (Binary64.isFinite_literal _ (by decide)), allFinite_nil⟩

theorem Grid.allFinite_numbers {settings : Switch GridSettings}
    (h : ∀ l ∈ settings.insets, l.number.isFinite = true) :
    ∀ g ∈ build settings, AllFinite g.numbers := by
  intro g hg
  cases settings with
  | off => cases hg
  | on =>
    cases hg
    exact allFinite_ofSettings (by simp [GridSettings.insets])
  | custom s =>
    cases hg
    exact allFinite_ofSettings h

/-! ## The spokes of radar charts -/

namespace Compile

theorem allFinite_radarFrame {ctx : Context} (hctx : ctx.profile.IsFinite) (d : Data) (p : Props) :
    AllFinite (radarFrame d p ctx).numbers := by
  have hmax := (endsSpokes_indicatorMax d p.radar.maxValue).finite
  simp [RadarFrame.numbers, radarFrame, TextStyle.numbers, hctx.fontSize, hmax]

end Compile

/-! ## Series -/

/-- What is plotted of finite samples is finite. -/
theorem Dataset.IsFinite.plotted {d : Dataset} (h : d.IsFinite) (labels : List String) :
    AllFinite (d.plotted labels) := by
  unfold Dataset.plotted
  split
  · exact h.samples
  · exact fun x hx => h.samples x (List.mem_of_mem_take hx)

theorem Dataset.IsFinite.lineWidth {d : Dataset} (h : d.IsFinite) :
    (d.borderWidth.getD defaultLineWidth).isFinite = true :=
  isFinite_getD h.borderWidth (Binary64.isFinite_literal 2 (by decide))

namespace ScatterSeries

/-- Labels such as `inf` spell numbers that are left out. -/
theorem allFinite_labelNumbers (labels : List String) : AllFinite (labelNumbers labels) := by
  unfold labelNumbers
  cases hlabels : labels.mapM labelNumber? with
  | none => exact allFinite_nil
  | some xs =>
    have hspell := mapM_labelNumber?_eq_some_iff.mp hlabels
    intro x hx
    obtain ⟨index, hindex, rfl⟩ := List.getElem_of_mem hx
    exact (hspell.get (hspell.length_eq ▸ hindex) hindex).2

/-- A point without a number lies at its index, which is finite as long as it can be counted. -/
theorem allFinite_points {xs ys : List Binary64} (hxs : AllFinite xs) (hys : AllFinite ys)
    (hsize : FitsWord ys.length) : AllFinite ((points xs ys).flatMap fun p => [p.x, p.y]) := by
  refine allFinite_flatMap.mpr fun point hpoint => ?_
  obtain ⟨index, hindex, rfl⟩ := List.mem_mapIdx.mp hpoint
  obtain ⟨-, hword⟩ := hsize
  have hx : ((xs[index]?).getD (.ofNat index)).isFinite = true :=
    isFinite_getD (fun x hx => hxs x (List.mem_of_getElem? hx))
      (Binary64.isFinite_ofNat (by omega))
  exact allFinite_cons.mpr
    ⟨hx, allFinite_cons.mpr ⟨hys _ (List.getElem_mem hindex), allFinite_nil⟩⟩

end ScatterSeries

section Series

variable {style : SeriesStyle} (hstyle : style.IsFinite) {d : Dataset} (hd : d.IsFinite)
include hstyle hd

theorem LineSeries.allFinite_numbers (labels : List String) (color : String) (filled : Bool) :
    AllFinite (ofDataset d labels color filled style).numbers := by
  have harea : ∀ a ∈ (ofDataset d labels color filled style).area, AllFinite a.numbers := by
    intro a ha
    obtain ⟨-, ha⟩ := Option.ite_none_right_eq_some.mp ha
    obtain rfl := Option.some.inj ha
    exact allFinite_cons.mpr ⟨style.isFinite_visibleAreaOpacity, allFinite_nil⟩
  have hdata : AllFinite (ofDataset d labels color filled style).data := hd.plotted labels
  have hwidth : (ofDataset d labels color filled style).width.isFinite = true := hd.lineWidth
  have hsize : (ofDataset d labels color filled style).symbolSize.isFinite = true :=
    hstyle.profile.symbolSize
  simpa [numbers, hdata, hwidth, hsize] using harea

theorem BarSeries.allFinite_numbers (labels : List String) (color : String) :
    AllFinite (ofDataset d labels color style).numbers := by
  have hdata : AllFinite (ofDataset d labels color style).data := hd.plotted labels
  have hwidth : (ofDataset d labels color style).maxWidth.isFinite = true :=
    Binary64.isFinite_min hstyle.barMaxWidth (Binary64.isFinite_literal 40 (by decide))
  have hcorners : AllFinite (ofDataset d labels color style).corners.numbers := by
    have hradius := hstyle.barBorderRadius
    change AllFinite (Corners.ofBar style.barDirection style.barBorderRadius).numbers
    cases style.barDirection <;> simp (disch := decide) [Corners.ofBar, Corners.numbers, hradius]
  have hlabel : ∀ l ∈ (ofDataset d labels color style).label, l.fontSize.isFinite = true := by
    intro l hl
    obtain ⟨-, hl⟩ := Option.ite_none_right_eq_some.mp hl
    obtain rfl := Option.some.inj hl
    exact hstyle.profile.fontSize
  simpa [numbers, hdata, hwidth, hcorners] using hlabel

theorem ScatterSeries.allFinite_numbers (labels : List String) (color : String)
    (hsize : FitsWord d.data.length) : AllFinite (ofDataset d labels color style).numbers :=
  allFinite_append.mpr ⟨allFinite_points (allFinite_labelNumbers labels) hd.samples hsize,
    allFinite_cons.mpr ⟨hstyle.scatterSymbolSize, allFinite_nil⟩⟩

theorem PieSeries.allFinite_numbers (labels : List String) {family : Family} :
    AllFinite (ofDataset d labels family style).numbers := by
  have hinner : (style.pieInnerRadius.getD (defaultInnerRadius family)).number.isFinite = true := by
    refine Dimension.isFinite_getD (fun l hl => hstyle.pieInnerRadius l (by simpa using hl)) ?_
    unfold defaultInnerRadius
    split
    · exact Binary64.isFinite_literal 50 (by decide)
    · exact Binary64.isFinite_literal 0 (by decide)
  have hvalues : ∀ slice ∈ (ofDataset d labels family style).slices,
      slice.value.isFinite = true := by
    intro slice hslice
    obtain ⟨index, hindex, rfl⟩ := List.mem_mapIdx.mp hslice
    exact hd.plotted labels _ (List.getElem_mem hindex)
  refine allFinite_append.mpr ⟨allFinite_append.mpr ⟨?_, allFinite_map.mpr hvalues⟩, ?_⟩
  · exact allFinite_cons.mpr ⟨hinner, allFinite_cons.mpr ⟨hstyle.pieOuterRadius, allFinite_nil⟩⟩
  · exact allFinite_cons.mpr ⟨hstyle.profile.fontSize, allFinite_nil⟩

theorem RadarSeries.allFinite_numbers (color : String) :
    AllFinite (ofDataset d color style).numbers := by
  have hrest : AllFinite [style.context.profile.symbolSize, d.borderWidth.getD defaultLineWidth,
      style.radarFillOpacity] := by
    simp [hstyle.profile.symbolSize, hd.lineWidth, hstyle.radarFillOpacity]
  exact allFinite_append.mpr ⟨hd.samples, hrest⟩

theorem Series.allFinite_ofDataset {family : Family} (hfamily : family ≠ .gauge)
    (hsize : family = .scatter → FitsWord d.data.length) (labels : List String) (index : Nat) :
    AllFinite (ofDataset family labels style index d).numbers := by
  cases family with
  | gauge => exact absurd rfl hfamily
  | line | area => exact LineSeries.allFinite_numbers hstyle hd labels _ _
  | bar => exact BarSeries.allFinite_numbers hstyle hd labels _
  | scatter => exact ScatterSeries.allFinite_numbers hstyle hd labels _ (hsize rfl)
  | radar => exact RadarSeries.allFinite_numbers hstyle hd _
  | pie | donut => exact PieSeries.allFinite_numbers hstyle hd labels
  | mixed =>
    unfold ofDataset
    cases d.kind.getD .line with
    | line | area => exact LineSeries.allFinite_numbers hstyle hd labels _ _
    | bar => exact BarSeries.allFinite_numbers hstyle hd labels _

end Series

/-- No dataset has more samples than a machine word can count. -/
def Data.IsCountable (d : Data) : Prop := ∀ s ∈ d.datasets, FitsWord s.data.length

theorem Series.allFinite_of_mem_ofData {style : SeriesStyle} (hstyle : style.IsFinite) {d : Data}
    (hd : d.IsFinite) {family : Family} (hfamily : family ≠ .gauge)
    (hsize : family = .scatter → d.IsCountable) :
    ∀ s ∈ ofData d family style, AllFinite s.numbers := by
  intro s hs
  obtain ⟨index, source, hsource, rfl⟩ := mem_ofData.mp hs
  have hmem := List.mem_of_getElem? hsource
  exact allFinite_ofDataset hstyle (hd source hmem) hfamily
    (fun hscatter => hsize hscatter source hmem) d.labels index

/-! ## Options -/

namespace Compiled

variable {p : Props} {family : Family} {d : Data} {o : ChartOption}

/-- **Finite inputs lead to finite numbers.** -/
theorem allFinite_numbers (h : Compiled p family (some d) o) (hfamily : family ≠ .gauge)
    (valid : p.IsValid) (hlengths : p.HasFiniteLengths) (hd : d.IsFinite)
    (hsize : family = .scatter → d.IsCountable) : AllFinite o.numbers := by
  have hctx : p.context.profile.IsFinite := p.target.isFinite_profile
  have hstyle := SeriesStyle.isFinite_ofProps hctx valid hlengths
  have hbase := ChartOption.allFinite_textStyle hctx p
  have htooltip := Tooltip.allFinite_numbers hctx p.tooltip
  have hlegend := Compile.allFinite_legend hctx p.showLegend p.legendPosition
  have hmissing {α : Type} {numbers : α → List Binary64} :
      ∀ a ∈ (none : Option α), AllFinite (numbers a) := fun _ ha => (Option.not_mem_none _ ha).elim
  rw [ChartOption.allFinite_numbers_iff]
  cases h with
  | gauge => exact absurd rfl hfamily
  | cartesian =>
    obtain ⟨hx, hy⟩ := Compile.allFinite_plainAxes hctx family d.labels p
    have hgrid := Grid.allFinite_numbers hlengths.insets
    have hseries := Series.allFinite_of_mem_ofData hstyle hd hfamily hsize
    refine ⟨hbase, hmissing, htooltip family, hlegend d.seriesLabels, hgrid, ?_, ?_, hmissing,
      hseries⟩
    · rintro a ⟨⟩
      exact Axis.allFinite_named hctx hx _ _
    · rintro a ⟨⟩
      exact Axis.allFinite_named hctx hy _ _
  | @pieOf _ _ first round head =>
    have hfirst : Data.IsFinite ⟨d.labels, [first]⟩ :=
      List.forall_mem_singleton.mpr (hd first (List.mem_of_head? head))
    have hround : family ≠ .scatter := by rcases round with rfl | rfl <;> simp
    have hseries := Series.allFinite_of_mem_ofData hstyle hfirst hfamily
      fun hscatter => absurd hscatter hround
    exact ⟨hbase, Compile.allFinite_centerTitle hctx p, htooltip family, hlegend _, hmissing,
      hmissing, hmissing, hmissing, hseries⟩
  | radar =>
    have hseries := Series.allFinite_of_mem_ofData hstyle hd hfamily hsize
    refine ⟨hbase, hmissing, htooltip .radar, hlegend d.seriesLabels, hmissing, hmissing, hmissing,
      ?_, hseries⟩
    rintro f ⟨⟩
    exact Compile.allFinite_radarFrame hctx d p

end Compiled

/-- Outside of some members that it may have, there is no `null` in an object. -/
def Json.NullFreeExcept (j : Json) (members : List (String × Json)) : Prop :=
  ∃ all, j = .object all ∧ ∀ m ∈ all, m.2.NullFree ∨ m ∈ members

theorem ChartOption.nullFree_value {o : ChartOption} (h : o.HasOwnKeys)
    (hfinite : AllFinite o.numbers) :
    o.value.NullFreeExcept (o.extensions.entries.map Json.sortMember) := by
  obtain ⟨members, hvalue, -, hperm⟩ := exists_value_eq h
  refine ⟨members, hvalue, fun m hm => ?_⟩
  rw [hperm.mem_iff, List.map_append, List.mem_append] at hm
  rcases hm with hm | hm
  · obtain ⟨own, hown, rfl⟩ := List.mem_map.mp hm
    obtain ⟨part, hpart, hsome⟩ := List.mem_filterMap.mp hown
    exact .inl (memberNullFree_members hfinite part hpart own hsome).sortMembers
  · exact .inr hm

/-- **Only finite numbers reach a renderer.**  For properties from a text and finite data, every
number of an option is finite, unless it is of a gauge, and there is no `null` in its value except
in extensions.  Points without a number of their own lie at their index, so there must not be more
of them than a machine word can count. -/
theorem compile_allFinite {text : String} {p : Props} (hread : Props.parse text = .ok p)
    {family : Family} (hfamily : family ≠ .gauge) {d : Data} (hd : d.IsFinite)
    (hsize : family = .scatter → d.IsCountable) {o : ChartOption}
    (h : compile family (some d) p = .ok (some o)) :
    AllFinite o.numbers ∧ o.value.NullFreeExcept (p.extensions.entries.map Json.sortMember) := by
  have hp := Props.isRead_of_parse hread
  have valid := Props.validate_eq_ok_iff.mp hp.valid
  obtain ⟨-, hcompiled⟩ := compile_eq_some_iff.mp h
  have hfinite := hcompiled.allFinite_numbers hfamily valid hp.hasFiniteLengths hd hsize
  refine ⟨hfinite, ?_⟩
  rw [← hcompiled.extensions_eq]
  exact ChartOption.nullFree_value (hcompiled.hasOwnKeys valid) hfinite

/-- Properties with lengths of both kinds and an extension that is `null`. -/
def laidOutText : String :=
  "\x7b\"grid\": \x7b\"left\": 12, \"right\": \"5%\"\x7d, " ++
    "\"scatter\": \x7b\"symbolSize\": 7\x7d, \"extraOptions\": \x7b\"aria\": null\x7d\x7d"

/-- Points under labels of which only one spells a finite number. -/
def oddLabels : Data :=
  ⟨["inf", "2.5"], [{ label := "seen", data := [3, 5], borderWidth := some 1 }]⟩

theorem compile_allFinite_oddLabels :
    ∃ p o, Props.parse laidOutText = .ok p ∧ oddLabels.IsFinite ∧ oddLabels.IsCountable ∧
      compile .scatter (some oddLabels) p = .ok (some o) ∧ AllFinite o.numbers ∧
      o.value.NullFreeExcept (p.extensions.entries.map Json.sortMember) := by
  have hread : (Props.parse laidOutText).toOption.isSome = true := by decide +kernel
  have hfinite : oddLabels.IsFinite := by
    refine List.forall_mem_singleton.mpr ⟨?_, ?_⟩
    · simp (disch := decide)
    · intro width hwidth
      obtain rfl : 1 = width := Option.some.inj hwidth
      exact Binary64.isFinite_literal 1 (by decide)
  have hcountable : oddLabels.IsCountable := List.forall_mem_singleton.mpr (by decide)
  cases h : Props.parse laidOutText with
  | error e =>
    rw [h] at hread
    cases hread
  | ok p =>
    have hcompile : compile .scatter (some oddLabels) p =
        .ok (some (Compile.cartesian .scatter oddLabels p p.context)) :=
      compile_eq_some_iff.mpr ⟨(Props.isRead_of_parse h).valid, .cartesian rfl rfl⟩
    obtain ⟨hnumbers, hvalue⟩ :=
      compile_allFinite h (by simp) hfinite (fun _ => hcountable) hcompile
    exact ⟨p, _, rfl, hfinite, hcountable, hcompile, hnumbers, hvalue⟩

end Charting
