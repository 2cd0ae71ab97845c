import Charting.Proofs.Blocks
import Mathlib.Logic.ExistsUnique

/-! # The direction of bars

Bars grow away from the axis that has the labels.  The direction shows in three places: bars are
round at their far end, their values are written beyond it, and a gradient runs along them.

It is settled twice, though.  The axes are swapped in bar charts only (`Compile.isHorizontal`),
while the look of the bars follows the properties in every chart that has bars
(`SeriesStyle.barDirection`).  A mixed chart has bars and never swaps its axes; asked for lying
bars, it has bars that stand and look as if they lay.  `compile_styles_bars_iff` says that this is
the only case in which the two differ.
-/
namespace Charting

open Number

/-! ## The direction, seen from the axes and from the bars -/

/-- Bars grow upwards from labels along the x axis, and to the right from labels along the y
axis. -/
def ChartOption.GrowsBars (o : ChartOption) : Direction → Prop
  | .vertical => ∃ axis labels, o.xAxis = some axis ∧ axis.scale = .category labels
  | .horizontal => ∃ axis labels, o.yAxis = some axis ∧ axis.scale = .category labels

theorem Corners.ofBar_eq_ofBar_iff {a b : Direction} {radius : Binary64} :
    ofBar a radius = ofBar b radius ↔ a = b ∨ radius = 0 := by
  cases a <;> cases b <;> simp +contextual [ofBar]

theorem LabelPosition.ofBar_eq_ofBar_iff {a b : Direction} : ofBar a = ofBar b ↔ a = b := by
  cases a <;> cases b <;> simp [ofBar]

namespace BarSeries

/-- What bars look like. -/
structure Looks (s : BarSeries) (corners : Corners) (position : LabelPosition)
    (direction : Direction) : Prop where
  corners : s.corners = corners
  /-- Where values are written, if they are. -/
  label : ∀ l, s.label = some l → l.position = position
  /-- Where a gradient runs, if there is one. -/
  gradient : ∀ g, s.fill = .gradient g → g.direction = direction

/-- Bars look as they have to if they grow in a direction: their far end is round, values are
written beyond it, and a gradient runs along the bars. -/
def StyledFor (s : BarSeries) (radius : Binary64) : Direction → Prop
  | .vertical => s.Looks ⟨radius, radius, 0, 0⟩ .top .vertical
  | .horizontal => s.Looks ⟨0, radius, radius, 0⟩ .right .horizontal

variable {d : Dataset} {labels : List String} {color : String} {style : SeriesStyle}
  {direction : Direction}

theorem looks_ofDataset_iff {corners : Corners} {position : LabelPosition} :
    (ofDataset d labels color style).Looks corners position direction ↔
      Corners.ofBar style.barDirection style.barBorderRadius = corners ∧
      (style.showValues = true → LabelPosition.ofBar style.barDirection = position) ∧
      (style.barGradient = true → style.barDirection = direction) := by
  constructor
  · intro h
    exact ⟨h.corners, fun hvalues => h.label _ (if_pos hvalues),
      fun hgradient => h.gradient _ (if_pos hgradient)⟩
  · rintro ⟨hcorners, hlabel, hgradient⟩
    constructor
    case corners => exact hcorners
    case label =>
      intro l hl
      obtain ⟨hvalues, heq⟩ := Option.ite_none_right_eq_some.mp hl
      obtain rfl : _ = l := Option.some.inj heq
      exact hlabel hvalues
    case gradient =>
      intro g hg
      by_cases hon : style.barGradient = true
      · obtain rfl : _ = g := Fill.gradient.inj ((if_pos hon).symm.trans hg)
        exact hgradient hon
      · cases (if_neg hon).symm.trans hg

theorem styledFor_iff_looks {s : BarSeries} {radius : Binary64} :
    s.StyledFor radius direction ↔
      s.Looks (.ofBar direction radius) (.ofBar direction) direction := by
  cases direction <;> rfl

/-- Bars that are not round, show no values and have one colour look alike in both directions;
all others look as if they grew in the direction of their style and in no other. -/
theorem styledFor_ofDataset_iff :
    (ofDataset d labels color style).StyledFor style.barBorderRadius direction ↔
      style.barDirection = direction ∨
        (style.barBorderRadius = 0 ∧ style.showValues = false ∧ style.barGradient = false) := by
  rw [styledFor_iff_looks, looks_ofDataset_iff, Corners.ofBar_eq_ofBar_iff,
    LabelPosition.ofBar_eq_ofBar_iff]
  by_cases hsame : style.barDirection = direction
  · simp [hsame]
  · simp [hsame]

end BarSeries

/-! ## Charts with bars -/

/-- Bars come from bar charts and mixed charts, in the style of the chart. -/
theorem Series.exists_ofDataset_of_bar_mem {d : Data} {family : Family} {style : SeriesStyle}
    {s : BarSeries} (h : bar s ∈ ofData d family style) :
    (family = .bar ∨ family = .mixed) ∧
      ∃ source color, s = .ofDataset source d.labels color style := by
  obtain ⟨index, source, -, hsource⟩ := mem_ofData.mp h
  cases family with
  | bar =>
    cases hsource
    exact ⟨.inl rfl, source, _, rfl⟩
  | mixed =>
    cases hkind : source.kind.getD .line with
    | line | area => simp [ofDataset, hkind] at hsource
    | bar =>
      simp only [ofDataset, hkind, bar.injEq] at hsource
      exact ⟨.inr rfl, source, _, hsource.symm⟩
  | line | area | scatter | pie | donut | radar | gauge => simp [ofDataset] at hsource

namespace Compile

@[simp] theorem scale_named (a : Axis) (name : Option String) (ctx : Context) (lines : Bool) :
    ((a.withName name ctx).withSplitLines lines).scale = a.scale := by
  unfold Axis.withName
  split
  · rfl
  · split <;> rfl

/-- Bars lie in bar charts that ask for it; else they stand, in every chart with labels along an
axis. -/
theorem growsBars_cartesian_iff {family : Family} {d : Data} {p : Props} {ctx : Context}
    {direction : Direction} (h : family ≠ .scatter) :
    (cartesian family d p ctx).GrowsBars direction ↔
      direction = if isHorizontal family p then .horizontal else .vertical := by
  cases hlying : isHorizontal family p <;> cases direction <;>
    simp [ChartOption.GrowsBars, cartesian, plainAxes, h, hlying, Axis.build, Axis.withBoundaryGap]

end Compile

/-- Whether bars look different if they grow in another direction. -/
def BarProps.ShowsDirection (b : BarProps) : Prop :=
  b.borderRadius ≠ 0 ∨ b.showValues = true ∨ b.gradient = true

/-- The bars of a chart with labels along an axis look as if they grew in its direction, unless
they belong to a mixed chart that asks for lying bars. -/
theorem Compile.styledFor_iff {family : Family} {p : Props} {ctx : Context} {source : Dataset}
    {labels : List String} {color : String} (hfamily : family = .bar ∨ family = .mixed) :
    (BarSeries.ofDataset source labels color (.ofProps p ctx)).StyledFor p.bar.borderRadius
        (if isHorizontal family p then .horizontal else .vertical) ↔
      ¬(family = .mixed ∧ p.bar.horizontal = true ∧ p.bar.ShowsDirection) := by
  refine BarSeries.styledFor_ofDataset_iff.trans ?_
  rcases hfamily with rfl | rfl
  · exact iff_of_true (.inl rfl) (by simp)
  · cases hlying : p.bar.horizontal <;>
      simp [isHorizontal, SeriesStyle.barDirection, SeriesStyle.ofProps, hlying,
        BarProps.ShowsDirection]

/-- **Bars look as their direction asks for, except in mixed charts that ask for lying bars.**
Every chart with bars has labels along exactly one of its axes, and the bars are styled for growing
away from it; in a mixed chart that asks for lying bars they are not, unless nothing of their look
shows a direction. -/
theorem compile_styles_bars_iff {family : Family} {data : Option Data} {p : Props}
    {o : ChartOption} (h : compile family data p = .ok (some o)) {s : BarSeries}
    (hs : .bar s ∈ o.series) :
    (∃! direction, o.GrowsBars direction) ∧
      ∀ direction, o.GrowsBars direction →
        (s.StyledFor p.bar.borderRadius direction ↔
          ¬(family = .mixed ∧ p.bar.horizontal = true ∧ p.bar.ShowsDirection)) := by
  obtain ⟨-, hcompiled⟩ := compile_eq_some_iff.mp h
  cases hcompiled with
  | gauge => simp [Compile.gauge] at hs
  | radar => exact absurd (Series.exists_ofDataset_of_bar_mem hs).1 (by simp)
  | pieOf round =>
    have hfamily := (Series.exists_ofDataset_of_bar_mem hs).1
    rcases round with rfl | rfl <;> simp at hfamily
  | @cartesian _ d axes filled =>
    obtain ⟨hfamily, source, color, rfl⟩ := Series.exists_ofDataset_of_bar_mem hs
    have hscatter : family ≠ .scatter := by rcases hfamily with rfl | rfl <;> simp
    refine ⟨⟨_, (Compile.growsBars_cartesian_iff hscatter).mpr rfl, fun _ =>
      (Compile.growsBars_cartesian_iff hscatter).mp⟩, ?_⟩
    intro direction hdirection
    obtain rfl := (Compile.growsBars_cartesian_iff hscatter).mp hdirection
    exact Compile.styledFor_iff hfamily

/-- Bars of one dataset. -/
def soldBars : Data := ⟨["q1", "q2"], [{ label := "sold", data := [3, 5], kind := some .bar }]⟩

/-- Bars that lie, with everything that shows their direction. -/
def lyingBars : Props := { bar := { horizontal := true, showValues := true, gradient := true } }

/-- Properties of lying bars pass their checks, for charts of every family with axes. -/
theorem compile_lyingBars {family : Family} (axes : family.isCartesian = true) :
    compile family (some soldBars) lyingBars =
      .ok (some (Compile.cartesian family soldBars lyingBars lyingBars.context)) :=
  compile_eq_some_iff.mpr
    ⟨Props.validate_eq_ok_iff.mpr (by decide +kernel), .cartesian axes rfl⟩

theorem compile_styles_bars_iff_lying :
    ∃ o s, compile .bar (some soldBars) lyingBars = .ok (some o) ∧ .bar s ∈ o.series ∧
      o.GrowsBars .horizontal ∧ s.StyledFor lyingBars.bar.borderRadius .horizontal := by
  have hcompile : compile .bar (some soldBars) lyingBars = _ := compile_lyingBars rfl
  have hgrows : (Compile.cartesian .bar soldBars lyingBars lyingBars.context).GrowsBars
      .horizontal := (Compile.growsBars_cartesian_iff (by simp)).mpr rfl
  refine ⟨_, _, hcompile, List.mem_singleton_self _, hgrows, ?_⟩
  obtain ⟨-, hstyled⟩ := compile_styles_bars_iff hcompile (List.mem_singleton_self _)
  exact (hstyled _ hgrows).mpr fun hmixed => nomatch hmixed.1

/-- The same bars in a mixed chart stand, and look as if they lay. -/
theorem lying_bars_of_mixed_not_styledFor :
    ∃ o s, compile .mixed (some soldBars) lyingBars = .ok (some o) ∧ .bar s ∈ o.series ∧
      o.GrowsBars .vertical ∧ ∀ radius, ¬s.StyledFor radius .vertical := by
  refine ⟨_, _, compile_lyingBars rfl, List.mem_singleton_self _,
    (Compile.growsBars_cartesian_iff (by simp)).mpr rfl, ?_⟩
  intro radius hstyled
  have hgradient : Direction.horizontal = .vertical := hstyled.gradient _ rfl
  cases hgradient

end Charting
