import Charting.Proofs.Equality
import Charting.Proofs.SameData
import Charting.Proofs.Skipped
import Charting.Proofs.Validation

/-! # Updates that are repeated

Repeating an update should change nothing, so its inputs have to be recognised as their own
repetition.  Data always are, since a NaN among the samples is taken for equal to a NaN.
Properties are compared as numbers, and a NaN among them makes them differ from themselves.

The checks of properties refuse most NaNs, but they do not look at every number: lengths, the value
of a gauge and its angles pass as they are (`Props.uncheckedNumbers`).  With a NaN among these an
update is never recognised, and each repetition compiles the chart and draws it once more; without
one, no repetition does (`Controller.update_repeated_iff`).
-/
namespace Charting

open Number

/-! ## Comparison of a value with itself -/

namespace Number.Binary64

variable {x y : Binary64}

theorem isNaN_eq_false_of_beq (h : (x == y) = true) : y.isNaN = false := by
  cases y with
  | nan => cases x <;> cases h
  | infinite | finite => rfl

theorem beq_self_of_isNaN_eq_false (h : x.isNaN = false) : (x == x) = true := by
  cases x with
  | nan => cases h
  | infinite negative => exact beq_self_eq_true (signed negative unitLimit)
  | finite negative units _ => exact beq_self_eq_true (signed negative units)

end Number.Binary64

theorem forall_mem_toList_of_beq {α : Type} [BEq α] {x y : Option α} {P : α → Prop}
    (h : (x == y) = true) (hP : ∀ a b, (a == b) = true → P b) : ∀ b ∈ y.toList, P b := by
  intro b hb
  obtain rfl : y = some b := by simpa using hb
  cases x with
  | none => cases h
  | some a => exact hP a b h

/-! ## Data -/

/-- Data are their own repetition, whatever their samples. -/
theorem Inputs.sameData_refl (data : Option Data) : sameData data data = true := by
  cases data with
  | none => rfl
  | some d => exact Data.equivalence_sameAs.refl d

/-! ## Numbers that no check looks at -/

/-- The insets that are given. -/
def GridSettings.insets (s : GridSettings) : List Dimension :=
  s.left.toList ++ s.right.toList ++ s.top.toList ++ s.bottom.toList

/-- The insets of a grid with settings of its own. -/
def Switch.insets : Switch GridSettings → List Dimension
  | custom s => s.insets
  | off | on => []

/-- The radii that are given. -/
def PieProps.radii (p : PieProps) : List Dimension := p.innerRadius.toList ++ p.outerRadius.toList

/-- The value, if it is given, and the angles. -/
def GaugeProps.uncheckedNumbers (g : GaugeProps) : List Binary64 :=
  g.value.toList ++ [g.startAngle, g.endAngle]

/-- The lengths that are given. -/
def Props.lengths (p : Props) : List Dimension :=
  p.width.toList ++ p.height.toList ++ p.grid.insets ++ p.pie.radii

/-- The numbers that pass the checks whatever they are. -/
def Props.uncheckedNumbers (p : Props) : List Binary64 :=
  p.lengths.map Dimension.number ++ p.gauge.uncheckedNumbers

/-! ## Properties that equal any have no NaN -/

theorem Dimension.isNaN_number_of_beq {a b : Dimension} (h : (a == b) = true) :
    b.number.isNaN = false := by
  cases a with
  | px a =>
    cases b with
    | px b => exact Binary64.isNaN_eq_false_of_beq h
    | percent => cases h
  | percent a =>
    cases b with
    | px => cases h
    | percent b => exact Binary64.isNaN_eq_false_of_beq h

theorem isNaN_numbers_of_beq {x y : Option Dimension} (h : (x == y) = true) :
    ∀ l ∈ y.toList, l.number.isNaN = false :=
  forall_mem_toList_of_beq h fun _ _ => Dimension.isNaN_number_of_beq

theorem Switch.isNaN_insets_of_beq {a b : Switch GridSettings} (h : (a == b) = true) :
    ∀ l ∈ b.insets, l.number.isNaN = false := by
  cases b with
  | off | on => simp [insets]
  | custom b =>
    cases a with
    | off | on => cases h
    | custom a =>
      obtain ⟨hleft, hright, htop, hbottom, -⟩ := GridSettings.beq_iff.mp h
      simp only [insets, GridSettings.insets, List.forall_mem_append]
      exact ⟨⟨⟨isNaN_numbers_of_beq hleft, isNaN_numbers_of_beq hright⟩,
        isNaN_numbers_of_beq htop⟩, isNaN_numbers_of_beq hbottom⟩

theorem PieProps.isNaN_radii_of_beq {a b : PieProps} (h : (a == b) = true) :
    ∀ l ∈ b.radii, l.number.isNaN = false := by
  obtain ⟨hinner, houter, -⟩ := PieProps.beq_iff.mp h
  exact List.forall_mem_append.mpr ⟨isNaN_numbers_of_beq hinner, isNaN_numbers_of_beq houter⟩

theorem GaugeProps.isNaN_uncheckedNumbers_of_beq {a b : GaugeProps} (h : (a == b) = true) :
    ∀ x ∈ b.uncheckedNumbers, x.isNaN = false := by
  obtain ⟨hvalue, -, -, -, -, -, -, -, -, hstart, hend, -⟩ := GaugeProps.beq_iff.mp h
  have hvalue := forall_mem_toList_of_beq hvalue fun _ _ => Binary64.isNaN_eq_false_of_beq
  simp only [uncheckedNumbers, List.forall_mem_append, List.forall_mem_cons]
  exact ⟨hvalue, Binary64.isNaN_eq_false_of_beq hstart, Binary64.isNaN_eq_false_of_beq hend,
    by simp⟩

theorem Props.isNaN_uncheckedNumbers_of_beq {p q : Props} (h : (p == q) = true) :
    ∀ x ∈ q.uncheckedNumbers, x.isNaN = false := by
  obtain ⟨-, -, -, -, -, -, hgrid, -, -, -, -, -, -, -, -, -, hwidth, hheight, -, -, -, hpie, -, -,
    hgauge, -⟩ := beq_iff.mp h
  simp only [uncheckedNumbers, lengths, List.forall_mem_append, List.forall_mem_map]
  exact ⟨⟨⟨⟨isNaN_numbers_of_beq hwidth, isNaN_numbers_of_beq hheight⟩,
    Switch.isNaN_insets_of_beq hgrid⟩, PieProps.isNaN_radii_of_beq hpie⟩,
    GaugeProps.isNaN_uncheckedNumbers_of_beq hgauge⟩

/-! ## Properties without a NaN equal themselves -/

theorem Props.beq_self_of_isPositive {x : Binary64} (h : isPositive x = true) : (x == x) = true :=
  Binary64.beq_self_of_isFinite (isPositive_iff.mp h).1

theorem Props.beq_self_of_ifGiven {x : Option Binary64} {holds : Binary64 → Bool}
    (h : ifGiven x holds = true) (hpositive : ∀ a, holds a = true → isPositive a = true) :
    (x == x) = true := by
  refine option_beq_self fun a ha => ?_
  have hgiven : x = some a := by simpa using ha
  exact beq_self_of_isPositive (hpositive a (ifGiven_some h hgiven))

theorem Dimension.option_beq_self {x : Option Dimension}
    (h : ∀ l ∈ x.toList, l.number.isNaN = false) : (x == x) = true := by
  refine Charting.option_beq_self fun l hl => ?_
  cases l with
  | px length => exact Binary64.beq_self_of_isNaN_eq_false (h _ hl)
  | percent share => exact Binary64.beq_self_of_isNaN_eq_false (h _ hl)

theorem Switch.beq_self_of_insets {s : Switch GridSettings}
    (h : ∀ l ∈ s.insets, l.number.isNaN = false) : (s == s) = true := by
  cases s with
  | off | on => rfl
  | custom s =>
    simp only [insets, GridSettings.insets, List.forall_mem_append] at h
    obtain ⟨⟨⟨hleft, hright⟩, htop⟩, hbottom⟩ := h
    exact GridSettings.beq_iff.mpr ⟨Dimension.option_beq_self hleft,
      Dimension.option_beq_self hright, Dimension.option_beq_self htop,
      Dimension.option_beq_self hbottom, rfl⟩

theorem PieProps.beq_self_of_radii {p : PieProps} (h : ∀ l ∈ p.radii, l.number.isNaN = false) :
    (p == p) = true := by
  obtain ⟨hinner, houter⟩ := List.forall_mem_append.mp h
  exact PieProps.beq_iff.mpr ⟨Dimension.option_beq_self hinner, Dimension.option_beq_self houter,
    rfl, rfl, rfl, rfl, rfl⟩

theorem GaugeProps.beq_self {g : GaugeProps} (valid : Props.IsValidGauge g)
    (h : ∀ x ∈ g.uncheckedNumbers, x.isNaN = false) : (g == g) = true := by
  simp only [uncheckedNumbers, List.forall_mem_append, List.forall_mem_cons] at h
  obtain ⟨hvalue, hstart, hend, -⟩ := h
  have hbounds := valid.bounds
  simp only [Bool.and_eq_true] at hbounds
  obtain ⟨⟨hmin, hmax⟩, -⟩ := hbounds
  have hvalue : (g.value == g.value) = true :=
    option_beq_self fun x hx => Binary64.beq_self_of_isNaN_eq_false (hvalue x hx)
  have hzones : (g.zones == g.zones) = true :=
    list_beq_self fun z hz =>
      Zone.beq_iff.mpr ⟨Binary64.beq_self_of_isFinite (List.all_eq_true.mp valid.zones z hz), rfl⟩
  exact GaugeProps.beq_iff.mpr ⟨hvalue, Binary64.beq_self_of_isFinite hmin,
    Binary64.beq_self_of_isFinite hmax, rfl, rfl, hzones, rfl, rfl, rfl,
    Binary64.beq_self_of_isNaN_eq_false hstart, Binary64.beq_self_of_isNaN_eq_false hend,
    Props.beq_self_of_isPositive valid.arcWidth, rfl, rfl⟩

namespace Props

variable {p : Props}

theorem IsValid.beq_self_bar (valid : IsValid p) : (p.bar == p.bar) = true := by
  have hradius := (Bool.and_eq_true_iff.mp valid.barBorderRadius).1
  exact BarProps.beq_iff.mpr ⟨rfl, beq_self_of_ifGiven valid.barMaxWidth fun _ => id,
    Binary64.beq_self_of_isFinite hradius, rfl, rfl⟩

theorem isPositive_of_isOpacity (x : Binary64) (h : isOpacity x = true) : isPositive x = true :=
  isPositive_iff.mpr (isOpacity_iff.mp h).1

theorem IsValid.beq_self_radar (valid : IsValid p) : (p.radar == p.radar) = true :=
  RadarProps.beq_iff.mpr ⟨beq_self_of_ifGiven valid.radarMaxValue fun _ => id, rfl,
    beq_self_of_ifGiven valid.radarOpacity isPositive_of_isOpacity⟩

/-- Properties that pass their checks equal themselves unless there is a NaN where the checks do
not look. -/
theorem IsValid.beq_self_iff (valid : IsValid p) :
    (p == p) = true ↔ ∀ x ∈ p.uncheckedNumbers, x.isNaN = false := by
  refine ⟨isNaN_uncheckedNumbers_of_beq, fun h => ?_⟩
  simp only [uncheckedNumbers, lengths, List.forall_mem_append, List.forall_mem_map] at h
  obtain ⟨⟨⟨⟨hwidth, hheight⟩, hgrid⟩, hpie⟩, hgauge⟩ := h
  have harea : (p.area == p.area) = true :=
    AreaProps.beq_iff.mpr ⟨beq_self_of_ifGiven valid.areaOpacity isPositive_of_isOpacity, rfl⟩
  have hscatter : (p.scatter == p.scatter) = true :=
    ScatterProps.beq_iff.mpr (beq_self_of_ifGiven valid.scatterSymbolSize fun _ => id)
  exact beq_iff.mpr ⟨rfl, rfl, rfl, rfl, rfl, rfl, Switch.beq_self_of_insets hgrid, rfl, rfl, rfl,
    rfl, rfl, rfl, rfl, rfl, rfl, Dimension.option_beq_self hwidth,
    Dimension.option_beq_self hheight, rfl, valid.beq_self_bar, harea,
    PieProps.beq_self_of_radii hpie, valid.beq_self_radar, hscatter,
    GaugeProps.beq_self valid.gauge hgauge, p.extensions.beq_refl⟩

end Props

/-! ## Updates -/

namespace Controller

variable {σ : Type} {r : Renderer σ} {c after : Controller σ} {inputs : Inputs} {answer : Bool}

/-- After an update that succeeded, its inputs are recognised exactly if no NaN among them went
past the checks. -/
theorem isCurrent_iff_of_update (h : c.update r inputs = (.ok answer, after)) :
    after.isCurrent inputs = true ↔ ∀ x ∈ inputs.props.uncheckedNumbers, x.isNaN = false := by
  have hstep := step_update r c inputs
  rw [h] at hstep
  cases hstep with
  | skipped current =>
    obtain ⟨earlier, -, hunchanged⟩ := isCurrent_eq_true_iff.mp current
    exact iff_of_true current
      (Props.isNaN_uncheckedNumbers_of_beq (Bool.and_eq_true_iff.mp hunchanged).2)
  | drawn _ compiled =>
    have valid := Props.validate_eq_ok_iff.mp (compile_eq_ok_iff.mp compiled).1
    rw [← valid.beq_self_iff]
    simp [isCurrent, Inputs.unchanged, Inputs.sameData_refl]

/-- **Repeating an update changes nothing exactly if no NaN went past the checks.**  With a NaN the
chart is compiled, counted and recorded once more, every time. -/
theorem update_repeated_iff {c after : Controller Recording}
    (h : c.update recorder inputs = (.ok answer, after)) :
    (after.update recorder inputs = (.ok false, after) ↔
      ∀ x ∈ inputs.props.uncheckedNumbers, x.isNaN = false) ∧
    ((∃ x ∈ inputs.props.uncheckedNumbers, x.isNaN = true) →
      after.update recorder inputs = (.ok true,
        { after with
          renderer := recording after.option after.renderer
          compileCount := after.compileCount + 1 })) := by
  have hiff := isCurrent_iff_of_update h
  refine ⟨⟨fun hskipped => ?_, fun hnumbers => ?_⟩, ?_⟩
  · exact hiff.mp (fst_update_eq_ok_false_iff.mp (congrArg Prod.fst hskipped))
  · exact if_pos (hiff.mpr hnumbers)
  · rintro ⟨x, hx, hnan⟩
    have hchanged : after.isCurrent inputs = false := by
      refine Bool.eq_false_iff.mpr fun hcurrent => ?_
      cases hnan.symm.trans (hiff.mp hcurrent x hx)
    have hstep := step_update recorder c inputs
    rw [h] at hstep
    cases hstep with
    | skipped current => cases hchanged.symm.trans current
    | @drawn option _ _ compiled =>
      simp only [update, hchanged, compiled, render_recorder compiled, Bool.false_eq_true,
        if_false]

end Controller

/-- A gauge with a value. -/
def gaugeAt (value : Binary64) : Inputs := ⟨.gauge, none, { gauge := { value := some value } }⟩

/-- The option of a gauge with a value. -/
def gaugeAtOption (value : Binary64) : ChartOption :=
  Compile.gauge (gaugeAt value).props (gaugeAt value).props.context

/-- The value of a gauge passes the checks, whatever it is. -/
theorem compile_gaugeAt (value : Binary64) :
    compile (gaugeAt value).family (gaugeAt value).data (gaugeAt value).props =
      .ok (some (gaugeAtOption value)) := by
  have hdefault := Props.isValid_default
  have hgauge : Props.IsValidGauge (gaugeAt value).props.gauge :=
    ⟨hdefault.gauge.bounds, hdefault.gauge.splitNumber, hdefault.gauge.arcWidth,
      hdefault.gauge.zones, hdefault.gauge.color⟩
  have hvalid : Props.IsValid (gaugeAt value).props := { hdefault with gauge := hgauge }
  exact compile_eq_some_iff.mpr ⟨Props.validate_eq_ok_iff.mpr hvalid, .gauge⟩

namespace Controller

theorem update_gaugeAt (value : Binary64) {c : Controller Recording}
    (changed : c.isCurrent (gaugeAt value) = false) :
    c.update recorder (gaugeAt value) = (.ok true,
      { c with
        renderer := recording (some (gaugeAtOption value)) c.renderer
        compileCount := c.compileCount + 1
        option := some (gaugeAtOption value)
        inputs := some (gaugeAt value) }) := by
  have hcompiled := compile_gaugeAt value
  simp only [update, changed, hcompiled, render_recorder hcompiled, Bool.false_eq_true, if_false]

theorem update_repeated_iff_infinite :
    ∃ after, fresh.update recorder (gaugeAt (.infinite false)) = (.ok true, after) ∧
      after.update recorder (gaugeAt (.infinite false)) = (.ok false, after) := by
  have hfirst := update_gaugeAt (.infinite false) (c := fresh) rfl
  exact ⟨_, hfirst, (update_repeated_iff hfirst).1.mpr (by decide +kernel)⟩

/-- A gauge whose value is a NaN is compiled and recorded at every update. -/
theorem nan_gauge_compiled_again :
    ∃ after later, fresh.update recorder (gaugeAt .nan) = (.ok true, after) ∧
      after.update recorder (gaugeAt .nan) = (.ok true, later) ∧
      after.compileCount = 1 ∧ later.compileCount = 2 ∧ later.renderer ≠ after.renderer := by
  have hfirst := update_gaugeAt .nan (c := fresh) rfl
  refine ⟨_, _, hfirst, update_gaugeAt _ ?_, rfl, rfl, ?_⟩
  · refine Bool.eq_false_iff.mpr fun hcurrent => ?_
    have hmem : Binary64.nan ∈ (gaugeAt .nan).props.uncheckedNumbers := by
      simp [gaugeAt, Props.uncheckedNumbers, GaugeProps.uncheckedNumbers]
    cases (isCurrent_iff_of_update hfirst).mp hcurrent .nan hmem
  · intro hsame
    cases congrArg Recording.setCalls hsame

end Controller

end Charting
