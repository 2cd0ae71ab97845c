import Charting.Props

/-! # Equality of properties

Properties are equal if they are field by field.  The numbers among them are compared as numbers
and extensions as a set; every other field is the same.
-/
namespace Charting

/-! ## Parts that may be missing, lists and switches -/

section

variable {α : Type} [BEq α]

theorem option_beq_self {x : Option α} (h : ∀ a ∈ x.toList, (a == a) = true) : (x == x) = true := by
  cases x with
  | none => rfl
  | some a => exact h a (by simp)

theorem list_beq_self {as : List α} (h : ∀ a ∈ as, (a == a) = true) : (as == as) = true := by
  induction as with
  | nil => rfl
  | cons a as ih =>
    rw [List.forall_mem_cons] at h
    rw [List.cons_beq_cons, h.1, ih h.2]
    rfl

end

instance {α : Type} [BEq α] [LawfulBEq α] : LawfulBEq (Switch α) where
  eq_of_beq {x y} h := by
    cases x with
    | off =>
      cases y with
      | off => rfl
      | on | custom => cases h
    | on =>
      cases y with
      | on => rfl
      | off | custom => cases h
    | custom a =>
      cases y with
      | off | on => cases h
      | custom b => exact congrArg Switch.custom (eq_of_beq (α := α) h)
  rfl {x} := by
    cases x with
    | off | on => rfl
    | custom a => exact beq_self_eq_true a

/-! ## Groups of properties -/

theorem GridSettings.beq_iff {a b : GridSettings} :
    (a == b) = true ↔ (a.left == b.left) = true ∧ (a.right == b.right) = true ∧
      (a.top == b.top) = true ∧ (a.bottom == b.bottom) = true ∧ a.containLabel = b.containLabel := by
  change instBEqGridSettings.beq a b = true ↔ _
  simp only [instBEqGridSettings.beq, Bool.and_eq_true, beq_iff_eq]

/-- The settings of a tooltip hold no numbers. -/
instance : LawfulBEq TooltipSettings where
  eq_of_beq {a b} h := by
    change instBEqTooltipSettings.beq a b = true at h
    simp only [instBEqTooltipSettings.beq, Bool.and_eq_true, beq_iff_eq] at h
    obtain ⟨htrigger, hformatter, hpointer⟩ := h
    cases a
    cases b
    simp_all
  rfl {a} := by
    change instBEqTooltipSettings.beq a a = true
    simp only [instBEqTooltipSettings.beq, beq_self_eq_true, Bool.and_self]

theorem BarProps.beq_iff {a b : BarProps} :
    (a == b) = true ↔ a.horizontal = b.horizontal ∧ (a.maxWidth == b.maxWidth) = true ∧
      (a.borderRadius == b.borderRadius) = true ∧ a.showValues = b.showValues ∧
      a.gradient = b.gradient := by
  change instBEqBarProps.beq a b = true ↔ _
  simp only [instBEqBarProps.beq, Bool.and_eq_true, beq_iff_eq]

theorem AreaProps.beq_iff {a b : AreaProps} :
    (a == b) = true ↔ (a.opacity == b.opacity) = true ∧ a.gradient = b.gradient := by
  change instBEqAreaProps.beq a b = true ↔ _
  simp only [instBEqAreaProps.beq, Bool.and_eq_true, beq_iff_eq]

theorem PieProps.beq_iff {a b : PieProps} :
    (a == b) = true ↔ (a.innerRadius == b.innerRadius) = true ∧
      (a.outerRadius == b.outerRadius) = true ∧ a.showLabels = b.showLabels ∧
      a.showPercentage = b.showPercentage ∧ a.roseType = b.roseType ∧
      a.centerText = b.centerText ∧ a.centerSubtext = b.centerSubtext := by
  change instBEqPieProps.beq a b = true ↔ _
  simp only [instBEqPieProps.beq, Bool.and_eq_true, beq_iff_eq]

theorem RadarProps.beq_iff {a b : RadarProps} :
    (a == b) = true ↔ (a.maxValue == b.maxValue) = true ∧ a.shape = b.shape ∧
      (a.fillOpacity == b.fillOpacity) = true := by
  change instBEqRadarProps.beq a b = true ↔ _
  simp only [instBEqRadarProps.beq, Bool.and_eq_true, beq_iff_eq]

theorem ScatterProps.beq_iff {a b : ScatterProps} :
    (a == b) = true ↔ (a.symbolSize == b.symbolSize) = true := by
  change instBEqScatterProps.beq a b = true ↔ _
  simp only [instBEqScatterProps.beq]

theorem Zone.beq_iff {a b : Zone} :
    (a == b) = true ↔ (a.upTo == b.upTo) = true ∧ a.color = b.color := by
  change instBEqZone.beq a b = true ↔ _
  simp only [instBEqZone.beq, Bool.and_eq_true, beq_iff_eq]

theorem GaugeProps.beq_iff {a b : GaugeProps} :
    (a == b) = true ↔ (a.value == b.value) = true ∧ (a.min == b.min) = true ∧
      (a.max == b.max) = true ∧ a.unit = b.unit ∧ a.name = b.name ∧ (a.zones == b.zones) = true ∧
      a.color = b.color ∧ a.formatter = b.formatter ∧ a.splitNumber = b.splitNumber ∧
      (a.startAngle == b.startAngle) = true ∧ (a.endAngle == b.endAngle) = true ∧
      (a.arcWidth == b.arcWidth) = true ∧ a.showPointer = b.showPointer ∧
      a.showProgress = b.showProgress := by
  change instBEqGaugeProps.beq a b = true ↔ _
  simp only [instBEqGaugeProps.beq, Bool.and_eq_true, beq_iff_eq]

/-! ## All properties -/

theorem Props.beq_iff {p q : Props} :
    (p == q) = true ↔ p.theme = q.theme ∧ p.scheme = q.scheme ∧ p.colors = q.colors ∧
      p.target = q.target ∧ p.showLegend = q.showLegend ∧ p.legendPosition = q.legendPosition ∧
      (p.grid == q.grid) = true ∧ p.tooltip = q.tooltip ∧ p.showGridLines = q.showGridLines ∧
      p.xAxisLabel = q.xAxisLabel ∧ p.yAxisLabel = q.yAxisLabel ∧ p.animation = q.animation ∧ p.dataZoom = q.dataZoom ∧
      p.stacked = q.stacked ∧ p.smooth = q.smooth ∧ p.showPoints = q.showPoints ∧
      (p.width == q.width) = true ∧ (p.height == q.height) = true ∧ p.emptyText = q.emptyText ∧
      (p.bar == q.bar) = true ∧ (p.area == q.area) = true ∧ (p.pie == q.pie) = true ∧
      (p.radar == q.radar) = true ∧ (p.scatter == q.scatter) = true ∧
      (p.gauge == q.gauge) = true ∧ (p.extensions == q.extensions) = true := by
  change instBEqProps.beq p q = true ↔ _
  simp only [instBEqProps.beq, Bool.and_eq_true, beq_iff_eq]

end Charting
