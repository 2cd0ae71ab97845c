import Charting.Props.Validation

/-! # Properties that pass their checks

The checks of properties come in an order, which decides the fault that is reported.  Whether
there is a fault at all does not depend on it: `IsValid` lists the conditions, and properties
are accepted exactly when all of them hold.
-/
namespace Charting.Props

/-- What the checks of a gauge ask for. -/
structure IsValidGauge (g : GaugeProps) : Prop where
  bounds : (g.min.isFinite && g.max.isFinite && decide (g.min < g.max)) = true
  splitNumber : (g.splitNumber != 0) = true
  arcWidth : isPositive g.arcWidth = true
  zones : (g.zones.all fun z => z.upTo.isFinite) = true
  color : ifGiven g.color hasColors = true

/-- What the checks of properties ask for. -/
structure IsValid (p : Props) : Prop where
  colors : (ifGiven p.colors fun colors => !colors.isEmpty) = true
  areaOpacity : ifGiven p.area.opacity isOpacity = true
  radarOpacity : ifGiven p.radar.fillOpacity isOpacity = true
  barMaxWidth : ifGiven p.bar.maxWidth isPositive = true
  barBorderRadius : (p.bar.borderRadius.isFinite && decide (0 ≤ p.bar.borderRadius)) = true
  radarMaxValue : ifGiven p.radar.maxValue isPositive = true
  scatterSymbolSize : ifGiven p.scatter.symbolSize isPositive = true
  extensions : ∀ key ∈ p.extensions.entries.map (·.1), key ∉ ChartOption.keys
  gauge : IsValidGauge p.gauge

/-! ## The checks of one property -/

theorem isPositive_iff {x : Number.Binary64} :
    isPositive x = true ↔ x.isFinite = true ∧ 0 < x := by
  rw [isPositive, Bool.and_eq_true, decide_eq_true_iff]

theorem isOpacity_iff {x : Number.Binary64} :
    isOpacity x = true ↔ (x.isFinite = true ∧ 0 < x) ∧ x ≤ 1 := by
  rw [isOpacity, Bool.and_eq_true, decide_eq_true_iff, isPositive_iff]

theorem ifGiven_some {α : Type} {asked : Option α} {holds : α → Bool} {x : α}
    (h : ifGiven asked holds = true) (hasked : asked = some x) : holds x = true := by
  rw [hasked] at h
  exact h

/-- A list of colours that passed its check has one. -/
theorem colors_ne_nil_of_ifGiven {coloring : Option Coloring} {colors : List String}
    (h : ifGiven coloring hasColors = true) (hcolors : coloring = some (.each colors)) :
    colors ≠ [] := by
  rintro rfl
  exact Bool.noConfusion (ifGiven_some h hcolors)

/-! ## All checks -/

@[simp] theorem require_eq_none_iff {holds : Bool} {fault : Fault} :
    require holds fault = none ↔ holds = true := by
  cases holds <;> simp [require]

theorem gaugeFaults_eq_none_iff {g : GaugeProps} :
    (∀ fault ∈ gaugeFaults g, fault = none) ↔ IsValidGauge g := by
  simp only [gaugeFaults, List.forall_mem_cons, require_eq_none_iff, List.not_mem_nil,
    false_implies, implies_true, and_true]
  exact ⟨fun ⟨h₁, h₂, h₃, h₄, h₅⟩ => ⟨h₁, h₂, h₃, h₄, h₅⟩,
    fun h => ⟨h.bounds, h.splitNumber, h.arcWidth, h.zones, h.color⟩⟩

theorem reservedKey?_eq_none_iff {e : Extensions} :
    reservedKey? e = none ↔ ∀ key ∈ e.entries.map (·.1), key ∉ ChartOption.keys := by
  simp [reservedKey?, List.find?_eq_none]

theorem faults_eq_none_iff {p : Props} : (∀ fault ∈ p.faults, fault = none) ↔ IsValid p := by
  simp only [faults, List.forall_mem_append, gaugeFaults_eq_none_iff, List.forall_mem_cons,
    require_eq_none_iff, Option.map_eq_none_iff, reservedKey?_eq_none_iff, List.not_mem_nil,
    false_implies, implies_true, and_true]
  exact ⟨fun ⟨⟨h₁, h₂, h₃, h₄, h₅, h₆, h₇, h₈⟩, h₉⟩ => ⟨h₁, h₂, h₃, h₄, h₅, h₆, h₇, h₈, h₉⟩,
    fun h => ⟨⟨h.colors, h.areaOpacity, h.radarOpacity, h.barMaxWidth, h.barBorderRadius,
      h.radarMaxValue, h.scatterSymbolSize, h.extensions⟩, h.gauge⟩⟩

instance (p : Props) : Decidable (IsValid p) := decidable_of_iff _ faults_eq_none_iff

/-- **Properties are accepted exactly when every check holds.** -/
theorem validate_eq_ok_iff {p : Props} : p.validate = .ok () ↔ IsValid p := by
  have hfirst : p.validate = .ok () ↔ p.faults.findSome? id = none := by
    unfold validate
    cases p.faults.findSome? id <;> simp
  rw [hfirst, List.findSome?_eq_none_iff]
  exact faults_eq_none_iff

/-- The default of every property passes its own check. -/
theorem isValid_default : IsValid {} := by decide +kernel

end Charting.Props
