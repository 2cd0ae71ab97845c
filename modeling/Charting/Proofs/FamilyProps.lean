import Charting.Proofs.Outcome
import Charting.Proofs.Validation

/-! # The properties that a family goes by

Properties come in one piece for charts of all families, and what series are drawn with is put
together from all of its groups at once.  A chart nevertheless depends on the groups of its own
family only, and on neither its size nor the text for missing data: whatever the others are, the
option is the same (`Compile.checked_withUnused`).

The checks are another matter.  They look at every group, so a fault in the properties of gauges
stops a pie; only among properties that pass them does a chart not see the rest
(`compile_eq_of_agreeFor`).
-/
namespace Charting

/-- The groups of properties that some families have of their own. -/
inductive PropsGroup where
  | bar
  | area
  | pie
  | radar
  | scatter
  | gauge
  deriving DecidableEq

/-- Whether charts of a family go by a group of properties.  Lines may be filled, and a mixed
chart may have bars. -/
def Family.goesBy : Family → PropsGroup → Bool
  | line, .area | area, .area => true
  | bar, .bar => true
  | mixed, .area | mixed, .bar => true
  | scatter, .scatter => true
  | pie, .pie | donut, .pie => true
  | radar, .radar => true
  | gauge, .gauge => true
  | _, _ => false

namespace Props

/-- The properties with all that charts of a family do not go by taken from other ones. -/
def withUnused (p : Props) (family : Family) (other : Props) : Props :=
  { p with
    width := other.width
    height := other.height
    emptyText := other.emptyText
    bar := if family.goesBy .bar then p.bar else other.bar
    area := if family.goesBy .area then p.area else other.area
    pie := if family.goesBy .pie then p.pie else other.pie
    radar := if family.goesBy .radar then p.radar else other.radar
    scatter := if family.goesBy .scatter then p.scatter else other.scatter
    gauge := if family.goesBy .gauge then p.gauge else other.gauge }

/-- Properties that differ in nothing that charts of a family go by. -/
def AgreeFor (family : Family) (p q : Props) : Prop := p.withUnused family q = q

end Props

/-! ## Options without the rest of the properties -/

variable {family : Family} {p other : Props} {ctx : Context}

theorem Series.ofDataset_withUnused (labels : List String) (index : Nat) (d : Dataset) :
    ofDataset family labels (.ofProps (p.withUnused family other) ctx) index d =
      ofDataset family labels (.ofProps p ctx) index d := by
  cases family with
  | line | bar | area | scatter | radar | pie | donut | gauge => rfl
  | mixed =>
    unfold ofDataset
    cases d.kind.getD .line with
    | line | area | bar => rfl

theorem Series.ofData_withUnused (d : Data) :
    ofData d family (.ofProps (p.withUnused family other) ctx) =
      ofData d family (.ofProps p ctx) := by
  unfold ofData
  congr 1
  funext index source
  exact ofDataset_withUnused d.labels index source

namespace Compile

theorem isHorizontal_withUnused :
    isHorizontal family (p.withUnused family other) = isHorizontal family p := by
  cases family <;> rfl

theorem cartesian_withUnused (d : Data) :
    cartesian family d (p.withUnused family other) ctx = cartesian family d p ctx := by
  simp only [cartesian, plainAxes, isHorizontal_withUnused, Series.ofData_withUnused]
  rfl

theorem pieOf_withUnused (round : family = .pie ∨ family = .donut) (labels : List String)
    (first : Dataset) :
    pieOf family labels first (p.withUnused family other) ctx = pieOf family labels first p ctx := by
  have htitle : centerTitle (p.withUnused family other) ctx = centerTitle p ctx := by
    rcases round with rfl | rfl <;> rfl
  simp only [pieOf, htitle, Series.ofData_withUnused]
  rfl

theorem radar_withUnused (d : Data) :
    radar d (p.withUnused .radar other) ctx = radar d p ctx := by
  simp only [radar, Series.ofData_withUnused]
  rfl

theorem gauge_withUnused : gauge (p.withUnused .gauge other) ctx = gauge p ctx := rfl

theorem plot_withUnused (d : Data) :
    plot family d (p.withUnused family other) ctx = plot family d p ctx := by
  cases family with
  | line | bar | area | scatter | mixed => exact congrArg some (cartesian_withUnused d)
  | pie | donut =>
    simp only [plot, pie]
    split
    · rfl
    · rw [pieOf_withUnused (by simp)]
  | radar => exact congrArg some (radar_withUnused d)
  | gauge => exact congrArg some gauge_withUnused

/-- Nothing that charts of a family do not go by leaves a trace in their options. -/
theorem checked_withUnused (data : Option Data) :
    checked family data (p.withUnused family other) = checked family data p := by
  have hcontext : (p.withUnused family other).context = p.context := rfl
  unfold checked
  split
  · rename_i hgauge
    subst hgauge
    rw [hcontext, gauge_withUnused]
  · cases data with
    | none => rfl
    | some d => simp only [hcontext, plot_withUnused]

end Compile

/-- **Charts go by the properties of their family.**  Properties that pass their checks and agree
on what charts of a family go by lead to the same result, whatever the data. -/
theorem compile_eq_of_agreeFor {p q : Props} (hp : p.validate = .ok ()) (hq : q.validate = .ok ())
    (h : Props.AgreeFor family p q) (data : Option Data) :
    compile family data p = compile family data q := by
  rw [compile, compile, hp, hq]
  refine congrArg Except.ok ?_
  calc
    Compile.checked family data p = Compile.checked family data (p.withUnused family q) :=
      (Compile.checked_withUnused data).symm
    _ = Compile.checked family data q := by rw [h]

/-- A line that is filled, though lines are not. -/
def filledLine : Data := ⟨["q1", "q2"], [{ label := "sold", data := [3, 5], fill := some true }]⟩

/-- Properties that differ from the default ones in every group but that of lines. -/
def otherGroups : Props where
  width := some (.px 320)
  emptyText := "none sold"
  bar := { horizontal := true, gradient := true }
  pie := { roseType := true }
  radar := { fillOpacity := some 1 }
  scatter := { symbolSize := some 3 }
  gauge := { value := some 5, max := 10 }

theorem compile_eq_of_agreeFor_line :
    ({} : Props).validate = .ok () ∧ otherGroups.validate = .ok () ∧
      Props.AgreeFor .line {} otherGroups ∧
      compile .line (some filledLine) {} = compile .line (some filledLine) otherGroups := by
  have hdefault := Props.validate_eq_ok_iff.mpr Props.isValid_default
  have hother : otherGroups.validate = .ok () := Props.validate_eq_ok_iff.mpr (by decide +kernel)
  have hagree : Props.AgreeFor .line {} otherGroups := rfl
  exact ⟨hdefault, hother, hagree, compile_eq_of_agreeFor hdefault hother hagree _⟩

end Charting
