import Charting.Proofs.Finite.Numbers
import Charting.Proofs.Repeats
import Charting.Proofs.RoundTrip.Props
import Charting.Series

/-! # Finite inputs

Some numbers of an option are the same in all options.  Some are properties with a check of their
own, which only finite numbers pass.  The insets of the grid and the radii of pies have no check,
but whatever is read from a text is finite (`Props.IsRead.hasFiniteLengths`).  Together these are
the settings with which series are drawn (`SeriesStyle.isFinite_ofProps`); the rest are samples and
widths of the data.
-/
namespace Charting

open Number

/-! ## Finite inputs -/

/-- The samples of a dataset and its width, if it has one, are finite. -/
structure Dataset.IsFinite (d : Dataset) : Prop where
  samples : AllFinite d.data
  borderWidth : ∀ width ∈ d.borderWidth, width.isFinite = true

def Data.IsFinite (d : Data) : Prop := ∀ s ∈ d.datasets, s.IsFinite

/-- The lengths that charts are laid out with are finite. -/
structure Props.HasFiniteLengths (p : Props) : Prop where
  insets : ∀ l ∈ p.grid.insets, l.number.isFinite = true
  radii : ∀ l ∈ p.pie.radii, l.number.isFinite = true

section Reading

open Charting.Field Charting.Format

variable {depth : Nat}

theorem Format.isFinite_of_optional_takes {l? : Option Dimension}
    (h : dimension.optional.Takes depth l?) : ∀ l ∈ l?.toList, l.number.isFinite = true := by
  intro l hl
  obtain rfl : l? = some l := by simpa using hl
  exact (isReadable_of_takes (takes_of_optional_takes h)).finite

theorem GridSettings.isFinite_of_mem_insets {s : GridSettings}
    (taken : record.format.Takes (depth + 1) s) : ∀ l ∈ s.insets, l.number.isFinite = true := by
  have h := record_lawful.taken_of_format_takes taken_start taken
  simp only [Record.Taken, record, List.forall_mem_cons, always_takes_iff] at h
  obtain ⟨hleft, hright, htop, hbottom, -⟩ := h
  simp only [insets, List.forall_mem_append]
  exact ⟨⟨⟨isFinite_of_optional_takes hleft, isFinite_of_optional_takes hright⟩,
    isFinite_of_optional_takes htop⟩, isFinite_of_optional_takes hbottom⟩

theorem PieProps.isFinite_of_mem_radii {p : PieProps}
    (taken : record.format.Takes (depth + 1) p) : ∀ l ∈ p.radii, l.number.isFinite = true := by
  have h := record_lawful.taken_of_format_takes taken_start taken
  simp only [Record.Taken, record, List.forall_mem_cons, always_takes_iff] at h
  obtain ⟨hinner, houter, -⟩ := h
  exact List.forall_mem_append.mpr
    ⟨isFinite_of_optional_takes hinner, isFinite_of_optional_takes houter⟩

/-- No text has a length that is not finite. -/
theorem Props.IsRead.hasFiniteLengths {p : Props} (h : p.IsRead) : p.HasFiniteLengths := by
  have htaken := record_lawful.taken_of_format_takes taken_start h.taken
  simp only [Record.Taken, record, List.forall_mem_cons, always_takes_iff] at htaken
  obtain ⟨-, -, -, -, -, -, hgrid, -, -, -, -, -, -, -, -, -, -, -, -, -, -, hpie, -⟩ := htaken
  constructor
  case radii => exact PieProps.isFinite_of_mem_radii hpie
  case insets =>
    cases hswitch : p.grid with
    | off | on => simp [Switch.insets]
    | custom s =>
      rw [hswitch] at hgrid
      exact GridSettings.isFinite_of_mem_insets (Switch.takes_of_format_takes hgrid)

end Reading

/-! ## Defaults, bounds and checks -/

theorem Number.Binary64.isFinite_min {x y : Binary64} (hx : x.isFinite = true)
    (hy : y.isFinite = true) : (x.min y).isFinite = true := by
  unfold min
  split
  · exact hy
  · split
    · exact hy
    · exact hx

theorem Number.isFinite_getD {x? : Option Binary64} {default : Binary64}
    (h : ∀ x ∈ x?, x.isFinite = true) (hdefault : default.isFinite = true) :
    (x?.getD default).isFinite = true := by
  cases x? with
  | none => exact hdefault
  | some x => exact h x rfl

theorem Dimension.isFinite_getD {l? : Option Dimension} {default : Dimension}
    (h : ∀ l ∈ l?.toList, l.number.isFinite = true) (hdefault : default.number.isFinite = true) :
    (l?.getD default).number.isFinite = true := by
  cases l? with
  | none => exact hdefault
  | some l => exact h l (Option.mem_toList.mpr rfl)

namespace Props

theorem isFinite_of_isPositive {x : Binary64} (h : isPositive x = true) : x.isFinite = true :=
  (isPositive_iff.mp h).1

theorem isFinite_of_ifGiven {x? : Option Binary64} {holds : Binary64 → Bool}
    (h : ifGiven x? holds = true) (hpositive : ∀ x, holds x = true → isPositive x = true) :
    ∀ x ∈ x?, x.isFinite = true :=
  fun x hx => isFinite_of_isPositive (hpositive x (ifGiven_some h hx))

end Props

/-- The sizes of a target. -/
structure Profile.IsFinite (profile : Profile) : Prop where
  fontSize : profile.fontSize.isFinite = true
  /-- Captions are twice as large as other texts. -/
  captionSize : (profile.fontSize * 2).isFinite = true
  legendFontSize : profile.legendFontSize.isFinite = true
  rotationDegrees : profile.rotationDegrees.isFinite = true
  symbolSize : profile.symbolSize.isFinite = true

theorem Target.isFinite_profile (target : Target) : target.profile.IsFinite := by
  cases target with
  | web | mobile =>
    constructor
    case captionSize => exact Binary64.isFinite_literal_mul (by decide) (by decide) (by decide)
    all_goals exact Binary64.isFinite_literal _ (by decide)

/-! ## Settings of series -/

theorem isFinite_defaultAreaOpacity : defaultAreaOpacity.isFinite = true := by
  unfold defaultAreaOpacity
  exact Binary64.isFinite_ofDecimal false 1 (by decide)

/-- The settings of series hold no number that is not finite; the opacity of areas is checked once
more when it is used. -/
structure SeriesStyle.IsFinite (style : SeriesStyle) : Prop where
  profile : style.context.profile.IsFinite
  barMaxWidth : style.barMaxWidth.isFinite = true
  barBorderRadius : style.barBorderRadius.isFinite = true
  scatterSymbolSize : style.scatterSymbolSize.isFinite = true
  radarFillOpacity : style.radarFillOpacity.isFinite = true
  pieInnerRadius : ∀ l ∈ style.pieInnerRadius, l.number.isFinite = true
  pieOuterRadius : style.pieOuterRadius.number.isFinite = true

theorem SeriesStyle.isFinite_ofProps {p : Props} {ctx : Context} (hctx : ctx.profile.IsFinite)
    (valid : p.IsValid) (hlengths : p.HasFiniteLengths) : (ofProps p ctx).IsFinite := by
  obtain ⟨hinner, houter⟩ := List.forall_mem_append.mp hlengths.radii
  constructor
  case profile => exact hctx
  case barMaxWidth =>
    exact Number.isFinite_getD (Props.isFinite_of_ifGiven valid.barMaxWidth fun _ => id)
      (Binary64.isFinite_literal 40 (by decide))
  case barBorderRadius => exact (Bool.and_eq_true_iff.mp valid.barBorderRadius).1
  case scatterSymbolSize =>
    exact Number.isFinite_getD (Props.isFinite_of_ifGiven valid.scatterSymbolSize fun _ => id)
      (Binary64.isFinite_literal 10 (by decide))
  case radarFillOpacity =>
    exact Number.isFinite_getD
      (Props.isFinite_of_ifGiven valid.radarOpacity Props.isPositive_of_isOpacity)
      isFinite_defaultAreaOpacity
  case pieInnerRadius => exact fun l hl => hinner l (Option.mem_toList.mpr hl)
  case pieOuterRadius =>
    exact Dimension.isFinite_getD houter (Binary64.isFinite_literal 70 (by decide))

/-- Whatever opacity is asked for, the one of areas is finite. -/
theorem SeriesStyle.isFinite_visibleAreaOpacity (style : SeriesStyle) :
    style.visibleAreaOpacity.isFinite = true := by
  unfold visibleAreaOpacity
  split
  · rename_i hvisible
    exact Binary64.isFinite_min (Bool.and_eq_true_iff.mp hvisible).1
      (Binary64.isFinite_literal 1 (by decide))
  · exact isFinite_defaultAreaOpacity

end Charting
