import Charting.Controller
import Charting.Proofs.Equality
import Charting.Proofs.ZeroSign.Json
import Mathlib.Data.List.Nodup
import Mathlib.Data.List.Perm.Subperm

/-! # Inputs up to the sign of zeros

`unsignZeros` takes the sign from the zeros among the samples and attributes of data and among
the properties of a chart.  Inputs that give no reason to compile again become the same
(`Inputs.unsignZeros_eq_of_unchanged`): every comparison of theirs, of samples, of numbers and
of lengths, is the comparison of the standard, which sees everything else.

Extensions are compared as a set, so they are left out here.  Equal ones have the same members
up to the sign of zeros, in some order (`Extensions.perm_of_beq`).
-/
namespace Charting

open Number

/-! ## Optional values and lists -/

section

variable {α β : Type} {f : α → β}

theorem optionMap_eq_of_beq [BEq α] {x y : Option α} (h : (x == y) = true)
    (hf : ∀ a b, (a == b) = true → f a = f b) : x.map f = y.map f := by
  cases x with
  | none =>
    cases y with
    | none => rfl
    | some => cases h
  | some a =>
    cases y with
    | none => cases h
    | some b => exact congrArg some (hf a b h)

theorem listMap_eq_of_beq [BEq α] {as bs : List α} (h : (as == bs) = true)
    (hf : ∀ a b, (a == b) = true → f a = f b) : as.map f = bs.map f := by
  induction as generalizing bs with
  | nil =>
    cases bs with
    | nil => rfl
    | cons => cases h
  | cons a as ih =>
    cases bs with
    | nil => cases h
    | cons b bs =>
      rw [List.cons_beq_cons, Bool.and_eq_true] at h
      rw [List.map_cons, List.map_cons, hf a b h.1, ih h.2]

theorem Dataset.allSame_iff_map_eq {same : α → α → Bool} {as bs : List α}
    (h : ∀ a b, same a b = true ↔ f a = f b) :
    allSame same as bs = true ↔ as.map f = bs.map f := by
  induction as generalizing bs with
  | nil => cases bs <;> simp [allSame]
  | cons a as ih => cases bs <;> simp [allSame, h, ih]

end

/-! ## Data -/

namespace Dataset

/-- The dataset with no sign on any zero. -/
def unsignZeros (d : Dataset) : Dataset :=
  { d with
    data := d.data.map Binary64.unsignZero
    borderWidth := d.borderWidth.map Binary64.unsignZero }

theorem sameWidth_iff_map_eq {a b : Option Binary64} :
    sameWidth a b = true ↔ a.map Binary64.unsignZero = b.map Binary64.unsignZero := by
  cases a with
  | none => cases b <;> simp [sameWidth]
  | some a => cases b <;> simp [sameWidth, Binary64.sameAs_iff_unsignZero_eq]

theorem sameAs_iff {a b : Dataset} :
    a.sameAs b = true ↔ a.label = b.label ∧ a.kind = b.kind ∧ a.color = b.color ∧
      a.borderColor = b.borderColor ∧ a.backgroundColor = b.backgroundColor ∧
      sameWidth a.borderWidth b.borderWidth = true ∧ a.fill = b.fill ∧ a.smooth = b.smooth ∧
      allSame Binary64.sameAs a.data b.data = true := by
  simp only [sameAs, Bool.and_eq_true, beq_iff_eq, and_assoc]

theorem sameAs_iff_unsignZeros_eq {a b : Dataset} :
    a.sameAs b = true ↔ a.unsignZeros = b.unsignZeros := by
  have hdata : allSame Binary64.sameAs a.data b.data = true ↔
      a.data.map Binary64.unsignZero = b.data.map Binary64.unsignZero :=
    allSame_iff_map_eq fun _ _ => Binary64.sameAs_iff_unsignZero_eq
  simp only [sameAs_iff, sameWidth_iff_map_eq, hdata, unsignZeros, mk.injEq]
  tauto

end Dataset

namespace Data

/-- The data with no sign on any zero. -/
def unsignZeros (d : Data) : Data := { d with datasets := d.datasets.map Dataset.unsignZeros }

theorem sameAs_iff {a b : Data} :
    a.sameAs b = true ↔
      a.labels = b.labels ∧ Dataset.allSame Dataset.sameAs a.datasets b.datasets = true := by
  rw [sameAs, Bool.and_eq_true, beq_iff_eq]

/-- Data are the same if nothing but the signs of zeros tells them apart. -/
theorem sameAs_iff_unsignZeros_eq {a b : Data} :
    a.sameAs b = true ↔ a.unsignZeros = b.unsignZeros := by
  have hdatasets : Dataset.allSame Dataset.sameAs a.datasets b.datasets = true ↔
      a.datasets.map Dataset.unsignZeros = b.datasets.map Dataset.unsignZeros :=
    Dataset.allSame_iff_map_eq fun _ _ => Dataset.sameAs_iff_unsignZeros_eq
  rw [sameAs_iff, hdatasets, unsignZeros, unsignZeros, mk.injEq]

end Data

/-! ## Properties -/

theorem Dimension.unsignZero_eq_of_beq {a b : Dimension} (h : (a == b) = true) :
    a.unsignZero = b.unsignZero := by
  cases a with
  | px a =>
    cases b with
    | px b => exact congrArg px (Binary64.unsignZero_eq_of_beq h)
    | percent => cases h
  | percent a =>
    cases b with
    | px => cases h
    | percent b => exact congrArg percent (Binary64.unsignZero_eq_of_beq h)

namespace Switch

variable {α β : Type}

/-- The part with its settings changed. -/
def map (f : α → β) : Switch α → Switch β
  | off => off
  | on => on
  | custom settings => custom (f settings)

theorem map_eq_of_beq [BEq α] {f : α → β} {x y : Switch α} (h : (x == y) = true)
    (hf : ∀ a b, (a == b) = true → f a = f b) : x.map f = y.map f := by
  cases x with
  | off =>
    cases y with
    | off => rfl
    | on | custom => cases h
  | on =>
    cases y with
    | on => rfl
    | off | custom => cases h
  | custom a =>
    cases y with
    | custom b => exact congrArg custom (hf a b h)
    | off | on => cases h

end Switch

section

variable {x y : Option Binary64} {l m : Option Dimension}

theorem map_unsignZero_eq_of_beq (h : (x == y) = true) :
    x.map Binary64.unsignZero = y.map Binary64.unsignZero :=
  optionMap_eq_of_beq h (fun _ _ => Binary64.unsignZero_eq_of_beq)

theorem Dimension.map_unsignZero_eq_of_beq (h : (l == m) = true) :
    l.map Dimension.unsignZero = m.map Dimension.unsignZero :=
  optionMap_eq_of_beq h (fun _ _ => Dimension.unsignZero_eq_of_beq)

end

/-- The settings with no sign on any zero. -/
def GridSettings.unsignZeros (s : GridSettings) : GridSettings :=
  { s with
    left := s.left.map Dimension.unsignZero
    right := s.right.map Dimension.unsignZero
    top := s.top.map Dimension.unsignZero
    bottom := s.bottom.map Dimension.unsignZero }

theorem GridSettings.unsignZeros_eq_of_beq {a b : GridSettings} (h : (a == b) = true) :
    a.unsignZeros = b.unsignZeros := by
  obtain ⟨hleft, hright, htop, hbottom, hlabel⟩ := GridSettings.beq_iff.mp h
  simp only [unsignZeros, Dimension.map_unsignZero_eq_of_beq hleft,
    Dimension.map_unsignZero_eq_of_beq hright, Dimension.map_unsignZero_eq_of_beq htop,
    Dimension.map_unsignZero_eq_of_beq hbottom, hlabel]

/-- The properties with no sign on any zero. -/
def BarProps.unsignZeros (b : BarProps) : BarProps :=
  { b with
    maxWidth := b.maxWidth.map Binary64.unsignZero
    borderRadius := b.borderRadius.unsignZero }

theorem BarProps.unsignZeros_eq_of_beq {a b : BarProps} (h : (a == b) = true) :
    a.unsignZeros = b.unsignZeros := by
  obtain ⟨hhorizontal, hwidth, hradius, hvalues, hgradient⟩ := BarProps.beq_iff.mp h
  simp only [unsignZeros, map_unsignZero_eq_of_beq hwidth, Binary64.unsignZero_eq_of_beq hradius,
    hhorizontal, hvalues, hgradient]

/-- The properties with no sign on any zero. -/
def AreaProps.unsignZeros (a : AreaProps) : AreaProps :=
  { a with opacity := a.opacity.map Binary64.unsignZero }

theorem AreaProps.unsignZeros_eq_of_beq {a b : AreaProps} (h : (a == b) = true) :
    a.unsignZeros = b.unsignZeros := by
  obtain ⟨hopacity, hgradient⟩ := AreaProps.beq_iff.mp h
  simp only [unsignZeros, map_unsignZero_eq_of_beq hopacity, hgradient]

/-- The properties with no sign on any zero. -/
def PieProps.unsignZeros (p : PieProps) : PieProps :=
  { p with
    innerRadius := p.innerRadius.map Dimension.unsignZero
    outerRadius := p.outerRadius.map Dimension.unsignZero }

theorem PieProps.unsignZeros_eq_of_beq {a b : PieProps} (h : (a == b) = true) :
    a.unsignZeros = b.unsignZeros := by
  obtain ⟨hinner, houter, hlabels, hpercentage, hrose, htext, hsubtext⟩ := PieProps.beq_iff.mp h
  simp only [unsignZeros, Dimension.map_unsignZero_eq_of_beq hinner,
    Dimension.map_unsignZero_eq_of_beq houter, hlabels, hpercentage, hrose, htext, hsubtext]

/-- The properties with no sign on any zero. -/
def RadarProps.unsignZeros (r : RadarProps) : RadarProps :=
  { r with
    maxValue := r.maxValue.map Binary64.unsignZero
    fillOpacity := r.fillOpacity.map Binary64.unsignZero }

theorem RadarProps.unsignZeros_eq_of_beq {a b : RadarProps} (h : (a == b) = true) :
    a.unsignZeros = b.unsignZeros := by
  obtain ⟨hmax, hshape, hopacity⟩ := RadarProps.beq_iff.mp h
  simp only [unsignZeros, map_unsignZero_eq_of_beq hmax, map_unsignZero_eq_of_beq hopacity, hshape]

/-- The properties with no sign on any zero. -/
def ScatterProps.unsignZeros (s : ScatterProps) : ScatterProps :=
  { s with symbolSize := s.symbolSize.map Binary64.unsignZero }

theorem ScatterProps.unsignZeros_eq_of_beq {a b : ScatterProps} (h : (a == b) = true) :
    a.unsignZeros = b.unsignZeros := by
  simp only [unsignZeros, map_unsignZero_eq_of_beq (ScatterProps.beq_iff.mp h)]

/-- The zone with no sign on a zero. -/
def Zone.unsignZero (z : Zone) : Zone := { z with upTo := z.upTo.unsignZero }

theorem Zone.unsignZero_eq_of_beq {a b : Zone} (h : (a == b) = true) :
    a.unsignZero = b.unsignZero := by
  obtain ⟨hupTo, hcolor⟩ := Zone.beq_iff.mp h
  simp only [unsignZero, Binary64.unsignZero_eq_of_beq hupTo, hcolor]

/-- The properties with no sign on any zero. -/
def GaugeProps.unsignZeros (g : GaugeProps) : GaugeProps :=
  { g with
    value := g.value.map Binary64.unsignZero
    min := g.min.unsignZero
    max := g.max.unsignZero
    zones := g.zones.map Zone.unsignZero
    startAngle := g.startAngle.unsignZero
    endAngle := g.endAngle.unsignZero
    arcWidth := g.arcWidth.unsignZero }

theorem GaugeProps.unsignZeros_eq_of_beq {a b : GaugeProps} (h : (a == b) = true) :
    a.unsignZeros = b.unsignZeros := by
  obtain ⟨hvalue, hmin, hmax, hunit, hname, hzones, hcolor, hformatter, hsplit, hstart, hend,
    harc, hpointer, hprogress⟩ := GaugeProps.beq_iff.mp h
  simp only [unsignZeros, map_unsignZero_eq_of_beq hvalue, Binary64.unsignZero_eq_of_beq hmin,
    Binary64.unsignZero_eq_of_beq hmax, Binary64.unsignZero_eq_of_beq hstart,
    Binary64.unsignZero_eq_of_beq hend, Binary64.unsignZero_eq_of_beq harc,
    listMap_eq_of_beq hzones (fun _ _ => Zone.unsignZero_eq_of_beq), hunit, hname, hcolor,
    hformatter, hsplit, hpointer, hprogress]

namespace Props

/-- The properties with no sign on any zero, and without extensions. -/
def unsignZeros (p : Props) : Props :=
  { p with
    grid := p.grid.map GridSettings.unsignZeros
    width := p.width.map Dimension.unsignZero
    height := p.height.map Dimension.unsignZero
    bar := p.bar.unsignZeros
    area := p.area.unsignZeros
    pie := p.pie.unsignZeros
    radar := p.radar.unsignZeros
    scatter := p.scatter.unsignZeros
    gauge := p.gauge.unsignZeros
    extensions := {} }

theorem unsignZeros_eq_of_beq {p q : Props} (h : (p == q) = true) :
    p.unsignZeros = q.unsignZeros ∧ (p.extensions == q.extensions) = true := by
  obtain ⟨htheme, hscheme, hcolors, htarget, hlegend, hposition, hgrid, htooltip, hlines, hx, hy,
    hanimation, hzoom, hstacked, hsmooth, hpoints, hwidth, hheight, hempty, hbar, harea, hpie,
    hradar, hscatter, hgauge, hextensions⟩ := Props.beq_iff.mp h
  refine ⟨?_, hextensions⟩
  have hgrid := Switch.map_eq_of_beq hgrid fun _ _ => GridSettings.unsignZeros_eq_of_beq
  simp only [unsignZeros, hgrid,
    Dimension.map_unsignZero_eq_of_beq hwidth, Dimension.map_unsignZero_eq_of_beq hheight,
    BarProps.unsignZeros_eq_of_beq hbar, AreaProps.unsignZeros_eq_of_beq harea,
    PieProps.unsignZeros_eq_of_beq hpie, RadarProps.unsignZeros_eq_of_beq hradar,
    ScatterProps.unsignZeros_eq_of_beq hscatter, GaugeProps.unsignZeros_eq_of_beq hgauge,
    htheme, hscheme, hcolors, htarget, hlegend, hposition, htooltip, hlines, hx, hy, hanimation,
    hzoom, hstacked, hsmooth, hpoints, hempty]

end Props

/-! ## Extensions -/

namespace Extensions

theorem beq_refl (e : Extensions) : (e == e) = true := by
  change (_ && _) = true
  rw [beq_self_eq_true, Bool.true_and, List.all_eq_true]
  intro m hm
  have hfind : e.entries.find? (fun n => n.1 == m.1) = some m := by
    cases hfind : e.entries.find? (fun n => n.1 == m.1) with
    | none => exact absurd (List.find?_eq_none.mp hfind m hm) (by simp)
    | some n =>
      have hkey : n.1 = m.1 := by simpa using List.find?_some hfind
      exact congrArg some
        (List.inj_on_of_nodup_map e.distinct (List.mem_of_find?_eq_some hfind) hm hkey)
  rw [get?, hfind]
  exact Json.same_refl m.2
theorem eq_of_entries {a b : Extensions} (h : a.entries = b.entries) : a = b := by
  cases a
  cases b
  cases h
  rfl

/-- Equal extensions have the same members up to the sign of zeros, in some order. -/
theorem perm_of_beq {a b : Extensions} (h : (a == b) = true) :
    (a.entries.map Json.unsignMember).Perm (b.entries.map Json.unsignMember) := by
  change (_ && _) = true at h
  simp only [Bool.and_eq_true, beq_iff_eq, List.all_eq_true] at h
  obtain ⟨hlength, hfound⟩ := h
  have hnodup : (a.entries.map Json.unsignMember).Nodup := by
    refine List.Nodup.of_map (·.1) ?_
    rw [List.map_map]
    exact a.distinct
  have hsubset : a.entries.map Json.unsignMember ⊆ b.entries.map Json.unsignMember := by
    intro m' hm'
    obtain ⟨m, hm, rfl⟩ := List.mem_map.mp hm'
    have hvalue := hfound m hm
    unfold get? at hvalue
    cases hfind : b.entries.find? (fun n => n.1 == m.1) with
    | none => simp [hfind] at hvalue
    | some n =>
      rw [hfind] at hvalue
      have hkey : n.1 = m.1 := by simpa using List.find?_some hfind
      have hjson : m.2.unsignZeros = n.2.unsignZeros := Json.unsignZeros_eq_of_same _ _ hvalue
      refine List.mem_map.mpr ⟨n, List.mem_of_find?_eq_some hfind, ?_⟩
      rw [Json.unsignMember, Json.unsignMember, hkey, hjson]
  -- Distinct members that are all found among as many others are all of these.
  exact (hnodup.subperm hsubset).perm_of_length_le (by simp [hlength])

/-- Equal extensions have the same keys. -/
theorem mem_keys_iff_of_beq {a b : Extensions} (h : (a == b) = true) (key : String) :
    key ∈ a.entries.map (·.1) ↔ key ∈ b.entries.map (·.1) := by
  have hkeys := ((perm_of_beq h).map (·.1)).mem_iff (a := key)
  rwa [List.map_map, List.map_map] at hkeys

end Extensions

/-! ## All inputs -/

namespace Inputs

theorem map_unsignZeros_eq_of_sameData {a b : Option Data} (h : sameData a b = true) :
    a.map Data.unsignZeros = b.map Data.unsignZeros := by
  cases a with
  | none =>
    cases b with
    | none => rfl
    | some => cases h
  | some a =>
    cases b with
    | none => cases h
    | some b => exact congrArg some (Data.sameAs_iff_unsignZeros_eq.mp h)

/-- **Inputs that give no reason to compile again are the same up to the sign of zeros, the
extensions aside, which are equal as a set.** -/
theorem unsignZeros_eq_of_unchanged {a b : Inputs} (h : a.unchanged b = true) :
    a.family = b.family ∧ a.data.map Data.unsignZeros = b.data.map Data.unsignZeros ∧
      a.props.unsignZeros = b.props.unsignZeros ∧
      (a.props.extensions == b.props.extensions) = true := by
  simp only [unchanged, Bool.and_eq_true, beq_iff_eq] at h
  obtain ⟨⟨hfamily, hdata⟩, hprops⟩ := h
  exact ⟨hfamily, map_unsignZeros_eq_of_sameData hdata, Props.unsignZeros_eq_of_beq hprops⟩

end Inputs

end Charting
