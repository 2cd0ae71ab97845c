import Charting.Proofs.Outcome
import Charting.Proofs.Rounding.Order
import Charting.Proofs.Validation
import Mathlib.Data.List.Forall2

/-! # The scale of radar charts

All spokes of a radar chart end at the same value, and a renderer can draw nothing against a scale
that ends at zero, below it or nowhere.  The value that is asked for is taken if it can be used;
otherwise it is the largest sample that is a finite number, if that can be used, and else one.

`Compile.EndsSpokes` says what the value has to do with the samples, without a word on how it is
found, and there is only one such value (`Compile.EndsSpokes.unique`).  As this mentions no order
among the samples, none has an influence on the value (`Compile.indicatorMax_eq_of_reorders`).
-/
namespace Charting

open Number

/-! ## The largest sample -/

/-- A number of the list that no number of the list is above. -/
structure IsLargest (xs : List Binary64) (max : Binary64) : Prop where
  mem : max ∈ xs
  le : ∀ x ∈ xs, x ≤ max

namespace Data

/-- The samples that are finite numbers. -/
def finiteSamples (d : Data) : List Binary64 := d.samples.filter Binary64.isFinite

theorem mem_finiteSamples {d : Data} {x : Binary64} :
    x ∈ d.finiteSamples ↔ x ∈ d.samples ∧ x.isFinite = true := List.mem_filter

theorem isNaN_of_mem_finiteSamples {d : Data} {x : Binary64} (h : x ∈ d.finiteSamples) :
    x.isNaN = false := Binary64.isNaN_eq_false_of_isFinite (mem_finiteSamples.mp h).2

/-- One more number leaves the best one so far or takes its place, and is not above what is best
then. -/
theorem isLargest_larger {seen : List Binary64} {best x : Binary64} (h : IsLargest seen best)
    (hbest : best.isNaN = false) (hx : x.isNaN = false) :
    ∃ next, larger (some best) x = some next ∧ IsLargest (seen ++ [x]) next := by
  by_cases hle : best ≤ x
  · refine ⟨x, if_pos hle, List.mem_append_right _ (List.mem_singleton_self x), ?_⟩
    intro y hy
    rcases List.mem_append.mp hy with hy | hy
    · exact Binary64.le_trans (h.le y hy) hle
    · obtain rfl := List.mem_singleton.mp hy
      exact Binary64.le_refl hx
  · refine ⟨best, if_neg hle, List.mem_append_left _ h.mem, ?_⟩
    intro y hy
    rcases List.mem_append.mp hy with hy | hy
    · exact h.le y hy
    · obtain rfl := List.mem_singleton.mp hy
      exact Binary64.le_of_not_le hbest hx hle

/-- Going on through numbers keeps the largest one of all that have been seen. -/
theorem isLargest_foldl {seen xs : List Binary64} {best : Binary64} (h : IsLargest seen best)
    (hnumbers : ∀ x ∈ seen ++ xs, x.isNaN = false) :
    ∃ max, xs.foldl larger (some best) = some max ∧ IsLargest (seen ++ xs) max := by
  -- on what is still to come, for whatever has been seen: each step moves one number over
  induction xs generalizing seen best with
  | nil => exact ⟨best, rfl, by rwa [List.append_nil]⟩
  | cons x xs ih =>
    have hbest : best.isNaN = false := hnumbers best (List.mem_append_left _ h.mem)
    have hx : x.isNaN = false := hnumbers x (List.mem_append_right _ List.mem_cons_self)
    obtain ⟨next, hnext, hlargest⟩ := isLargest_larger h hbest hx
    have happend : seen ++ x :: xs = (seen ++ [x]) ++ xs := by simp
    rw [List.foldl_cons, hnext, happend]
    exact ih hlargest (happend ▸ hnumbers)

/-- The largest sample is found, if there is any finite one. -/
theorem maxValue_cases (d : Data) :
    (∃ max, d.maxValue = some max ∧ IsLargest d.finiteSamples max) ∨
      d.maxValue = none ∧ d.finiteSamples = [] := by
  have hfold : d.maxValue = d.finiteSamples.foldl larger none := rfl
  have hnumbers : ∀ x ∈ d.finiteSamples, x.isNaN = false := fun _ => isNaN_of_mem_finiteSamples
  rw [hfold]
  cases hsamples : d.finiteSamples with
  | nil => exact .inr ⟨rfl, rfl⟩
  | cons x xs =>
    rw [hsamples] at hnumbers
    have hfirst : IsLargest [x] x := by
      refine ⟨List.mem_singleton_self x, ?_⟩
      intro y hy
      obtain rfl := List.mem_singleton.mp hy
      exact Binary64.le_refl (hnumbers y List.mem_cons_self)
    exact .inl (isLargest_foldl hfirst hnumbers)

/-- The same samples, put in another order within their datasets and from dataset to dataset. -/
def Reorders (d other : Data) : Prop :=
  ∃ datasets : List Dataset, datasets.Perm d.datasets ∧
    List.Forall₂ (fun a b => a.data.Perm b.data) datasets other.datasets

theorem mem_flatMap_data_iff {as bs : List Dataset} (x : Binary64)
    (h : List.Forall₂ (fun a b : Dataset => a.data.Perm b.data) as bs) :
    x ∈ as.flatMap (·.data) ↔ x ∈ bs.flatMap (·.data) := by
  induction h with
  | nil => exact Iff.rfl
  | cons hab _ ih => simp only [List.flatMap_cons, List.mem_append, hab.mem_iff, ih]

theorem Reorders.mem_samples_iff {d other : Data} (h : d.Reorders other) (x : Binary64) :
    x ∈ d.samples ↔ x ∈ other.samples := by
  obtain ⟨datasets, hperm, hdata⟩ := h
  exact (hperm.symm.flatMap_right _).mem_iff.trans (mem_flatMap_data_iff x hdata)

end Data

namespace Compile

/-! ## The end of the spokes -/

/-- A value is asked for, and a scale can end there. -/
def AsksFor (asked : Option Binary64) (a : Binary64) : Prop :=
  asked = some a ∧ a.isFinite = true ∧ 0 < a

/-- What the end of a scale has to do with the samples that it is made for. -/
structure FitsSamples (d : Data) (max : Binary64) : Prop where
  /-- No sample sticks out of the chart. -/
  covers : ∀ x ∈ d.finiteSamples, x ≤ max
  source : max ∈ d.samples ∨ max = 1
  /-- One is there for want of a positive sample, unless it is the largest one. -/
  one : max = 1 → (∀ x ∈ d.finiteSamples, ¬0 < x) ∨ IsLargest d.finiteSamples 1

/-- What the value at the end of the spokes has to do with what is asked for and with the
samples. -/
structure EndsSpokes (d : Data) (asked : Option Binary64) (max : Binary64) : Prop where
  finite : max.isFinite = true
  positive : 0 < max
  granted : ∀ a, AsksFor asked a → max = a
  fits : (¬∃ a, AsksFor asked a) → FitsSamples d max

section

variable {d : Data} {asked : Option Binary64}

theorem filter_isPositive_eq_some_iff {a : Binary64} :
    asked.filter Props.isPositive = some a ↔ AsksFor asked a := by
  rw [Option.filter_eq_some_iff, Props.isPositive_iff]
  exact Iff.rfl

theorem indicatorMax_of_asksFor {a : Binary64} (h : AsksFor asked a) : indicatorMax d asked = a := by
  rw [indicatorMax, filter_isPositive_eq_some_iff.mpr h]

theorem indicatorMax_of_not_asksFor (h : ¬∃ a, AsksFor asked a) :
    indicatorMax d asked = (d.maxValue.filter fun max => decide (0 < max)).getD 1 := by
  have hnone : asked.filter Props.isPositive = none := by
    rw [Option.eq_none_iff_forall_ne_some]
    exact fun a ha => h ⟨a, filter_isPositive_eq_some_iff.mp ha⟩
  rw [indicatorMax, hnone]

/-- A largest sample above zero is the end of a scale. -/
theorem fitsSamples_of_isLargest {max : Binary64} (h : IsLargest d.finiteSamples max) :
    FitsSamples d max := by
  refine ⟨h.le, .inl (Data.mem_finiteSamples.mp h.mem).1, ?_⟩
  intro hone
  exact .inr (hone ▸ h)

/-- Without a sample above zero one is. -/
theorem fitsSamples_one (h : ∀ x ∈ d.finiteSamples, ¬0 < x) : FitsSamples d 1 := by
  refine ⟨?_, .inr rfl, fun _ => .inl h⟩
  intro x hx
  have hzero := Binary64.isNaN_eq_false_of_isFinite Binary64.isFinite_zero
  have hle := Binary64.le_of_not_lt hzero (Data.isNaN_of_mem_finiteSamples hx) (h x hx)
  exact Binary64.le_trans hle Binary64.zero_le_one

theorem endsSpokes_indicatorMax (d : Data) (asked : Option Binary64) :
    EndsSpokes d asked (indicatorMax d asked) := by
  by_cases hasks : ∃ a, AsksFor asked a
  · obtain ⟨a, ha⟩ := hasks
    rw [indicatorMax_of_asksFor ha]
    refine ⟨ha.2.1, ha.2.2, ?_, absurd ⟨a, ha⟩⟩
    intro b hb
    exact Option.some.inj (ha.1.symm.trans hb.1)
  · rw [indicatorMax_of_not_asksFor hasks]
    have hgranted (max : Binary64) : ∀ a, AsksFor asked a → max = a :=
      fun a ha => absurd ⟨a, ha⟩ hasks
    have hone (h : ∀ x ∈ d.finiteSamples, ¬0 < x) : EndsSpokes d asked 1 :=
      ⟨Binary64.isFinite_one, Binary64.ofNat_pos Nat.one_pos, hgranted 1, fun _ => fitsSamples_one h⟩
    rcases d.maxValue_cases with ⟨max, hmax, h⟩ | ⟨hmax, hempty⟩
    · rw [hmax]
      by_cases hpos : 0 < max
      · have hfound : (some max).filter (fun max => decide (0 < max)) = some max :=
          Option.filter_some_pos (decide_eq_true hpos)
        rw [hfound, Option.getD_some]
        exact ⟨(Data.mem_finiteSamples.mp h.mem).2, hpos, hgranted max,
          fun _ => fitsSamples_of_isLargest h⟩
      · have hskipped : (some max).filter (fun max => decide (0 < max)) = none :=
          Option.filter_some_neg (decide_eq_false hpos)
        rw [hskipped, Option.getD_none]
        exact hone fun x hx hxpos => hpos (Binary64.lt_of_lt_of_le hxpos (h.le x hx))
    · rw [hmax, Option.filter_none, Option.getD_none]
      exact hone fun x hx => absurd hx (hempty ▸ List.not_mem_nil)

/-- A positive end of a scale is a sample as soon as there is a positive one. -/
theorem FitsSamples.mem_finiteSamples {max x : Binary64} (h : FitsSamples d max)
    (hfinite : max.isFinite = true) (hx : x ∈ d.finiteSamples) (hpos : 0 < x) :
    max ∈ d.finiteSamples := by
  rcases h.source with hmem | hmax
  · exact Data.mem_finiteSamples.mpr ⟨hmem, hfinite⟩
  · rcases h.one hmax with hnone | hone
    · exact absurd hpos (hnone x hx)
    · exact hmax ▸ hone.mem

/-- The value is determined by what it has to do with the samples. -/
theorem EndsSpokes.unique {max other : Binary64} (h : EndsSpokes d asked max)
    (hother : EndsSpokes d asked other) : max = other := by
  by_cases hasks : ∃ a, AsksFor asked a
  · obtain ⟨a, ha⟩ := hasks
    rw [h.granted a ha, hother.granted a ha]
  · have hfits := h.fits hasks
    have hfits' := hother.fits hasks
    -- beside a positive sample both are samples and cover each other; without one both are one
    by_cases hsome : ∃ x ∈ d.finiteSamples, 0 < x
    · obtain ⟨x, hx, hpos⟩ := hsome
      have hmem := hfits.mem_finiteSamples h.finite hx hpos
      have hmem' := hfits'.mem_finiteSamples hother.finite hx hpos
      exact Binary64.eq_of_le_of_le h.finite hother.finite h.positive hother.positive
        (hfits'.covers max hmem) (hfits.covers other hmem')
    · have hone {max : Binary64} (hends : EndsSpokes d asked max) : max = 1 := by
        rcases (hends.fits hasks).source with hmem | hmax
        · exact absurd ⟨max, Data.mem_finiteSamples.mpr ⟨hmem, hends.finite⟩, hends.positive⟩ hsome
        · exact hmax
      rw [hone h, hone hother]

/-- Only which samples there are matters. -/
theorem EndsSpokes.of_mem_iff {other : Data} {max : Binary64}
    (hmem : ∀ x, x ∈ d.samples ↔ x ∈ other.samples) (h : EndsSpokes d asked max) :
    EndsSpokes other asked max := by
  have hfinite (x : Binary64) : x ∈ d.finiteSamples ↔ x ∈ other.finiteSamples := by
    rw [Data.mem_finiteSamples, Data.mem_finiteSamples, hmem]
  refine ⟨h.finite, h.positive, h.granted, fun hasks => ?_⟩
  have hfits := h.fits hasks
  refine ⟨fun x hx => hfits.covers x ((hfinite x).mpr hx), ?_, fun hmax => ?_⟩
  · exact hfits.source.imp_left (hmem max).mp
  · rcases hfits.one hmax with hnone | hone
    · exact .inl fun x hx => hnone x ((hfinite x).mpr hx)
    · exact .inr ⟨(hfinite 1).mp hone.mem, fun x hx => hone.le x ((hfinite x).mpr hx)⟩

theorem indicatorMax_eq_of_reorders {other : Data} (h : d.Reorders other)
    (asked : Option Binary64) : indicatorMax other asked = indicatorMax d asked :=
  (endsSpokes_indicatorMax other asked).unique
    ((endsSpokes_indicatorMax d asked).of_mem_iff h.mem_samples_iff)

end

end Compile

/-- **The scale of a radar chart always fits.**  It ends at a positive number: the one that is asked
for, if that can be used, and else the largest sample, with one standing in where no sample is
positive.  There is only one such number, it does not depend on the order of datasets or samples,
and in a compiled chart all spokes, one for each label in order, end there. -/
theorem compile_radar_scale (d : Data) (asked : Option Binary64) :
    (∀ max, Compile.indicatorMax d asked = max ↔ Compile.EndsSpokes d asked max) ∧
    (∀ other, d.Reorders other → Compile.indicatorMax other asked = Compile.indicatorMax d asked) ∧
    ∀ p o, compile .radar (some d) p = .ok (some o) →
      o.radar.map (·.indicators) =
        some (d.labels.map fun label => ⟨label, Compile.indicatorMax d p.radar.maxValue⟩) := by
  have hends := Compile.endsSpokes_indicatorMax d asked
  refine ⟨?_, fun other h => Compile.indicatorMax_eq_of_reorders h asked, ?_⟩
  · intro max
    constructor
    · rintro rfl
      exact hends
    · exact hends.unique
  · intro p o h
    obtain ⟨-, hcompiled⟩ := compile_eq_some_iff.mp h
    obtain ⟨d, hdata, -, rfl⟩ := hcompiled.exists_eq_radar
    cases hdata
    rfl

/-- Two rows of samples, of which some are no numbers to measure by. -/
def unevenRows : Data :=
  ⟨["speed", "range"], [{ label := "old", data := [.nan, -3, 7.5] },
    { label := "new", data := [.infinite false, 2] }]⟩

/-- The rows the other way round, and their samples too. -/
def turnedRows : Data :=
  ⟨["speed", "range"], [{ label := "new", data := [2, .infinite false] },
    { label := "old", data := [7.5, -3, .nan] }]⟩

theorem compile_radar_scale_unevenRows :
    Compile.EndsSpokes unevenRows none 7.5 ∧ unevenRows.Reorders turnedRows ∧
      Compile.indicatorMax turnedRows none = 7.5 ∧
      ∃ o, compile .radar (some unevenRows) {} = .ok (some o) ∧
        o.radar.map (·.indicators) = some [⟨"speed", 7.5⟩, ⟨"range", 7.5⟩] := by
  obtain ⟨hends, hreorders, hcompiled⟩ := compile_radar_scale unevenRows none
  have hmax : Compile.indicatorMax unevenRows none = 7.5 := by decide +kernel
  have hturned : unevenRows.Reorders turnedRows :=
    ⟨_, .swap _ _ _, .cons (.swap _ _ _) (.cons (List.reverse_perm _).symm .nil)⟩
  have hvalid := Props.validate_eq_ok_iff.mpr Props.isValid_default
  have h := compile_eq_some_iff.mpr ⟨hvalid, (.radar rfl : Compiled {} .radar (some unevenRows) _)⟩
  refine ⟨(hends _).mp hmax, hturned, (hreorders _ hturned).trans hmax, _, h, ?_⟩
  rw [hcompiled {} _ h]
  change some [_, _] = _
  rw [hmax]

end Charting
