import Charting.Proofs.ZeroSign.Inputs
import Mathlib.Data.List.Forall2

/-! # Data that are the same

Whether a chart has to be compiled again is asked of `Data.sameAs`, a comparison field by field and
slot by slot.  It has to be an equivalence although the comparison of numbers is none: there a NaN
differs from itself.

Taking two NaNs for equal mends this.  What remains unseen is the sign of a zero, so data are the
same if they become equal without such signs (`Data.sameAs_iff_unsignZeros_eq`), and equality of
what becomes of them is an equivalence whatever they are.  The comparison of the standard, `==`,
holds between the same data as long as no NaN is among them, and never otherwise
(`Data.beq_iff_sameAs`).
-/
namespace Charting

open Number

/-! ## Numbers -/

namespace Number.Binary64

variable {x y : Binary64}

/-- Equal as numbers, or both not a number. -/
def Alike (x y : Binary64) : Prop := (x == y) = true ∨ x = nan ∧ y = nan

theorem sameAs_iff_alike : x.sameAs y = true ↔ x.Alike y := by
  rw [sameAs, Bool.or_eq_true, Bool.and_eq_true, isNaN_iff, isNaN_iff, Alike]

/-- The comparison of the standard is false where a NaN takes part. -/
theorem beq_iff_sameAs : (x == y) = true ↔ x.sameAs y = true ∧ x.isNaN = false := by
  rw [sameAs]
  cases x with
  | nan => cases y <;> simp [isNaN] <;> rfl
  | infinite | finite => simp [isNaN]

end Number.Binary64

/-! ## Lists and widths -/

section

variable {α β : Type} {same : α → α → Bool} {as bs : List α}

theorem Dataset.allSame_iff_forall₂ :
    allSame same as bs = true ↔ List.Forall₂ (fun a b => same a b = true) as bs := by
  induction as generalizing bs with
  | nil => cases bs <;> simp [allSame]
  | cons a as ih => cases bs <;> simp [allSame, ih]

theorem Dataset.allSame_iff_get :
    allSame same as bs = true ↔ as.length = bs.length ∧
      ∀ slot (ha : slot < as.length) (hb : slot < bs.length), same as[slot] bs[slot] = true := by
  rw [allSame_iff_forall₂, List.forall₂_iff_get]
  rfl

/-- Lists are equal if they are the same and all items stand up to the comparison. -/
theorem list_beq_iff_allSame [BEq α] {stands : α → Prop}
    (h : ∀ a b, (a == b) = true ↔ same a b = true ∧ stands a) :
    (as == bs) = true ↔ Dataset.allSame same as bs = true ∧ ∀ a ∈ as, stands a := by
  induction as generalizing bs with
  | nil => cases bs <;> simp [Dataset.allSame]
  | cons a as ih =>
    cases bs with
    | nil => simp [Dataset.allSame]
    | cons b bs =>
      rw [List.cons_beq_cons, Bool.and_eq_true, h, ih, Dataset.allSame, Bool.and_eq_true,
        List.forall_mem_cons]
      exact and_and_and_comm

end

namespace Dataset

section

variable {a b : Option Binary64}

theorem sameWidth_iff_rel : sameWidth a b = true ↔ Option.Rel Binary64.Alike a b := by
  cases a with
  | none => cases b <;> simp [sameWidth]
  | some a => cases b <;> simp [sameWidth, Binary64.sameAs_iff_alike]

theorem width_beq_iff :
    (a == b) = true ↔ sameWidth a b = true ∧ ∀ width ∈ a.toList, width.isNaN = false := by
  cases a with
  | none => cases b <;> simp [sameWidth]
  | some a => cases b <;> simp [sameWidth, Binary64.beq_iff_sameAs]

end

/-! ## Datasets -/

/-- The samples and the width of a dataset. -/
def numbers (d : Dataset) : List Binary64 := d.data ++ d.borderWidth.toList

/-- Datasets with the same attributes and as many samples, which are alike slot by slot. -/
structure Alike (a b : Dataset) : Prop where
  label : a.label = b.label
  kind : a.kind = b.kind
  color : a.color = b.color
  borderColor : a.borderColor = b.borderColor
  backgroundColor : a.backgroundColor = b.backgroundColor
  borderWidth : Option.Rel Binary64.Alike a.borderWidth b.borderWidth
  fill : a.fill = b.fill
  smooth : a.smooth = b.smooth
  length : a.data.length = b.data.length
  samples : ∀ slot (ha : slot < a.data.length) (hb : slot < b.data.length),
    a.data[slot].Alike b.data[slot]

variable {a b : Dataset}

theorem beq_iff :
    (a == b) = true ↔ a.label = b.label ∧ (a.data == b.data) = true ∧ a.kind = b.kind ∧
      a.color = b.color ∧ a.borderColor = b.borderColor ∧
      a.backgroundColor = b.backgroundColor ∧ (a.borderWidth == b.borderWidth) = true ∧
      a.fill = b.fill ∧ a.smooth = b.smooth := by
  change instBEqDataset.beq a b = true ↔ _
  simp only [instBEqDataset.beq, Bool.and_eq_true, beq_iff_eq]

theorem sameAs_iff_alike : a.sameAs b = true ↔ a.Alike b := by
  simp only [sameAs_iff, sameWidth_iff_rel, allSame_iff_get, Binary64.sameAs_iff_alike]
  constructor
  · rintro ⟨label, kind, color, border, background, width, fill, smooth, length, samples⟩
    exact ⟨label, kind, color, border, background, width, fill, smooth, length, samples⟩
  · intro h
    exact ⟨h.label, h.kind, h.color, h.borderColor, h.backgroundColor, h.borderWidth, h.fill,
      h.smooth, h.length, h.samples⟩

theorem beq_iff_sameAs :
    (a == b) = true ↔ a.sameAs b = true ∧ ∀ x ∈ a.numbers, x.isNaN = false := by
  rw [beq_iff, sameAs_iff, width_beq_iff,
    list_beq_iff_allSame fun _ _ => Binary64.beq_iff_sameAs, numbers, List.forall_mem_append]
  tauto

end Dataset

/-! ## Data -/

namespace Data

/-- The samples and widths of all datasets. -/
def numbers (d : Data) : List Binary64 := d.datasets.flatMap Dataset.numbers

/-- Data with the same labels and as many datasets, which are alike slot by slot. -/
structure Alike (a b : Data) : Prop where
  labels : a.labels = b.labels
  length : a.datasets.length = b.datasets.length
  datasets : ∀ slot (ha : slot < a.datasets.length) (hb : slot < b.datasets.length),
    a.datasets[slot].Alike b.datasets[slot]

variable {a b : Data}

theorem beq_iff :
    (a == b) = true ↔ a.labels = b.labels ∧ (a.datasets == b.datasets) = true := by
  change instBEqData.beq a b = true ↔ _
  simp only [instBEqData.beq, Bool.and_eq_true, beq_iff_eq]

theorem sameAs_iff_alike : a.sameAs b = true ↔ a.Alike b := by
  simp only [sameAs_iff, Dataset.allSame_iff_get, Dataset.sameAs_iff_alike]
  constructor
  · rintro ⟨labels, length, datasets⟩
    exact ⟨labels, length, datasets⟩
  · intro h
    exact ⟨h.labels, h.length, h.datasets⟩

theorem beq_iff_sameAs :
    (a == b) = true ↔ a.sameAs b = true ∧ ∀ x ∈ a.numbers, x.isNaN = false := by
  rw [beq_iff, sameAs_iff, list_beq_iff_allSame fun _ _ => Dataset.beq_iff_sameAs, numbers,
    List.forall_mem_flatMap, and_assoc]

theorem equivalence_sameAs : Equivalence fun a b : Data => a.sameAs b = true where
  refl _ := sameAs_iff_unsignZeros_eq.mpr rfl
  symm h := sameAs_iff_unsignZeros_eq.mpr (sameAs_iff_unsignZeros_eq.mp h).symm
  trans hab hbc := sameAs_iff_unsignZeros_eq.mpr
    ((sameAs_iff_unsignZeros_eq.mp hab).trans (sameAs_iff_unsignZeros_eq.mp hbc))

/-- **Being the same is an equivalence of data, NaNs or not.**  Data are the same if they have the
same labels and as many datasets, and if slot by slot these have the same attributes and as many
samples, which are equal as numbers or both a NaN.  Data that are equal are the same, and data that
are the same are equal unless they hold a NaN. -/
theorem sameAs_compares_slots :
    (Equivalence fun a b : Data => a.sameAs b = true) ∧
    ∀ a b : Data, (a.sameAs b = true ↔ a.Alike b) ∧
      ((a == b) = true ↔ a.sameAs b = true ∧ ∀ x ∈ a.numbers, x.isNaN = false) :=
  ⟨equivalence_sameAs, fun _ _ => ⟨sameAs_iff_alike, beq_iff_sameAs⟩⟩

/-- A NaN is the same where it stands, and not in another slot. -/
example :
    let d : Data := ⟨["a", "b"], [{ label := "sold", data := [.nan, 1] }]⟩
    let moved : Data := ⟨["a", "b"], [{ label := "sold", data := [1, .nan] }]⟩
    d.sameAs d = true ∧ (d == d) = false ∧ d.sameAs moved = false := by
  decide +kernel

end Data

end Charting
