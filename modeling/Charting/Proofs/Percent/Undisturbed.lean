import Charting.Percent
import Mathlib.Data.List.Basic
import Mathlib.Logic.Relation

/-! # Percent labels beside numbers that are not finite

A NaN or an infinity has the label `0.0%`, and the finite numbers have the labels that they have
without it.  It is left out before the total is summed, so that nothing is added in its place and
the finite numbers are added in the order in which they stand.

`Edit` is a change of a list that puts in, takes out or replaces one such number anywhere.  An edit
leaves the finite numbers of a list as they are, so any number of edits does, and the label of a
finite number depends on nothing else (`finiteLabelled_eq`).
-/
namespace Charting.Percent

open Number

/-! ## Numbers with their labels -/

/-- The numbers of a list, each with its label. -/
def labelled (values : List Binary64) : List (Binary64 × String) := values.zip (labels values)

/-- The finite numbers of a list, each with the label that it has among all. -/
def finiteLabelled (values : List Binary64) : List (Binary64 × String) :=
  (labelled values).filter fun entry => entry.1.isFinite

theorem labelled_eq_map (values : List Binary64) :
    labelled values = values.map fun value => (value, label value (finiteTotal values)) :=
  List.map_prod_left_eq_zip.symm

theorem map_snd_labelled (values : List Binary64) :
    (labelled values).map Prod.snd = labels values := by
  rw [labelled_eq_map, List.map_map]
  rfl

/-- The total sees the finite numbers only. -/
theorem finiteTotal_filter_isFinite (values : List Binary64) :
    finiteTotal (values.filter Binary64.isFinite) = finiteTotal values := by
  simp only [finiteTotal, List.filter_filter, Bool.and_self]

/-- **The finite numbers have the labels that they have among themselves.** -/
theorem finiteLabelled_eq (values : List Binary64) :
    finiteLabelled values = labelled (values.filter Binary64.isFinite) := by
  rw [finiteLabelled, labelled_eq_map, labelled_eq_map, finiteTotal_filter_isFinite,
    List.filter_map]
  rfl

theorem label_of_not_isFinite {value : Binary64} (h : value.isFinite = false)
    (total : Binary64) : label value total = "0.0%" := by
  have hguard : (total == 0 || !total.isFinite || !value.isFinite) = true := by
    rw [h, Bool.not_false, Bool.or_true]
  rw [label, DecimalArithmetic.label, hguard, if_pos rfl]

/-! ## Edits -/

/-- A change of one number of a list that is not finite. -/
inductive Edit : List Binary64 → List Binary64 → Prop
  | insert (front back : List Binary64) {x : Binary64} (hx : x.isFinite = false) :
    Edit (front ++ back) (front ++ x :: back)
  | remove (front back : List Binary64) {x : Binary64} (hx : x.isFinite = false) :
    Edit (front ++ x :: back) (front ++ back)
  | replace (front back : List Binary64) {x y : Binary64} (hx : x.isFinite = false)
    (hy : y.isFinite = false) : Edit (front ++ x :: back) (front ++ y :: back)

variable {values edited : List Binary64}

/-- An edit leaves the finite numbers as they are. -/
theorem Edit.filter_isFinite (h : Edit values edited) :
    edited.filter Binary64.isFinite = values.filter Binary64.isFinite := by
  cases h with
  | insert front back hx | remove front back hx => simp [hx]
  | replace front back hx hy => simp [hx, hy]

/-- So does any number of edits. -/
theorem filter_isFinite_of_edits (h : Relation.ReflTransGen Edit values edited) :
    edited.filter Binary64.isFinite = values.filter Binary64.isFinite := by
  induction h with
  | refl => rfl
  | tail _ hedit ih => exact hedit.filter_isFinite.trans ih

/-- **Numbers that are not finite never disturb the others.**  Without them the labels are those
that the finite numbers have among all, in order, and each of them has the label `0.0%`.  They may
be put in, taken out and replaced anywhere and in any number: every finite number keeps its
label. -/
theorem labels_undisturbed (values : List Binary64) :
    labels (values.filter Binary64.isFinite) = (finiteLabelled values).map Prod.snd ∧
      (∀ entry ∈ labelled values, entry.1.isFinite = false → entry.2 = "0.0%") ∧
      ∀ edited, Relation.ReflTransGen Edit values edited →
        finiteLabelled edited = finiteLabelled values := by
  refine ⟨?removed, ?others, fun edited hedits => ?edited⟩
  case removed => rw [finiteLabelled_eq, map_snd_labelled]
  case others =>
    rw [labelled_eq_map]
    exact List.forall_mem_map.mpr fun value _ h => label_of_not_isFinite h _
  case edited => rw [finiteLabelled_eq, finiteLabelled_eq, filter_isFinite_of_edits hedits]

/-- A NaN between two equal numbers is taken out, and an infinity put in before them. -/
theorem labels_undisturbed_fifties :
    Relation.ReflTransGen Edit [50, .nan, 50] [.infinite true, 50, 50] ∧
      labels [50, .nan, 50] = ["50.0%", "0.0%", "50.0%"] ∧
      finiteLabelled [.infinite true, 50, 50] = finiteLabelled [50, .nan, 50] := by
  have hedits : Relation.ReflTransGen Edit [50, .nan, 50] [.infinite true, 50, 50] :=
    .tail (.single (.remove [50] [50] rfl)) (.insert [] [50, 50] rfl)
  exact ⟨hedits, by decide +kernel, (labels_undisturbed _).2.2 _ hedits⟩

end Charting.Percent
