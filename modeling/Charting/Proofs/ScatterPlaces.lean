import Charting.Proofs.Literal
import Charting.Series
import Mathlib.Data.List.Forall2

/-! # The places of scattered points

A scatter chart has no labels along its axes.  If every label spells a finite number, the labels are
the places of the points, from left to right; if one does not, no label counts, and the points stand
at their indices.

There may be more points than labels, though, and those without a label stand at their indices even
beside numbers.  Points at numbers in order are therefore in order as long as no point lacks a
label, or if the last number is not beyond the first index that is used
(`ScatterSeries.Places.ordered`); otherwise the row of points turns back.
-/
namespace Charting

open Number

namespace ScatterSeries

/-! ## What labels spell -/

/-- The label is the literal of a finite number, with blanks around it or none. -/
def SpellsNumber (label : String) (x : Binary64) : Prop :=
  IsLiteral (Text.trim label.toList) x ∧ x.isFinite = true

/-- The labels spell numbers, each its own. -/
def SpellNumbers (labels : List String) (xs : List Binary64) : Prop :=
  List.Forall₂ SpellsNumber labels xs

/-- There are no labels, or one of them spells no number. -/
def SpellNone (labels : List String) : Prop :=
  labels = [] ∨ ∃ label ∈ labels, ∀ x, ¬SpellsNumber label x

theorem labelNumber?_eq_some_iff {label : String} {x : Binary64} :
    labelNumber? label = some x ↔ SpellsNumber label x := by
  rw [labelNumber?, Option.filter_eq_some_iff, Binary64.read_eq_some_iff]
  exact Iff.rfl

theorem mapM_labelNumber?_eq_some_iff {labels : List String} {xs : List Binary64} :
    labels.mapM labelNumber? = some xs ↔ SpellNumbers labels xs := by
  induction labels generalizing xs with
  | nil => cases xs <;> simp [SpellNumbers]
  | cons label rest ih =>
    rw [SpellNumbers, List.forall₂_cons_left_iff, List.mapM_cons]
    constructor
    · intro h
      obtain ⟨x, hx, h⟩ := Option.bind_eq_some_iff.mp h
      obtain ⟨xs', hxs, h⟩ := Option.bind_eq_some_iff.mp h
      exact ⟨x, xs', labelNumber?_eq_some_iff.mp hx, ih.mp hxs, (Option.some.inj h).symm⟩
    · rintro ⟨x, xs', hx, hxs, rfl⟩
      rw [labelNumber?_eq_some_iff.mpr hx, ih.mpr hxs]
      rfl

theorem labelNumbers_of_spell {labels : List String} {xs : List Binary64}
    (h : SpellNumbers labels xs) : labelNumbers labels = xs := by
  rw [labelNumbers, mapM_labelNumber?_eq_some_iff.mpr h, Option.getD_some]

/-- One label that spells no number takes the numbers of all others away. -/
theorem labelNumbers_of_spellNone {labels : List String} (h : SpellNone labels) :
    labelNumbers labels = [] := by
  rcases h with rfl | ⟨label, hmem, hnone⟩
  · rfl
  · cases hlabels : labels.mapM labelNumber? with
    | none => rw [labelNumbers, hlabels, Option.getD_none]
    | some xs =>
      have hspell := mapM_labelNumber?_eq_some_iff.mp hlabels
      obtain ⟨index, hindex, rfl⟩ := List.getElem_of_mem hmem
      have hx : index < xs.length := hspell.length_eq ▸ hindex
      exact absurd (hspell.get hindex hx) (hnone _)

/-! ## Where points stand -/

/-- So many indices in a row, as places. -/
def indices (start count : Nat) : List Binary64 := (List.range' start count).map Binary64.ofNat

theorem map_y_points (xs ys : List Binary64) : (points xs ys).map (·.y) = ys := by
  refine List.ext_getElem? fun index => ?_
  rw [points, List.getElem?_map, List.getElem?_mapIdx, Option.map_map]
  exact Option.map_id'

/-- First come the numbers, as far as there are points, and then the indices. -/
theorem map_x_points (xs ys : List Binary64) :
    (points xs ys).map (·.x) =
      xs.take ys.length ++ indices xs.length (ys.length - xs.length) := by
  have hlength : ((points xs ys).map (·.x)).length =
      (xs.take ys.length ++ indices xs.length (ys.length - xs.length)).length := by
    simp only [points, indices, List.length_map, List.length_mapIdx, List.length_append,
      List.length_take, List.length_range']
    omega
  refine List.ext_getElem hlength ?_
  intro index hleft hright
  have hpoint : index < ys.length := by simpa [points] using hleft
  simp only [points, indices, List.getElem_map, List.getElem_mapIdx]
  by_cases hlabel : index < xs.length
  · rw [List.getElem_append_left (by rw [List.length_take]; omega), List.getElem_take,
      List.getElem?_eq_getElem hlabel, Option.getD_some]
  · rw [List.getElem_append_right (by rw [List.length_take]; omega), List.getElem_map,
      List.getElem_range', List.length_take, List.getElem?_eq_none (by omega), Option.getD_none]
    congr 1
    omega

theorem pairwise_indices (start count : Nat) : (indices start count).Pairwise (· ≤ ·) :=
  List.pairwise_le_range'.map _ fun _ _ => Binary64.ofNat_le_ofNat

/-- In a row of numbers in order none is above the last one. -/
theorem le_of_getLast?_eq {xs : List Binary64} {last x : Binary64} (h : xs.Pairwise (· ≤ ·))
    (hlast : xs.getLast? = some last) (hx : x ∈ xs) : x = last ∨ x ≤ last := by
  obtain ⟨before, rfl⟩ := List.getLast?_eq_some_iff.mp hlast
  obtain ⟨-, -, hbefore⟩ := List.pairwise_append.mp h
  rcases List.mem_append.mp hx with hx | hx
  · exact .inr (hbefore x hx last (List.mem_singleton_self last))
  · exact .inl (List.mem_singleton.mp hx)

/-- Numbers in order with indices behind them are in order exactly if the last number is not beyond
the first index. -/
theorem pairwise_append_indices_iff {xs : List Binary64} {last : Binary64} {start count : Nat}
    (h : xs.Pairwise (· ≤ ·)) (hlast : xs.getLast? = some last) (hcount : 0 < count) :
    (xs ++ indices start count).Pairwise (· ≤ ·) ↔ last ≤ .ofNat start := by
  have hfirst : Binary64.ofNat start ∈ indices start count :=
    List.mem_map_of_mem (List.mem_range'_1.mpr ⟨Nat.le_refl _, by omega⟩)
  rw [List.pairwise_append, and_iff_right h, and_iff_right (pairwise_indices start count)]
  constructor
  · intro hall
    exact hall last (List.mem_of_getLast? hlast) _ hfirst
  · intro hle x hx y hy
    obtain ⟨index, hindex, rfl⟩ := List.mem_map.mp hy
    have hindices : Binary64.ofNat start ≤ .ofNat index :=
      Binary64.ofNat_le_ofNat (List.mem_range'_1.mp hindex).1
    have hxstart : x ≤ Binary64.ofNat start := by
      rcases le_of_getLast?_eq h hlast hx with rfl | hxlast
      · exact hle
      · exact Binary64.le_trans hxlast hle
    exact Binary64.le_trans hxstart hindices

/-! ## The series of a dataset -/

/-- The places of the points of a dataset. -/
structure Places (s : ScatterSeries) (labels : List String) (d : Dataset) : Prop where
  /-- There is a point for each sample, as high as the sample. -/
  samples : s.data.map (·.y) = d.data
  /-- Points stand at the numbers of their labels, and those without a label at their index. -/
  numbers : ∀ xs, SpellNumbers labels xs →
    s.data.map (·.x) = xs.take d.data.length ++ indices labels.length (d.data.length - labels.length)
  /-- Points at numbers in order are in order themselves, unless points without a label turn back
  behind the last number. -/
  ordered : ∀ xs last, SpellNumbers labels xs → xs.Pairwise (· ≤ ·) → xs.getLast? = some last →
    ((s.data.map (·.x)).Pairwise (· ≤ ·) ↔
      d.data.length ≤ labels.length ∨ last ≤ .ofNat labels.length)
  /-- If labels do not count, all points stand at their indices. -/
  unnumbered : SpellNone labels → s.data.map (·.x) = indices 0 d.data.length

theorem places_ofDataset (d : Dataset) (labels : List String) (color : String)
    (style : SeriesStyle) : (ofDataset d labels color style).Places labels d := by
  have hx := map_x_points (labelNumbers labels) d.data
  have hnumbers {xs : List Binary64} (hspell : SpellNumbers labels xs) :
      (points (labelNumbers labels) d.data).map (·.x) =
        xs.take d.data.length ++ indices labels.length (d.data.length - labels.length) := by
    rw [hx, labelNumbers_of_spell hspell, hspell.length_eq]
  constructor
  case samples => exact map_y_points _ _
  case numbers => exact fun xs => hnumbers
  case ordered =>
    intro xs last hspell hpairwise hlast
    change ((points (labelNumbers labels) d.data).map (·.x)).Pairwise (· ≤ ·) ↔ _
    rw [hnumbers hspell, hspell.length_eq]
    by_cases hfits : d.data.length ≤ xs.length
    · rw [Nat.sub_eq_zero_of_le hfits]
      refine iff_of_true ?_ (.inl hfits)
      rw [indices, List.range'_zero, List.map_nil, List.append_nil]
      exact hpairwise.sublist (List.take_sublist _ _)
    · rw [List.take_of_length_le (by omega), or_iff_right hfits]
      exact pairwise_append_indices_iff hpairwise hlast (by omega)
  case unnumbered =>
    intro hnone
    refine hx.trans ?_
    rw [labelNumbers_of_spellNone hnone, List.take_nil, List.nil_append, List.length_nil,
      Nat.sub_zero]

/-- **Scattered points keep the order of numeric labels, as far as there are labels.**  Each dataset
of a scatter chart becomes a row of points, one for each sample, whose places follow from the labels:
at their numbers if all of them spell one, with the rest of the points at their indices, and else
all of them at their indices.  Numbers in order put the points in order, unless some lack a label
and the last number is beyond the number of labels. -/
theorem ofData_scatter_places {d : Data} {index : Nat} {source : Dataset}
    (h : d.datasets[index]? = some source) (style : SeriesStyle) :
    ∃ s : ScatterSeries, (Series.ofData d .scatter style)[index]? = some (.scatter s) ∧
      s.Places d.labels source := by
  have hplaces := places_ofDataset source d.labels
    (source.resolveColor index style.context.palette) style
  exact ⟨_, Series.getElem?_ofData h, hplaces⟩

/-- Three samples between two labels. -/
def threeSamples : Dataset := { label := "sold", data := [5, 7, 6] }

theorem ofData_scatter_places_near :
    SpellNumbers [" 1", "2.0"] [1, 2] ∧
      ∃ s : ScatterSeries,
        (Series.ofData ⟨[" 1", "2.0"], [threeSamples]⟩ .scatter .standard)[0]? = some (.scatter s) ∧
        s.data.map (·.x) = [1, 2, 2] ∧ (s.data.map (·.x)).Pairwise (· ≤ ·) := by
  have hone : SpellsNumber " 1" 1 := labelNumber?_eq_some_iff.mp (by decide +kernel)
  have htwo : SpellsNumber "2.0" 2 := labelNumber?_eq_some_iff.mp (by decide +kernel)
  have hspell : SpellNumbers [" 1", "2.0"] [1, 2] := .cons hone (.cons htwo .nil)
  have hsource : (⟨[" 1", "2.0"], [threeSamples]⟩ : Data).datasets[0]? = some threeSamples := rfl
  obtain ⟨s, hs, hplaces⟩ := ofData_scatter_places hsource .standard
  refine ⟨hspell, s, hs, hplaces.numbers _ hspell, ?_⟩
  exact (hplaces.ordered _ _ hspell (by decide +kernel) rfl).mpr (.inr (by decide +kernel))

/-- Behind a label far from zero the points without a label turn back. -/
theorem points_turn_back :
    SpellNumbers ["10", "20"] [10, 20] ∧ ([10, 20] : List Binary64).Pairwise (· ≤ ·) ∧
      ∃ s : ScatterSeries,
        Series.ofData ⟨["10", "20"], [threeSamples]⟩ .scatter .standard = [.scatter s] ∧
        ¬(s.data.map (·.x)).Pairwise (· ≤ ·) := by
  have hten : SpellsNumber "10" 10 := labelNumber?_eq_some_iff.mp (by decide +kernel)
  have htwenty : SpellsNumber "20" 20 := labelNumber?_eq_some_iff.mp (by decide +kernel)
  have hspell : SpellNumbers ["10", "20"] [10, 20] := .cons hten (.cons htwenty .nil)
  have hpairwise : ([10, 20] : List Binary64).Pairwise (· ≤ ·) := by decide +kernel
  refine ⟨hspell, hpairwise, _, rfl, ?_⟩
  intro hordered
  have hnear := ((places_ofDataset _ _ _ _).ordered _ _ hspell hpairwise rfl).mp hordered
  exact absurd hnear (by decide +kernel)

end ScatterSeries
end Charting
