import Charting.Data.Format
import Charting.Proofs.Finite.Inputs
import Charting.Proofs.RoundTrip.Shape
import Charting.Proofs.Rounding.Order

/-! # Chart data that were read can be written and read again

Data are written without the attributes that they do not have, and they are read along a shape, from
any text that says the same: members may come in another order, a missing attribute may be spelled
out as `null`, and records may be given as arrays.

What stands in the way is only that a number that is not finite is written as `null`.  As such
numbers are never read, the data that survive are exactly those that some text is read as
(`Data.survives_iff`).
-/
namespace Charting

open Number Json

namespace Data

/-- How data come back from their own text. -/
structure Survives (d : Data) : Prop where
  compact : parse (format.encode d).compact = .ok d
  pretty : parse (format.encode d).pretty = .ok d
  /-- Data are equal to themselves unless a NaN is among them. -/
  equal : (d == d) = true

end Data

/-! ## Names -/

theorem DatasetKind.names_nodup : (all.map name).Nodup := by decide

theorem DatasetKind.mem_all (kind : DatasetKind) : kind ∈ all := by cases kind <;> decide

/-! ## Records -/

section Records

open Charting.Field Charting.Format

variable {depth : Nat}

theorem Dataset.record_lawful : Dataset.record.Lawful where
  keys_nodup := by decide
  get_set := by simp [record, always, omittable]
  independent := by simp [record, Independent, always, omittable]
  ext := by
    rintro ⟨⟩ ⟨⟩
    simp +contextual [record, always, omittable]

theorem Dataset.taken_start : Dataset.record.Taken (depth + 1) Dataset.record.start := by
  simp only [Record.Taken, record, List.forall_mem_cons, always_takes_iff, omittable_takes_iff]
  exact ⟨text_takes _, list_takes_nil, optional_takes_none, optional_takes_none,
    optional_takes_none, optional_takes_none, optional_takes_none, optional_takes_none,
    optional_takes_none, List.forall_mem_nil _⟩

/-- Of a dataset that was read all numbers are finite. -/
theorem Dataset.isFinite_of_takes {d : Dataset} (h : Dataset.record.format.Takes (depth + 2) d) :
    d.IsFinite := by
  have htaken := Record.Lawful.taken_of_format_takes record_lawful taken_start h
  simp only [Record.Taken, record, List.forall_mem_cons, always_takes_iff,
    omittable_takes_iff] at htaken
  obtain ⟨-, hdata, -, -, -, -, hwidth, -⟩ := htaken
  constructor
  case samples => exact fun x hx => real_takes_iff.mp (takes_of_list_takes hdata x hx)
  case borderWidth =>
    intro width hw
    obtain hw : d.borderWidth = some width := hw
    rw [hw] at hwidth
    exact real_takes_iff.mp (takes_of_optional_takes hwidth)

theorem Dataset.survives_fields {d : Dataset} (h : d.IsFinite) :
    ∀ f ∈ Dataset.record.fields, f.Survives (depth + 1) Dataset.record.start d := by
  simp only [record, List.forall_mem_cons]
  refine ⟨always_survives (text_reproduces.restores (text_takes _)),
    always_survives (list_restores fun x hx =>
      real_reproduces.restores (real_takes_iff.mpr (h.samples x hx))),
    omittable_survives rfl (named_reproduces DatasetKind.names_nodup) named_neverNull
      fun kind _ => named_takes DatasetKind.names_nodup kind.mem_all,
    omittable_survives rfl text_reproduces text_neverNull fun color _ => text_takes color,
    omittable_survives rfl text_reproduces text_neverNull fun color _ => text_takes color,
    omittable_survives rfl coloring_reproduces coloring_neverNull fun c _ => coloring_takes c,
    omittable_survives rfl real_reproduces real_neverNull fun width hw =>
      real_takes_iff.mpr (h.borderWidth width hw),
    omittable_survives rfl bool_reproduces bool_neverNull fun b _ => bool_takes b,
    omittable_survives rfl bool_reproduces bool_neverNull fun b _ => bool_takes b,
    List.forall_mem_nil _⟩

theorem Dataset.restores {d : Dataset} (h : d.IsFinite) :
    Dataset.record.format.Restores (depth + 2) d := by
  refine Record.Lawful.restores record_lawful (survives_fields h) ?_
  intro f hf
  obtain rfl := List.mem_singleton.mp hf
  exact ⟨_, rfl⟩

theorem Data.record_lawful : Data.record.Lawful where
  keys_nodup := by decide
  get_set := by simp [record, always]
  independent := by simp [record, independent_always_iff]
  ext := by
    rintro ⟨⟩ ⟨⟩
    simp +contextual [record, always]

theorem Data.taken_start : Data.record.Taken (depth + 1) Data.record.start := by
  simp only [Record.Taken, record, List.forall_mem_cons, always_takes_iff]
  exact ⟨list_takes_nil, list_takes_nil, List.forall_mem_nil _⟩

theorem Data.isFinite_of_takes {d : Data} (h : Data.format.Takes (depth + 4) d) : d.IsFinite := by
  have htaken := Record.Lawful.taken_of_format_takes record_lawful taken_start h
  simp only [Record.Taken, record, List.forall_mem_cons, always_takes_iff] at htaken
  obtain ⟨-, hdatasets, -⟩ := htaken
  exact fun s hs => Dataset.isFinite_of_takes (takes_of_list_takes hdatasets s hs)

theorem Data.survives_fields {d : Data} (h : d.IsFinite) :
    ∀ f ∈ Data.record.fields, f.Survives (depth + 3) Data.record.start d := by
  simp only [record, List.forall_mem_cons]
  exact ⟨always_survives (list_restores fun label _ => text_reproduces.restores (text_takes label)),
    always_survives (list_restores fun s hs => Dataset.restores (h s hs)), List.forall_mem_nil _⟩

theorem Data.restores {d : Data} (h : d.IsFinite) : Data.format.Restores (depth + 4) d :=
  Record.Lawful.restores record_lawful (survives_fields h) fun _ hf => absurd hf List.not_mem_nil

end Records

/-! ## Reading along the shape of data -/

section Shapes

open Charting.Field Charting.Format Charting.Json.Shape

variable {depth : Nat}

/-- The object of a record is read along fields that want all that is written. -/
theorem Record.keeps_encode {σ : Type} {r : Record σ} (hr : r.Lawful) {s : σ}
    {wanted : List (String × Shape)} (hkeys : (wanted.map (·.1)).Nodup)
    (h : ∀ f ∈ r.fields, ∀ j, f.write s = some j →
      ∃ shape, (f.key, shape) ∈ wanted ∧ shape.Keeps depth j) :
    (Shape.fields wanted).Keeps (depth + 1) (r.format.encode s) := by
  refine keeps_fields hkeys (hr.keys_nodup.sublist keys_written_sublist) fun m hm => ?_
  obtain ⟨f, hf, hwrite, hkey⟩ := mem_written_iff.mp hm
  rw [← hkey]
  exact h f hf m.2 hwrite

section NeverObject

variable {σ α : Type} {s : σ} {key : String} {f : Format α}
  (h : ∀ a members, f.encode a ≠ object members)
include h

theorem Field.always_ne_object {get : σ → α} {set : α → σ → σ} :
    ∀ j, (always key f get set).write s = some j → ∀ members, j ≠ object members := by
  rintro j hj members rfl
  exact h _ _ (Option.some.inj hj)

theorem Field.omittable_ne_object {get : σ → Option α} {set : Option α → σ → σ} :
    ∀ j, (omittable key f get set).write s = some j → ∀ members, j ≠ object members := by
  rintro j hj members rfl
  obtain ⟨a, -, ha⟩ := Option.map_eq_some_iff.mp hj
  exact h a members ha

end NeverObject

theorem Format.real_ne_object (x : Binary64) (members : List (String × Json)) :
    real.encode x ≠ object members := by
  change Json.ofBinary64 x ≠ object members
  unfold Json.ofBinary64
  split <;> rintro ⟨⟩

theorem Format.coloring_ne_object (c : Coloring) (members : List (String × Json)) :
    coloring.encode c ≠ object members := by
  cases c <;> rintro ⟨⟩

/-- No attribute of a dataset is written as an object. -/
theorem Dataset.write_ne_object {d : Dataset} :
    ∀ f ∈ Dataset.record.fields, ∀ j, f.write d = some j → ∀ members, j ≠ object members := by
  simp only [record, List.forall_mem_cons]
  refine ⟨always_ne_object ?_, always_ne_object ?_, omittable_ne_object ?_, omittable_ne_object ?_,
    omittable_ne_object ?_, omittable_ne_object coloring_ne_object,
    omittable_ne_object real_ne_object, omittable_ne_object ?_, omittable_ne_object ?_,
    List.forall_mem_nil _⟩
  all_goals rintro a members ⟨⟩

theorem Dataset.keeps_encode {d : Dataset} (h : d.IsFinite) :
    (fields (Dataset.record.fields.map fun f => (f.key, .whole))).Keeps (depth + 2)
      (Dataset.record.format.encode d) := by
  have hkeys : ((Dataset.record.fields.map fun f => (f.key, whole)).map (·.1)).Nodup := by
    rw [List.map_map]
    exact Record.Lawful.keys_nodup record_lawful
  refine Record.keeps_encode record_lawful hkeys fun f hf j hj => ?_
  refine ⟨.whole, List.mem_map.mpr ⟨f, hf, rfl⟩, ?_⟩
  exact keeps_whole ((survives_fields h f hf).nesting hj) (write_ne_object f hf j hj)

theorem Data.keeps_encode {d : Data} (h : d.IsFinite) :
    Data.shape.Keeps (depth + 4) (Data.format.encode d) := by
  refine Record.keeps_encode record_lawful (by decide) fun f hf j hj => ?_
  have hnesting : j.nesting ≤ depth + 3 := (survives_fields h f hf).nesting hj
  simp only [record, List.mem_cons, List.not_mem_nil, or_false] at hf
  rcases hf with rfl | rfl
  · obtain rfl := Option.some.inj hj
    exact ⟨.whole, List.mem_cons_self, keeps_whole hnesting (by rintro members ⟨⟩)⟩
  · obtain rfl := Option.some.inj hj
    refine ⟨_, List.mem_cons_of_mem _ List.mem_cons_self, keeps_items fun j hj => ?_⟩
    obtain ⟨s, hs, rfl⟩ := List.mem_map.mp hj
    exact Dataset.keeps_encode (h s hs)

end Shapes

namespace Data

variable {d : Data} {text : String}

theorem parse_eq_ok_iff :
    parse text = .ok d ↔ ∃ j, parseAlong shape text = some j ∧ format.decode j = .ok d := by
  unfold parse
  cases parseAlong shape text <;> simp

theorem isFinite_of_parse (h : parse text = .ok d) : d.IsFinite := by
  obtain ⟨j, hj, hdecode⟩ := parse_eq_ok_iff.mp h
  have hread : j.IsRead (123 + 4) := isRead_of_parseAlong hj
  exact isFinite_of_takes ⟨j, hread, hdecode⟩

theorem parse_chars (h : d.IsFinite) {layout : Layout} (hl : layout.IsBlank) :
    parse (String.ofList ((format.encode d).chars layout 0)) = .ok d := by
  have hkeeps : shape.Keeps (123 + 4) (format.encode d) := keeps_encode h
  have hrestores : format.Restores (123 + 4) d := restores h
  exact parse_eq_ok_iff.mpr ⟨_, parseAlong_chars hkeeps hl, hrestores.roundTrips⟩

theorem IsFinite.isNaN_eq_false (h : d.IsFinite) : ∀ x ∈ d.numbers, x.isNaN = false := by
  intro x hx
  obtain ⟨s, hs, hx⟩ := List.mem_flatMap.mp hx
  rcases List.mem_append.mp hx with hx | hx
  · exact Binary64.isNaN_eq_false_of_isFinite ((h s hs).samples x hx)
  · exact Binary64.isNaN_eq_false_of_isFinite ((h s hs).borderWidth x (Option.mem_toList.mp hx))

theorem IsFinite.survives (h : d.IsFinite) : d.Survives where
  compact := parse_chars h Layout.isBlank_compact
  pretty := parse_chars h Layout.isBlank_pretty
  equal := beq_iff_sameAs.mpr ⟨equivalence_sameAs.refl d, h.isNaN_eq_false⟩

/-- **Data survive a round trip through their text exactly if all of their numbers are finite.**
The text may be written on one line or over many.  Data that were read from any text at all are of
this kind; so reading them again from what is written for them changes nothing. -/
theorem survives_iff (d : Data) :
    (d.Survives ↔ d.IsFinite) ∧ ∀ text, parse text = .ok d → d.Survives :=
  ⟨⟨fun h => isFinite_of_parse h.compact, IsFinite.survives⟩,
    fun _ h => (isFinite_of_parse h).survives⟩

/-- A text with its members in another order, one that is not known, a dataset as an array and one
with a missing attribute spelled out. -/
example : parse ("\x7b\"datasets\": [[\"sold\", [3, 5e0], \x7b\"bar\": null\x7d], " ++
      "\x7b\"backgroundColor\": [\"red\"], \"more\": [[]], \"color\": null, " ++
      "\"label\": \"lost\"\x7d]\x7d") =
    .ok ⟨[], [{ label := "sold", data := [3, 5], kind := some .bar },
      { label := "lost", backgroundColor := some (.each ["red"]) }]⟩ := by decide +kernel

end Data
end Charting
