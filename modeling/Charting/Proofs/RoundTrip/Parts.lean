import Charting.Proofs.RoundTrip.Record
import Charting.Proofs.ZeroSign.Inputs

/-! # The parts of properties reproduce their values

The properties are a record of records.  Each of these is lawful, starts from values that could be
read as well, and has fields that reproduce their values; so it reproduces its values itself, in a
depth that leaves room for those of its fields.

Extensions are free values.  They are not read into anything, so they come back as they were only
because an object that was read has its members sorted by key (`Extensions.isRead_of_takes`).
-/
namespace Charting

open Number

/-! ## Extensions -/

namespace Extensions

theorem set_of_notMem {key : String} {value : Json} {entries : List (String × Json)}
    (h : key ∉ entries.map (·.1)) : set key value entries = entries ++ [(key, value)] := by
  induction entries with
  | nil => rfl
  | cons entry rest ih =>
    obtain ⟨k, v⟩ := entry
    rw [List.map_cons, List.mem_cons, not_or] at h
    rw [set, if_neg (Ne.symm h.1), ih h.2, List.cons_append]

/-- Members with distinct keys are kept as they are. -/
theorem entries_ofMembers {members : List (String × Json)} (h : (members.map (·.1)).Nodup) :
    (ofMembers members).entries = members := by
  have hfold : ∀ (rest : List (String × Json)) (e : Extensions),
      ((e.entries ++ rest).map (·.1)).Nodup →
        (rest.foldl (fun e m => e.insert m.1 m.2) e).entries = e.entries ++ rest := by
    intro rest
    induction rest with
    | nil => simp
    | cons m rest ih =>
      intro e hnodup
      have hkey : m.1 ∉ e.entries.map (·.1) := by
        rw [List.map_append, List.map_cons, List.nodup_middle, List.nodup_cons] at hnodup
        exact fun hm => hnodup.1 (List.mem_append_left _ hm)
      have hentries : (e.insert m.1 m.2).entries = e.entries ++ [m] := set_of_notMem hkey
      rw [List.foldl_cons, ih _ (by rw [hentries]; simpa using hnodup), hentries]
      simp
  exact hfold members {} h

variable {depth : Nat} {e : Extensions}

/-- Extensions are the members of an object that was read. -/
theorem isRead_of_takes (h : format.Takes (depth + 1) e) :
    (Json.object e.entries).IsRead (depth + 1) := by
  obtain ⟨j, hj, hdecode⟩ := h
  cases j with
  | object members =>
    cases hdecode
    have hkeys := (Json.isRead_object_iff.mp hj).1
    rw [entries_ofMembers (hkeys.imp fun hlt => ne_of_lt hlt)]
    exact hj
  | null | bool | number | string | array => cases hdecode

theorem format_takes_empty : format.Takes (depth + 1) {} :=
  ⟨.object [], Json.isRead_object_iff.mpr ⟨.nil, List.forall_mem_nil _⟩, rfl⟩

theorem format_reproduces : format.Reproduces (depth + 1) where
  nesting taken := (isRead_of_takes taken).nesting
  roundTrips {e} taken := by
    have hsorted := (isRead_of_takes taken).sorted.sortMembers_eq
    change format.decode (Json.object e.entries).sortMembers = .ok e
    rw [hsorted]
    change Except.ok (ofMembers e.entries) = .ok e
    rw [eq_of_entries (entries_ofMembers e.distinct)]

end Extensions

/-! ## Names -/

theorem Theme.names_nodup : (all.map name).Nodup := by decide

theorem Target.names_nodup : (all.map name).Nodup := by decide

theorem LegendPosition.names_nodup : (all.map name).Nodup := by decide

theorem RadarShape.names_nodup : (all.map name).Nodup := by decide

theorem TooltipTrigger.names_nodup : (all.map name).Nodup := by decide

theorem AxisPointer.names_nodup : (all.map name).Nodup := by decide

/-! ## The parts of properties -/

section Parts

open Charting.Field Charting.Format

variable {depth : Nat}

theorem Zone.record_lawful : Zone.record.Lawful where
  keys_nodup := by decide
  get_set := by simp [record, always]
  independent := by simp [record, independent_always_iff]
  ext := by
    rintro ⟨⟩ ⟨⟩
    simp +contextual [record, always]

theorem Zone.taken_start : Zone.record.Taken depth Zone.record.start := by
  simp only [Record.Taken, record, List.forall_mem_cons]
  exact ⟨real_takes_literal _ (by decide), text_takes _, List.forall_mem_nil _⟩

theorem Zone.format_reproduces : Zone.record.format.Reproduces (depth + 1) := by
  refine Record.Lawful.reproduces Zone.record_lawful Zone.taken_start ?_
  simp only [record, List.forall_mem_cons]
  exact ⟨always_reproduces real_reproduces, always_reproduces text_reproduces,
    List.forall_mem_nil _⟩

theorem GridSettings.record_lawful : GridSettings.record.Lawful where
  keys_nodup := by decide
  get_set := by simp [record, always]
  independent := by simp [record, independent_always_iff]
  ext := by
    rintro ⟨⟩ ⟨⟩
    simp +contextual [record, always]

theorem GridSettings.taken_start : GridSettings.record.Taken depth GridSettings.record.start := by
  simp only [Record.Taken, record, List.forall_mem_cons]
  exact ⟨optional_takes_none, optional_takes_none, optional_takes_none, optional_takes_none,
    optional_takes_none, List.forall_mem_nil _⟩

theorem GridSettings.format_reproduces : GridSettings.record.format.Reproduces (depth + 1) := by
  refine Record.Lawful.reproduces GridSettings.record_lawful GridSettings.taken_start ?_
  simp only [record, List.forall_mem_cons]
  exact ⟨always_reproduces optional_dimension_reproduces,
    always_reproduces optional_dimension_reproduces,
    always_reproduces optional_dimension_reproduces,
    always_reproduces optional_dimension_reproduces, always_reproduces optional_bool_reproduces,
    List.forall_mem_nil _⟩

theorem TooltipSettings.record_lawful : TooltipSettings.record.Lawful where
  keys_nodup := by decide
  get_set := by simp [record, always]
  independent := by simp [record, independent_always_iff]
  ext := by
    rintro ⟨⟩ ⟨⟩
    simp +contextual [record, always]

theorem TooltipSettings.taken_start :
    TooltipSettings.record.Taken depth TooltipSettings.record.start := by
  simp only [Record.Taken, record, List.forall_mem_cons]
  exact ⟨optional_takes_none, optional_takes_none, optional_takes_none, List.forall_mem_nil _⟩

theorem TooltipSettings.format_reproduces :
    TooltipSettings.record.format.Reproduces (depth + 1) := by
  refine Record.Lawful.reproduces TooltipSettings.record_lawful TooltipSettings.taken_start ?_
  simp only [record, List.forall_mem_cons]
  exact ⟨
    always_reproduces (optional_named_reproduces TooltipTrigger.names_nodup),
    always_reproduces optional_text_reproduces,
    always_reproduces (optional_named_reproduces AxisPointer.names_nodup),
    List.forall_mem_nil _⟩

theorem BarProps.record_lawful : BarProps.record.Lawful where
  keys_nodup := by decide
  get_set := by simp [record, always]
  independent := by simp [record, independent_always_iff]
  ext := by
    rintro ⟨⟩ ⟨⟩
    simp +contextual [record, always]

theorem BarProps.taken_start : BarProps.record.Taken depth BarProps.record.start := by
  simp only [Record.Taken, record, List.forall_mem_cons]
  exact ⟨bool_takes _, optional_takes_none, real_takes_literal _ (by decide), bool_takes _,
    bool_takes _, List.forall_mem_nil _⟩

theorem BarProps.format_reproduces : BarProps.record.format.Reproduces (depth + 1) := by
  refine Record.Lawful.reproduces BarProps.record_lawful BarProps.taken_start ?_
  simp only [record, List.forall_mem_cons]
  exact ⟨always_reproduces bool_reproduces, always_reproduces optional_real_reproduces,
    always_reproduces real_reproduces, always_reproduces bool_reproduces,
    always_reproduces bool_reproduces, List.forall_mem_nil _⟩

theorem AreaProps.record_lawful : AreaProps.record.Lawful where
  keys_nodup := by decide
  get_set := by simp [record, always]
  independent := by simp [record, independent_always_iff]
  ext := by
    rintro ⟨⟩ ⟨⟩
    simp +contextual [record, always]

theorem AreaProps.taken_start : AreaProps.record.Taken depth AreaProps.record.start := by
  simp only [Record.Taken, record, List.forall_mem_cons]
  exact ⟨optional_takes_none, bool_takes _, List.forall_mem_nil _⟩

theorem AreaProps.format_reproduces : AreaProps.record.format.Reproduces (depth + 1) := by
  refine Record.Lawful.reproduces AreaProps.record_lawful AreaProps.taken_start ?_
  simp only [record, List.forall_mem_cons]
  exact ⟨always_reproduces optional_real_reproduces, always_reproduces bool_reproduces,
    List.forall_mem_nil _⟩

theorem PieProps.record_lawful : PieProps.record.Lawful where
  keys_nodup := by decide
  get_set := by simp [record, always]
  independent := by simp [record, independent_always_iff]
  ext := by
    rintro ⟨⟩ ⟨⟩
    simp +contextual [record, always]

theorem PieProps.taken_start : PieProps.record.Taken depth PieProps.record.start := by
  simp only [Record.Taken, record, List.forall_mem_cons]
  exact ⟨optional_takes_none, optional_takes_none, bool_takes _, bool_takes _, bool_takes _,
    optional_takes_none, optional_takes_none, List.forall_mem_nil _⟩

theorem PieProps.format_reproduces : PieProps.record.format.Reproduces (depth + 1) := by
  refine Record.Lawful.reproduces PieProps.record_lawful PieProps.taken_start ?_
  simp only [record, List.forall_mem_cons]
  exact ⟨always_reproduces optional_dimension_reproduces,
    always_reproduces optional_dimension_reproduces, always_reproduces bool_reproduces,
    always_reproduces bool_reproduces, always_reproduces bool_reproduces,
    always_reproduces optional_text_reproduces, always_reproduces optional_text_reproduces,
    List.forall_mem_nil _⟩

theorem RadarProps.record_lawful : RadarProps.record.Lawful where
  keys_nodup := by decide
  get_set := by simp [record, always]
  independent := by simp [record, independent_always_iff]
  ext := by
    rintro ⟨⟩ ⟨⟩
    simp +contextual [record, always]

theorem RadarProps.taken_start : RadarProps.record.Taken depth RadarProps.record.start := by
  simp only [Record.Taken, record, List.forall_mem_cons]
  exact ⟨optional_takes_none, named_takes RadarShape.names_nodup List.mem_cons_self,
    optional_takes_none, List.forall_mem_nil _⟩

theorem RadarProps.format_reproduces : RadarProps.record.format.Reproduces (depth + 1) := by
  refine Record.Lawful.reproduces RadarProps.record_lawful RadarProps.taken_start ?_
  simp only [record, List.forall_mem_cons]
  exact ⟨always_reproduces optional_real_reproduces,
    always_reproduces (named_reproduces RadarShape.names_nodup),
    always_reproduces optional_real_reproduces, List.forall_mem_nil _⟩

theorem ScatterProps.record_lawful : ScatterProps.record.Lawful where
  keys_nodup := by decide
  get_set := by simp [record, always]
  independent := List.pairwise_singleton _ _
  ext := by
    rintro ⟨⟩ ⟨⟩
    simp +contextual [record, always]

theorem ScatterProps.taken_start : ScatterProps.record.Taken depth ScatterProps.record.start := by
  simp only [Record.Taken, record, List.forall_mem_cons]
  exact ⟨optional_takes_none, List.forall_mem_nil _⟩

theorem ScatterProps.format_reproduces : ScatterProps.record.format.Reproduces (depth + 1) := by
  refine Record.Lawful.reproduces ScatterProps.record_lawful ScatterProps.taken_start ?_
  simp only [record, List.forall_mem_cons]
  exact ⟨always_reproduces optional_real_reproduces, List.forall_mem_nil _⟩

theorem GaugeProps.record_lawful : GaugeProps.record.Lawful where
  keys_nodup := by decide
  get_set := by simp [record, always]
  independent := by simp [record, independent_always_iff]
  ext := by
    rintro ⟨⟩ ⟨⟩
    simp +contextual [record, always]

theorem GaugeProps.taken_start : GaugeProps.record.Taken (depth + 2) GaugeProps.record.start := by
  simp only [Record.Taken, record, List.forall_mem_cons]
  have hend : real.Takes (depth + 2) GaugeProps.record.start.endAngle :=
    real_takes_iff.mpr (Binary64.isFinite_neg (Binary64.isFinite_literal 45 (by decide)))
  exact ⟨optional_takes_none, real_takes_literal _ (by decide), real_takes_literal _ (by decide),
    optional_takes_none, optional_takes_none, list_takes_nil, optional_takes_none,
    optional_takes_none, count_takes _, real_takes_literal _ (by decide), hend,
    real_takes_literal _ (by decide), bool_takes _, bool_takes _, List.forall_mem_nil _⟩

theorem GaugeProps.format_reproduces : GaugeProps.record.format.Reproduces (depth + 3) := by
  refine Record.Lawful.reproduces GaugeProps.record_lawful GaugeProps.taken_start ?_
  simp only [record, List.forall_mem_cons]
  exact ⟨always_reproduces optional_real_reproduces, always_reproduces real_reproduces,
    always_reproduces real_reproduces, always_reproduces optional_text_reproduces,
    always_reproduces optional_text_reproduces,
    always_reproduces (list_reproduces Zone.format_reproduces),
    always_reproduces (optional_reproduces coloring_reproduces coloring_neverNull),
    always_reproduces optional_text_reproduces, always_reproduces count_reproduces,
    always_reproduces real_reproduces, always_reproduces real_reproduces,
    always_reproduces real_reproduces, always_reproduces bool_reproduces,
    always_reproduces bool_reproduces, List.forall_mem_nil _⟩

end Parts

namespace Props

open Charting.Field Charting.Format

variable {depth : Nat}

theorem record_lawful : record.Lawful where
  keys_nodup := by decide
  get_set := by simp [record, always]
  -- There are so many pairs of fields that a search for other lemmas would take long.
  independent := by
    simp only [record, List.pairwise_cons, List.forall_mem_cons, independent_always_iff,
      implies_true, and_self, List.not_mem_nil, IsEmpty.forall_iff, List.Pairwise.nil]
  ext := by
    rintro ⟨⟩ ⟨⟩
    simp +contextual only [record, always, List.forall_mem_cons, implies_true]

theorem taken_start : record.Taken (depth + 3) record.start := by
  simp only [Record.Taken, record, List.forall_mem_cons]
  exact ⟨named_takes Theme.names_nodup List.mem_cons_self, scheme_takes _, optional_takes_none,
    named_takes Target.names_nodup List.mem_cons_self, bool_takes _,
    named_takes LegendPosition.names_nodup List.mem_cons_self, Switch.format_takes_on,
    Switch.format_takes_on, bool_takes _, optional_takes_none, optional_takes_none, bool_takes _,
    bool_takes _, bool_takes _, optional_takes_none, bool_takes _, optional_takes_none,
    optional_takes_none, text_takes _, Record.format_takes_start rfl _,
    Record.format_takes_start rfl _, Record.format_takes_start rfl _,
    Record.format_takes_start rfl _, Record.format_takes_start rfl _,
    Record.format_takes_start rfl _, Extensions.format_takes_empty, List.forall_mem_nil _⟩

/-- **Properties are reproduced from any depth that leaves room for their parts.** -/
theorem format_reproduces : format.Reproduces (depth + 4) := by
  refine Record.Lawful.reproduces record_lawful taken_start ?_
  simp only [record, List.forall_mem_cons]
  exact ⟨always_reproduces (named_reproduces Theme.names_nodup),
    always_reproduces scheme_reproduces,
    always_reproduces (optional_reproduces (list_reproduces text_reproduces) list_neverNull),
    always_reproduces (named_reproduces Target.names_nodup), always_reproduces bool_reproduces,
    always_reproduces (named_reproduces LegendPosition.names_nodup),
    always_reproduces (Switch.format_reproduces_record GridSettings.format_reproduces),
    always_reproduces (Switch.format_reproduces_record TooltipSettings.format_reproduces),
    always_reproduces bool_reproduces, always_reproduces optional_text_reproduces,
    always_reproduces optional_text_reproduces, always_reproduces bool_reproduces,
    always_reproduces bool_reproduces, always_reproduces bool_reproduces,
    always_reproduces optional_bool_reproduces, always_reproduces bool_reproduces,
    always_reproduces optional_dimension_reproduces,
    always_reproduces optional_dimension_reproduces, always_reproduces text_reproduces,
    always_reproduces BarProps.format_reproduces, always_reproduces AreaProps.format_reproduces,
    always_reproduces PieProps.format_reproduces, always_reproduces RadarProps.format_reproduces,
    always_reproduces ScatterProps.format_reproduces,
    always_reproduces GaugeProps.format_reproduces,
    always_reproduces Extensions.format_reproduces, List.forall_mem_nil _⟩

end Props
end Charting
