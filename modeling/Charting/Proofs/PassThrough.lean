import Charting.Json.Shape
import Charting.Proofs.Outcome
import Charting.Proofs.RoundTrip.Json
import Charting.Proofs.Validation
import Charting.Proofs.ZeroSign.Compile

/-! # Extensions are passed through

The members of an option are its own, under the keys that belong to the library, and behind them
the extensions of the host.  The keys of the library are distinct and its own members come in their
order (`ChartOption.members_aligned`); so as long as no extension has one of these keys, no key is
repeated, and the value of every key can be looked up in the part to which it belongs.

Compiling hands the extensions on and does not look at them otherwise: without them it comes to the
same option less its extensions (`Compiled.withoutExtensions`).
-/
namespace Charting

namespace Json

/-- An object has exactly the members of another object and some more, and no key twice. -/
def IsDisjointUnion (j part : Json) (others : List (String × Json)) : Prop :=
  ∃ members own, j = .object members ∧ part = .object own ∧ members.Perm (own ++ others) ∧
    (members.map (·.1)).Nodup

/-- Members that may be missing, each under its own one of some keys. -/
def Aligned (keys : List String) (members : List (Option (String × Json))) : Prop :=
  List.Forall₂ (fun key m => ∀ v ∈ m, v.1 = key) keys members

variable {keys : List String} {members : List (Option (String × Json))}

theorem Aligned.sublist (h : Aligned keys members) :
    ((members.filterMap id).map (·.1)).Sublist keys := by
  induction h with
  | nil => exact .slnil
  | @cons key m _ _ hm _ ih =>
    cases m with
    | none => exact .cons _ ih
    | some v =>
      change ((v :: _).map (·.1)).Sublist _
      rw [List.map_cons, hm v rfl]
      exact ih.cons_cons _

/-- Under each of the keys stands its member, if it is there. -/
theorem Aligned.lookup_eq (h : Aligned keys members) (hkeys : keys.Nodup) :
    ∀ row ∈ keys.zip members, lookup row.1 (members.filterMap id) = row.2.map (·.2) := by
  induction h with
  | nil => nofun
  | @cons key m keys members hm h ih =>
    rw [List.nodup_cons] at hkeys
    have hrest : key ∉ (members.filterMap id).map (·.1) :=
      fun hmem => hkeys.1 ((Aligned.sublist h).subset hmem)
    rw [List.zip_cons_cons, List.forall_mem_cons]
    cases m with
    | none => exact ⟨lookup_eq_none_iff.mpr hrest, ih hkeys.2⟩
    | some v =>
      obtain rfl : v.1 = key := hm v rfl
      refine ⟨?_, fun row hrow => ?_⟩
      · change lookup v.1 ([v] ++ members.filterMap id) = some v.2
        rw [lookup_append_of_notMem hrest]
        simp [lookup]
      · have hne : v.1 ≠ row.1 := fun heq => hkeys.1 (heq ▸ (List.of_mem_zip hrow).1)
        change lookup row.1 (v :: members.filterMap id) = _
        rw [lookup_cons_of_ne hne]
        exact ih hkeys.2 row hrow

end Json

namespace Extensions

variable {e : Extensions} {key : String}

theorem get?_eq_none_iff : e.get? key = none ↔ key ∉ e.entries.map (·.1) := by
  rw [get?, Option.map_eq_none_iff, List.find?_eq_none]
  simp only [beq_iff_eq, List.mem_map, not_exists, not_and]

theorem get?_eq_some_iff {j : Json} : e.get? key = some j ↔ (key, j) ∈ e.entries := by
  rw [get?, Option.map_eq_some_iff]
  simp only [find?_key_eq_some_iff e.distinct]
  constructor
  · rintro ⟨⟨k, v⟩, ⟨hmem, rfl⟩, rfl⟩
    exact hmem
  · intro hmem
    exact ⟨(key, j), ⟨hmem, rfl⟩, rfl⟩

end Extensions

namespace ChartOption

open Json (member memberIf)

/-- The members that the library writes, less those that are missing. -/
def own (o : ChartOption) : List (String × Json) := o.members.filterMap id

/-- The parts of an option by their keys, and whether the option has them. -/
def parts (o : ChartOption) : List (String × Bool) := [
  ("color", true),
  ("backgroundColor", true),
  ("animation", true),
  ("textStyle", true),
  ("title", o.title.isSome),
  ("tooltip", o.tooltip.isSome),
  ("legend", o.legend.isSome),
  ("grid", o.grid.isSome),
  ("xAxis", o.xAxis.isSome),
  ("yAxis", o.yAxis.isSome),
  ("radar", o.radar.isSome),
  ("dataZoom", o.dataZoom.isSome),
  ("series", true)]

/-- No extension has the key of a part. -/
def HasOwnKeys (o : ChartOption) : Prop := ∀ key ∈ o.extensions.entries.map (·.1), key ∉ keys

theorem keys_nodup : keys.Nodup := by decide

variable (o : ChartOption)

theorem members_aligned : Json.Aligned keys o.members := by
  simp only [Json.Aligned, keys, members, List.forall₂_cons, Json.forall_mem_member,
    Json.forall_mem_memberIf, implies_true, true_and]
  exact .nil

theorem parts_eq : o.parts = (keys.zip o.members).map fun row => (row.1, row.2.isSome) := by
  simp [parts, keys, members, member, memberIf]

/-- The library writes no part as `null`. -/
theorem ne_null_of_mem : ∀ m ∈ o.members, ∀ v ∈ m, v.2 ≠ .null := by
  simp only [members, List.forall_mem_cons, Json.forall_mem_member, Json.forall_mem_memberIf]
  -- Every part is an array or object, or a plain value.
  simp [Json.ofMembers, Json.ofStrings, TextStyle.toJson, Title.toJson, Tooltip.toJson,
    Legend.toJson, Grid.toJson, Axis.toJson, RadarFrame.toJson]

variable {o}

theorem nodup_keys (h : o.HasOwnKeys) :
    ((o.own ++ o.extensions.entries).map (·.1)).Nodup := by
  rw [List.map_append, List.nodup_append]
  refine ⟨o.members_aligned.sublist.nodup keys_nodup, o.extensions.distinct, ?_⟩
  rintro key hkey _ hextension rfl
  exact h key hextension (o.members_aligned.sublist.subset hkey)

/-- Extensions are looked up before the library's own members, which have other keys. -/
theorem get?_value (h : o.HasOwnKeys) (key : String) : o.value.get? key =
    ((o.extensions.get? key).or (Json.lookup key o.own)).map Json.sortMembers := by
  change (Json.object (o.own ++ o.extensions.entries)).sortMembers.get? key = _
  rw [Json.get?_sortMembers (nodup_keys h)]
  congr 1
  cases hget : o.extensions.get? key with
  | none =>
    rw [Option.none_or, Json.lookup_append_of_notMem]
    exact Extensions.get?_eq_none_iff.mp hget
  | some j =>
    rw [Option.some_or, Json.lookup_eq_some_iff (nodup_keys h)]
    exact List.mem_append_right _ (Extensions.get?_eq_some_iff.mp hget)

/-- The members of the value, in another order. -/
theorem exists_value_eq (h : o.HasOwnKeys) : ∃ members, o.value = .object members ∧
    (members.map (·.1)).Nodup ∧
    members.Perm ((o.own ++ o.extensions.entries).map Json.sortMember) :=
  ⟨_, rfl, Json.nodup_keys_sortMemberList, Json.sortMemberList_nil_perm (nodup_keys h)⟩

theorem get?_value_own (h : o.HasOwnKeys) {row : String × Option (String × Json)}
    (hrow : row ∈ keys.zip o.members) :
    o.value.get? row.1 = row.2.map fun v => v.2.sortMembers := by
  have hnone : o.extensions.get? row.1 = none :=
    Extensions.get?_eq_none_iff.mpr fun hmem => h _ hmem (List.of_mem_zip hrow).1
  rw [get?_value h, hnone, Option.none_or, own, o.members_aligned.lookup_eq keys_nodup row hrow,
    Option.map_map]
  rfl

/-- **A part that is there has a value that is not `null`, and there is no key of any other
part.** -/
theorem get?_value_part (h : o.HasOwnKeys) : ∀ part ∈ o.parts,
    (o.value.get? part.1).isSome = part.2 ∧ o.value.get? part.1 ≠ some .null := by
  intro part hpart
  rw [parts_eq] at hpart
  obtain ⟨row, hrow, rfl⟩ := List.mem_map.mp hpart
  rw [get?_value_own h hrow]
  refine ⟨Option.isSome_map, ?_⟩
  rintro hnull
  obtain ⟨v, hv, hvnull⟩ := Option.map_eq_some_iff.mp hnull
  exact o.ne_null_of_mem _ (List.of_mem_zip hrow).2 v hv (Json.sortMembers_eq_null_iff.mp hvnull)

/-- **The text of an option does not repeat a key.** -/
theorem exists_parse_pretty (h : o.HasOwnKeys) : ∃ nodes,
    Json.Node.parse o.pretty = some (.object nodes) ∧ Json.Shape.distinctKeys nodes = true := by
  refine ⟨_, Json.Node.parse_pretty _, ?_⟩
  have hnodup := (nodup_keys h).map fun _ _ => Option.some.inj
  rw [List.map_map] at hnodup
  change decide _ = true
  rw [decide_eq_true_iff, Json.Node.map_pieceText_writtenMembers]
  exact hnodup

/-- The option without its extensions. -/
def withoutExtensions (o : ChartOption) : ChartOption := { o with extensions := {} }

/-- What extensions do to an option: they add members and change nothing else. -/
structure PassesThrough (o plain : ChartOption) (e : Extensions) : Prop where
  /-- The members of the plain option and the extensions together are those of the option. -/
  union : o.value.IsDisjointUnion plain.value (e.entries.map Json.sortMember)
  /-- Every extension has its value, whose members are sorted as those of every value are. -/
  extension : ∀ m ∈ e.entries, o.value.get? m.1 = some m.2.sortMembers
  /-- A value that is sorted, as all are that come from a text, is not changed at all. -/
  verbatim : ∀ m ∈ e.entries, m.2.IsSorted → o.value.get? m.1 = some m.2
  /-- Every other key has the value that it has without extensions. -/
  frame : ∀ key, key ∉ e.entries.map (·.1) → o.value.get? key = plain.value.get? key
  /-- Every other key that has a value is one of the library. -/
  reserved : ∀ key, key ∉ e.entries.map (·.1) → o.value.get? key ≠ none → key ∈ keys
  /-- No key occurs twice in the text. -/
  distinct : ∃ nodes, Json.Node.parse o.pretty = some (.object nodes) ∧
    Json.Shape.distinctKeys nodes = true
  /-- A part that the option does not have is left out and not written as `null`. -/
  parts : ∀ part ∈ o.parts, (o.value.get? part.1).isSome = part.2 ∧
    o.value.get? part.1 ≠ some .null

theorem passesThrough (h : o.HasOwnKeys) : o.PassesThrough o.withoutExtensions o.extensions := by
  have hplain : o.withoutExtensions.HasOwnKeys := nofun
  obtain ⟨members, hvalue, hnodup, hmembers⟩ := exists_value_eq h
  obtain ⟨own, hown, -, hperm⟩ := exists_value_eq hplain
  have hlibrary : own.Perm (o.own.map Json.sortMember) := by
    have hnil : o.withoutExtensions.extensions.entries = [] := rfl
    rw [hnil, List.append_nil] at hperm
    exact hperm
  have hextension : ∀ m ∈ o.extensions.entries, o.value.get? m.1 = some m.2.sortMembers := by
    intro m hm
    rw [get?_value h, Extensions.get?_eq_some_iff.mpr hm]
    rfl
  have hframe : ∀ key, key ∉ o.extensions.entries.map (·.1) →
      o.value.get? key = (Json.lookup key o.own).map Json.sortMembers := by
    intro key hkey
    rw [get?_value h, Extensions.get?_eq_none_iff.mpr hkey, Option.none_or]
  constructor
  case union =>
    refine ⟨members, own, hvalue, hown, hmembers.trans ?_, hnodup⟩
    rw [List.map_append]
    exact hlibrary.symm.append_right _
  case extension => exact hextension
  case verbatim =>
    intro m hm hsorted
    rw [hextension m hm, hsorted.sortMembers_eq]
  case frame =>
    intro key hkey
    rw [hframe key hkey, get?_value hplain]
    rfl
  case reserved =>
    intro key hkey hvalue
    rw [hframe key hkey, ne_eq, Option.map_eq_none_iff, Json.lookup_eq_none_iff,
      Classical.not_not] at hvalue
    exact o.members_aligned.sublist.subset hvalue
  case distinct => exact exists_parse_pretty h
  case parts => exact get?_value_part h

end ChartOption

/-! ## Compiling -/

/-- The properties without extensions. -/
def Props.withoutExtensions (p : Props) : Props := { p with extensions := {} }

theorem Props.IsValid.withoutExtensions {p : Props} (h : p.IsValid) :
    p.withoutExtensions.IsValid := { h with extensions := nofun }

namespace Compiled

variable {p : Props} {family : Family} {data : Option Data} {o : ChartOption}

/-- Extensions are handed on to the option and not looked at otherwise. -/
theorem withoutExtensions (h : Compiled p family data o) :
    Compiled p.withoutExtensions family data o.withoutExtensions := by
  cases h with
  | cartesian axes filled => exact .cartesian axes filled
  | pieOf round head filled => exact .pieOf round head filled
  | radar filled => exact .radar filled
  | gauge => exact .gauge

theorem hasOwnKeys (h : Compiled p family data o) (hvalid : p.IsValid) : o.HasOwnKeys := by
  rw [ChartOption.HasOwnKeys, h.extensions_eq]
  exact hvalid.extensions

end Compiled

/-- **Extensions add members to the option and never disturb it.**  With and without them there is
an option or there is none, and if there is one, its members are those that it has without them and
the extensions. -/
theorem compile_passesThrough {p : Props} (hvalid : p.validate = .ok ()) (family : Family)
    (data : Option Data) :
    (compile family data p = .ok none ∧ compile family data p.withoutExtensions = .ok none) ∨
      ∃ o plain, compile family data p = .ok (some o) ∧
        compile family data p.withoutExtensions = .ok (some plain) ∧
          o.PassesThrough plain p.extensions := by
  have hplain : p.withoutExtensions.validate = .ok () :=
    Props.validate_eq_ok_iff.mpr (Props.validate_eq_ok_iff.mp hvalid).withoutExtensions
  by_cases hnothing : NothingToPlot family data
  · exact .inl ⟨compile_eq_none_iff.mpr ⟨hvalid, hnothing⟩,
      compile_eq_none_iff.mpr ⟨hplain, hnothing⟩⟩
  · obtain ⟨o, ho⟩ := Compile.exists_compiled_iff.mpr hnothing
    refine .inr ⟨o, o.withoutExtensions, compile_eq_some_iff.mpr ⟨hvalid, ho⟩,
      compile_eq_some_iff.mpr ⟨hplain, ho.withoutExtensions⟩, ?_⟩
    rw [← ho.extensions_eq]
    exact ChartOption.passesThrough (ho.hasOwnKeys (Props.validate_eq_ok_iff.mp hvalid))

/-- Extensions of which one has a value with members that are not in their order. -/
def graphicExtensions : Extensions where
  entries := [
    ("graphic", .object [("type", .string "text"), ("left", .null)]),
    ("aria", .bool true)]
  distinct := by decide

theorem compile_passesThrough_graphic :
    ({ extensions := graphicExtensions } : Props).validate = .ok () ∧
      ((compile .gauge none { extensions := graphicExtensions } = .ok none ∧
          compile .gauge none ({ extensions := graphicExtensions } : Props).withoutExtensions =
            .ok none) ∨
        ∃ o plain, compile .gauge none { extensions := graphicExtensions } = .ok (some o) ∧
          compile .gauge none ({ extensions := graphicExtensions } : Props).withoutExtensions =
            .ok (some plain) ∧
          o.PassesThrough plain graphicExtensions) := by
  have hvalid : ({ extensions := graphicExtensions } : Props).IsValid := by decide +kernel
  have hok := Props.validate_eq_ok_iff.mpr hvalid
  exact ⟨hok, compile_passesThrough hok .gauge none⟩

end Charting
