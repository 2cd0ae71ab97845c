import Charting.Proofs.RoundTrip.Format
import Mathlib.Data.List.Pairwise

/-! # Records that reproduce their values

The fields of a lawful record are independent: each holds what was entered into it last, and nothing
else.  So the value of a field in a record that was read was read itself, or else it is the one with
which reading started (`Record.Lawful.taken_of_format_takes`); and members that say the same as some
record, in whatever order, are read as this record (`Record.Lawful.decode_object_eq`).  A member may
also be missing, if reading starts with the value of its field; so a record survives being written
and read if each of its fields does (`Record.Lawful.restores`).
-/
namespace Charting

variable {σ : Type}

/-! ## Fields -/

namespace Field

/-- The value of a field in a record is one that is read from JSON of some depth. -/
def Takes (f : Field σ) (depth : Nat) (s : σ) : Prop :=
  ∃ j, j.IsRead depth ∧ f.decode j = .ok (f.get s)

/-- A value that was read is always written, within the depth from which it was read, and it is read
back. -/
def Reproduces (f : Field σ) (depth : Nat) : Prop :=
  ∀ {s}, f.Takes depth s → ∃ j, f.write s = some j ∧ j.nesting ≤ depth ∧
    f.decode j.sortMembers = .ok (f.get s)

/-- How the value of the field in a record gets through JSON of some depth: it is written and read
back, or it is left out and reading starts with it. -/
inductive Survives (f : Field σ) (depth : Nat) (start s : σ) : Prop
  | written {j : Json} (write : f.write s = some j) (nesting : j.nesting ≤ depth)
    (decode : f.decode j.sortMembers = .ok (f.get s)) : Survives f depth start s
  | omitted (write : f.write s = none) (same : f.get start = f.get s) : Survives f depth start s

/-- Entering the value of one field does not change that of the other. -/
def Independent (f g : Field σ) : Prop :=
  (∀ a s, f.get (g.set a s) = f.get s) ∧ ∀ a s, g.get (f.set a s) = g.get s

instance : Std.Symm (@Independent σ) := ⟨fun _ _ h => ⟨h.2, h.1⟩⟩

section Survives

variable {f : Field σ} {depth : Nat} {start s : σ} {j : Json}

/-- What is written of a field that survives is as it should be. -/
theorem Survives.nesting (h : f.Survives depth start s) (hj : f.write s = some j) :
    j.nesting ≤ depth := by
  cases h with
  | written write nesting decode =>
    obtain rfl := Option.some.inj (write.symm.trans hj)
    exact nesting
  | omitted write same => cases write.symm.trans hj

theorem Survives.decode (h : f.Survives depth start s) (hj : f.write s = some j) :
    f.decode j.sortMembers = .ok (f.get s) := by
  cases h with
  | written write nesting decode =>
    obtain rfl := Option.some.inj (write.symm.trans hj)
    exact decode
  | omitted write same => cases write.symm.trans hj

end Survives

section Always

variable {α : Type} {key : String} {f : Format α} {get : σ → α} {set : α → σ → σ} {depth : Nat}

theorem always_takes_iff {s : σ} :
    (always key f get set).Takes depth s ↔ f.Takes depth (get s) := Iff.rfl

theorem always_reproduces (hf : f.Reproduces depth) : (always key f get set).Reproduces depth :=
  fun {s} taken => ⟨f.encode (get s), rfl, hf.nesting taken, hf.roundTrips taken⟩

theorem always_survives {start s : σ} (h : f.Restores depth (get s)) :
    (always key f get set).Survives depth start s :=
  .written rfl h.nesting h.roundTrips

theorem independent_always_iff {β : Type} {key' : String} {g : Format β} {get' : σ → β}
    {set' : β → σ → σ} :
    Independent (always key f get set) (always key' g get' set') ↔
      (∀ a s, get (set' a s) = get s) ∧ ∀ a s, get' (set a s) = get' s := Iff.rfl

end Always

section Omittable

variable {α : Type} {key : String} {f : Format α} {get : σ → Option α} {set : Option α → σ → σ}
  {depth : Nat}

theorem omittable_takes_iff {s : σ} :
    (omittable key f get set).Takes depth s ↔ f.optional.Takes depth (get s) := Iff.rfl

/-- A value that is left out is missing from the start, and one that is given must not be written
like one that is missing. -/
theorem omittable_survives {start s : σ} (hstart : get start = none) (hf : f.Reproduces depth)
    (hnull : f.NeverNull) (taken : ∀ a, get s = some a → f.Takes depth a) :
    (omittable key f get set).Survives depth start s := by
  cases ha : get s with
  | none =>
    refine .omitted ?_ (hstart.trans ha.symm)
    change (get s).map f.encode = none
    rw [ha, Option.map_none]
  | some a =>
    have hgiven := taken a ha
    have hne : (f.encode a).sortMembers ≠ .null :=
      mt Json.sortMembers_eq_null_iff.mp (hnull hgiven)
    refine .written (j := f.encode a) ?_ (hf.nesting hgiven) ?_
    · change (get s).map f.encode = _
      rw [ha, Option.map_some]
    · change f.optional.decode _ = .ok (get s)
      rw [Format.optional_decode hne, hf.roundTrips hgiven, ha]
      rfl

end Omittable

end Field

/-! ## Records -/

namespace Record

/-- The fields of a record have keys of their own, do not depend on each other and make up the
record. -/
structure Lawful (r : Record σ) : Prop where
  keys_nodup : (r.fields.map (·.key)).Nodup
  get_set : ∀ f ∈ r.fields, ∀ a s, f.get (f.set a s) = a
  independent : r.fields.Pairwise Field.Independent
  ext : ∀ s t, (∀ f ∈ r.fields, f.get s = f.get t) → s = t

/-- Every field has a value that was read. -/
def Taken (r : Record σ) (depth : Nat) (s : σ) : Prop := ∀ f ∈ r.fields, f.Takes depth s

/-- A member says what a record has in the field of its key. -/
def Says (r : Record σ) (s : σ) (m : String × Json) : Prop :=
  ∃ f ∈ r.fields, f.key = m.1 ∧ f.decode m.2 = .ok (f.get s)

/-- The members with which a record is written. -/
def written (r : Record σ) (s : σ) : List (String × Json) :=
  r.fields.filterMap fun f => (f.write s).map fun j => (f.key, j)

section Written

variable {r : Record σ} {s : σ}

theorem mem_written_iff {m : String × Json} :
    m ∈ r.written s ↔ ∃ f ∈ r.fields, f.write s = some m.2 ∧ f.key = m.1 := by
  obtain ⟨key, j⟩ := m
  simp only [written, List.mem_filterMap, Option.map_eq_some_iff, Prod.mk.injEq]
  constructor
  · rintro ⟨f, hf, j', hj', rfl, rfl⟩
    exact ⟨f, hf, hj', rfl⟩
  · rintro ⟨f, hf, hj', rfl⟩
    exact ⟨f, hf, j, hj', rfl, rfl⟩

/-- The keys that are written are those of fields, in their order. -/
theorem keys_written_sublist : ((r.written s).map (·.1)).Sublist (r.fields.map (·.key)) := by
  unfold written
  induction r.fields with
  | nil => exact .slnil
  | cons f rest ih =>
    cases hf : f.write s with
    | none => simpa [hf] using ih.cons f.key
    | some j => simpa [hf] using ih.cons_cons f.key

theorem mem_keys_written {f : Field σ} (hf : f ∈ r.fields) {j : Json} (h : f.write s = some j) :
    f.key ∈ (r.written s).map (·.1) :=
  List.mem_map.mpr ⟨(f.key, j), mem_written_iff.mpr ⟨f, hf, h, rfl⟩, rfl⟩

end Written

/-- A record is written as an object. -/
theorem sortMembers_encode_ne_bool {r : Record σ} (s : σ) (b : Bool) :
    (r.format.encode s).sortMembers ≠ .bool b := by
  intro h
  cases h

/-- Nothing at all is read as the starting record if no field has to be there. -/
theorem format_takes_start {r : Record σ} (hneeded : r.needed = 0) (depth : Nat) :
    r.format.Takes (depth + 1) r.start := by
  refine ⟨.object [], Json.isRead_object_iff.mpr ⟨.nil, List.forall_mem_nil _⟩, ?_⟩
  refine bind_eq_ok_iff.mpr ⟨r.start, rfl, if_pos ?_⟩
  rw [hasNeeded, hneeded]
  rfl

namespace Lawful

variable {r : Record σ} {f g : Field σ} {depth : Nat}

theorem eq_of_key_eq (hr : r.Lawful) (hf : f ∈ r.fields) (hg : g ∈ r.fields)
    (h : f.key = g.key) : f = g := List.inj_on_of_nodup_map hr.keys_nodup hf hg h

/-- Entering a value into a field does not change those of other fields. -/
theorem get_set_of_ne (hr : r.Lawful) (hf : f ∈ r.fields) (hg : g ∈ r.fields) (hne : f ≠ g)
    (a : g.Value) (s : σ) : f.get (g.set a s) = f.get s :=
  (hr.independent.forall hf hg hne).1 a s

/-! ### Reading -/

/-- Reading one more field keeps all values ones that were read. -/
theorem taken_read (hr : r.Lawful) {s s' : σ} {j : Json} (hs : r.Taken depth s)
    (hg : g ∈ r.fields) (hj : j.IsRead depth) (h : g.read j s = .ok s') : r.Taken depth s' := by
  obtain ⟨a, ha, rfl⟩ := map_eq_ok_iff.mp h
  intro f hf
  by_cases hfg : f = g
  · subst hfg
    exact ⟨j, hj, by rw [hr.get_set f hf]; exact ha⟩
  · obtain ⟨j', hj', hdecode⟩ := hs f hf
    exact ⟨j', hj', by rw [hr.get_set_of_ne hf hg hfg]; exact hdecode⟩

theorem taken_readMember (hr : r.Lawful) {s s' : σ} {m : String × Json} (hs : r.Taken depth s)
    (hm : m.2.IsRead depth) (h : r.readMember s m = .ok s') : r.Taken depth s' := by
  unfold readMember at h
  split at h
  · exact hr.taken_read hs (List.mem_of_find?_eq_some ‹_›) hm h
  · cases h; exact hs

theorem taken_foldlM (hr : r.Lawful) {members : List (String × Json)} :
    ∀ {s s' : σ}, r.Taken depth s → (∀ m ∈ members, m.2.IsRead depth) →
      members.foldlM r.readMember s = .ok s' → r.Taken depth s' := by
  induction members with
  | nil =>
    intro s s' hs _ h
    cases h
    exact hs
  | cons m rest ih =>
    intro s s' hs hread h
    rw [List.forall_mem_cons] at hread
    obtain ⟨t, hm, hrest⟩ := bind_eq_ok_iff.mp h
    exact ih (hr.taken_readMember hs hread.1 hm) hread.2 hrest

theorem taken_readItems (hr : r.Lawful) {items : List Json} :
    ∀ {fields : List (Field σ)} {s s' : σ}, (∀ f ∈ fields, f ∈ r.fields) → r.Taken depth s →
      (∀ j ∈ items, j.IsRead depth) → readItems fields items s = .ok s' → r.Taken depth s' := by
  induction items with
  | nil =>
    intro fields s s' _ hs _ h
    rw [readItems] at h
    cases h
    exact hs
  | cons j rest ih =>
    intro fields s s' hfields hs hread h
    rw [List.forall_mem_cons] at hread
    cases fields with
    | nil => cases h
    | cons f fields =>
      rw [List.forall_mem_cons] at hfields
      obtain ⟨t, hf, hrest⟩ := bind_eq_ok_iff.mp h
      exact ih hfields.2 (hr.taken_read hs hfields.1 hread.1 hf) hread.2 hrest

/-- **The values of all fields of a record that was read were read themselves.** -/
theorem taken_of_format_takes (hr : r.Lawful) (hstart : r.Taken depth r.start) {s : σ}
    (h : r.format.Takes (depth + 1) s) :
    r.Taken depth s := by
  obtain ⟨j, hj, hdecode⟩ := h
  change r.decode j = .ok s at hdecode
  cases j with
  | object members =>
    obtain ⟨t, hfold, hneeded⟩ := bind_eq_ok_iff.mp hdecode
    split at hneeded
    · cases hneeded
      exact hr.taken_foldlM hstart (Json.isRead_object_iff.mp hj).2 hfold
    · cases hneeded
  | array items =>
    obtain ⟨t, hitems, hneeded⟩ := bind_eq_ok_iff.mp hdecode
    split at hneeded
    · cases hneeded
      exact hr.taken_readItems (fun _ hf => hf) hstart (Json.isRead_array_iff.mp hj) hitems
    · cases hneeded
  | null | bool | number | string => cases hdecode

/-! ### Reading back -/

/-- Members that say the same as a record are entered without fault.  Afterwards the fields of their
keys agree with it, and those that agreed before still do. -/
theorem foldlM_readMember (hr : r.Lawful) {s : σ} {members : List (String × Json)} :
    ∀ {t : σ}, (∀ m ∈ members, r.Says s m) → ∃ t', members.foldlM r.readMember t = .ok t' ∧
      ∀ f ∈ r.fields, f.get t = f.get s ∨ f.key ∈ members.map (·.1) → f.get t' = f.get s := by
  induction members with
  | nil =>
    intro t _
    exact ⟨t, rfl, by simp⟩
  | cons m rest ih =>
    intro t hmembers
    rw [List.forall_mem_cons] at hmembers
    obtain ⟨⟨g, hg, hkey, hdecode⟩, hrest⟩ := hmembers
    have hm : r.readMember t m = .ok (g.set (g.get s) t) := by
      have hfound : r.fields.find? (fun f => f.key == m.1) = some g :=
        (find?_key_eq_some_iff hr.keys_nodup).mpr ⟨hg, hkey⟩
      rw [readMember, hfound]
      exact map_eq_ok_iff.mpr ⟨_, hdecode, rfl⟩
    obtain ⟨t', hfold, hagree⟩ := ih (t := g.set (g.get s) t) hrest
    refine ⟨t', by rw [List.foldlM_cons, hm]; exact hfold, fun f hf h => hagree f hf ?_⟩
    by_cases hfg : f = g
    · subst hfg
      exact .inl (hr.get_set f hf _ _)
    · rw [hr.get_set_of_ne hf hg hfg]
      rcases h with h | h
      · exact .inl h
      · rw [List.map_cons, List.mem_cons] at h
        rcases h with h | h
        · exact absurd (hr.eq_of_key_eq hf hg (h.trans hkey.symm)) hfg
        · exact .inr h

/-- Members that say the same as a record, with one for each field that has to be there or does not
have its value from the start, are read as this record. -/
theorem decode_object_eq (hr : r.Lawful) {s : σ} {members : List (String × Json)}
    (hmembers : ∀ m ∈ members, r.Says s m)
    (hcovered : ∀ f ∈ r.fields, f.get r.start = f.get s ∨ f.key ∈ members.map (·.1))
    (hneeded : ∀ f ∈ r.fields.take r.needed, f.key ∈ members.map (·.1)) :
    r.decode (.object members) = .ok s := by
  obtain ⟨t, hfold, hagree⟩ := hr.foldlM_readMember (t := r.start) hmembers
  obtain rfl : t = s := hr.ext t s fun f hf => hagree f hf (hcovered f hf)
  have hall : r.hasNeeded members = true := by
    rw [hasNeeded, List.all_eq_true]
    intro f hf
    obtain ⟨m, hm, hkey⟩ := List.mem_map.mp (hneeded f hf)
    exact List.any_eq_true.mpr ⟨m, hm, by simp [hkey]⟩
  exact bind_eq_ok_iff.mpr ⟨t, hfold, if_pos hall⟩

/-- **A record is restored if its fields survive**, and none is left out that has to be there. -/
theorem restores (hr : r.Lawful) {s : σ} (hfields : ∀ f ∈ r.fields, f.Survives depth r.start s)
    (hneeded : ∀ f ∈ r.fields.take r.needed, ∃ j, f.write s = some j) :
    r.format.Restores (depth + 1) s where
  nesting := by
    refine Json.nesting_object_le_iff.mpr fun m hm => ?_
    obtain ⟨f, hf, hm, -⟩ := mem_written_iff.mp hm
    exact (hfields f hf).nesting hm
  roundTrips := by
    have hperm : (Json.sortMemberList (r.written s) []).Perm ((r.written s).map Json.sortMember) :=
      Json.sortMemberList_nil_perm (hr.keys_nodup.sublist keys_written_sublist)
    have hkeys : ∀ f ∈ r.fields, (∃ j, f.write s = some j) →
        f.key ∈ (Json.sortMemberList (r.written s) []).map (·.1) := by
      rintro f hf ⟨j, hj⟩
      rw [(hperm.map _).mem_iff, List.map_map]
      exact mem_keys_written hf hj
    change r.decode (.object (Json.sortMemberList (r.written s) [])) = .ok s
    refine hr.decode_object_eq ?_ ?_ fun f hf => hkeys f (List.mem_of_mem_take hf) (hneeded f hf)
    · intro m hm
      obtain ⟨m', hm', rfl⟩ := List.mem_map.mp (hperm.mem_iff.mp hm)
      obtain ⟨f, hf, hm', hkey⟩ := mem_written_iff.mp hm'
      exact ⟨f, hf, hkey, (hfields f hf).decode hm'⟩
    · intro f hf
      cases hfields f hf with
      | written write nesting decode => exact .inr (hkeys f hf ⟨_, write⟩)
      | omitted write same => exact .inl same

/-- **A lawful record reproduces its values if its fields do.** -/
theorem reproduces (hr : r.Lawful) (hstart : r.Taken depth r.start)
    (hfields : ∀ f ∈ r.fields, f.Reproduces depth) :
    r.format.Reproduces (depth + 1) := by
  have hrestores : ∀ {s}, r.format.Takes (depth + 1) s → r.format.Restores (depth + 1) s := by
    intro s taken
    have hwritten : ∀ f ∈ r.fields, ∃ j, f.write s = some j ∧ j.nesting ≤ depth ∧
        f.decode j.sortMembers = .ok (f.get s) :=
      fun f hf => hfields f hf (hr.taken_of_format_takes hstart taken f hf)
    refine hr.restores ?_ ?_
    · intro f hf
      obtain ⟨j, write, nesting, decode⟩ := hwritten f hf
      exact .written write nesting decode
    · intro f hf
      obtain ⟨j, write, -⟩ := hwritten f (List.mem_of_mem_take hf)
      exact ⟨j, write⟩
  exact ⟨fun taken => (hrestores taken).nesting, fun taken => (hrestores taken).roundTrips⟩

end Lawful
end Record

/-- The settings of a switch are written as an object, unlike a switch without settings. -/
theorem Switch.format_reproduces_record {r : Record σ} {depth : Nat}
    (hr : r.format.Reproduces depth) : (Switch.format r.format).Reproduces depth :=
  format_reproduces hr Record.sortMembers_encode_ne_bool

end Charting
