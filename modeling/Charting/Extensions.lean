import Charting.Json.Basic

/-! # Extensions: members that a host adds to a chart

A host may add members of its own to the option of a chart.  Their order is kept; a key
occurs once, and setting it again keeps its place.  Two collections are equal if they have
the same members, in whatever order.
-/
namespace Charting

/-- Members with distinct keys, in the order in which the keys came. -/
structure Extensions where
  entries : List (String × Json) := []
  distinct : (entries.map (·.1)).Nodup := by exact List.nodup_nil

namespace Extensions

/-- Sets the value of a key, in its place or else at the end. -/
def set (key : String) (value : Json) : List (String × Json) → List (String × Json)
  | [] => [(key, value)]
  | (k, v) :: rest => if k = key then (key, value) :: rest else (k, v) :: set key value rest

/-- The keys after setting one: that one and those before. -/
theorem mem_keys_set {key : String} {value : Json} {entries : List (String × Json)}
    {k : String} :
    k ∈ (set key value entries).map (·.1) ↔ k = key ∨ k ∈ entries.map (·.1) := by
  induction entries with
  | nil => simp [set]
  | cons entry rest ih =>
    obtain ⟨l, v⟩ := entry
    unfold set
    by_cases h : l = key
    · subst h
      simp
    · rw [if_neg h, List.map_cons, List.mem_cons, ih, List.map_cons, List.mem_cons]
      exact or_left_comm

/-- Setting a key keeps the keys distinct. -/
theorem nodup_keys_set (key : String) (value : Json) {entries : List (String × Json)}
    (h : (entries.map (·.1)).Nodup) : ((set key value entries).map (·.1)).Nodup := by
  induction entries with
  | nil => simp [set]
  | cons entry rest ih =>
    obtain ⟨l, v⟩ := entry
    rw [List.map_cons, List.nodup_cons] at h
    unfold set
    by_cases hl : l = key
    · subst hl
      rw [if_pos rfl, List.map_cons, List.nodup_cons]
      exact h
    · rw [if_neg hl, List.map_cons, List.nodup_cons, mem_keys_set]
      refine ⟨?_, ih h.2⟩
      rintro (rfl | hmem)
      · exact hl rfl
      · exact h.1 hmem

/-- The collection with a member set. -/
def insert (e : Extensions) (key : String) (value : Json) : Extensions :=
  ⟨set key value e.entries, nodup_keys_set key value e.distinct⟩

/-- The collection of some members, set one after the other. -/
def ofMembers (members : List (String × Json)) : Extensions :=
  members.foldl (fun e m => e.insert m.1 m.2) {}

/-- The value of a key. -/
def get? (e : Extensions) (key : String) : Option Json :=
  (e.entries.find? (fun m => m.1 == key)).map (·.2)

instance : BEq Extensions where
  beq a b :=
    a.entries.length == b.entries.length &&
      a.entries.all fun m =>
        match b.get? m.1 with
        | some j => m.2 == j
        | none => false

end Extensions
end Charting
