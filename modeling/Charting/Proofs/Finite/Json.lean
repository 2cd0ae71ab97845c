import Charting.Proofs.RoundTrip.Nesting

/-! # JSON without `null`

A number that is not finite is written as `null`, for JSON has no other word for it.  A value is
*free of null* if that happened nowhere in it (`Json.NullFree`), and sorting its members does not
change this.  Nothing else is ever written as `null`: what is missing is left out.
-/
namespace Charting

open Number

namespace Json

/-- There is no `null` in the value, however deep. -/
inductive NullFree : Json → Prop
  | bool (b : Bool) : NullFree (bool b)
  | number (n : JsonNumber) : NullFree (number n)
  | string (s : String) : NullFree (string s)
  | array {items : List Json} (items_free : ∀ j ∈ items, NullFree j) : NullFree (array items)
  | object {members : List (String × Json)} (values_free : ∀ m ∈ members, NullFree m.2) :
    NullFree (object members)

attribute [simp] NullFree.bool NullFree.string

/-! ## Parts -/

@[simp] theorem nullFree_array_iff {items : List Json} :
    (array items).NullFree ↔ ∀ j ∈ items, j.NullFree := by
  constructor
  · intro h
    cases h with
    | array items_free => exact items_free
  · exact .array

theorem nullFree_object_iff {members : List (String × Json)} :
    (object members).NullFree ↔ ∀ m ∈ members, m.2.NullFree := by
  constructor
  · intro h
    cases h with
    | object values_free => exact values_free
  · exact .object

/-- Numbers are the only source of `null`. -/
@[simp] theorem nullFree_ofBinary64_iff {x : Binary64} :
    (ofBinary64 x).NullFree ↔ x.isFinite = true := by
  unfold ofBinary64
  split
  · exact iff_of_true (.number _) ‹_›
  · refine iff_of_false (fun hnull => ?_) ‹_›
    cases hnull

theorem nullFree_ofNat {n : Nat} (h : FitsWord n) : (ofNat n).NullFree := by
  rw [ofNat, dif_pos h]
  exact .number _

@[simp] theorem nullFree_ofStrings (texts : List String) : (ofStrings texts).NullFree := by
  simp [ofStrings]

/-- A member, if it is there, has a value without `null`. -/
def MemberNullFree (m : Option (String × Json)) : Prop := ∀ v ∈ m, v.2.NullFree

section

variable {key : String}

@[simp] theorem memberNullFree_none : MemberNullFree none := nofun

@[simp] theorem memberNullFree_member {j : Json} :
    MemberNullFree (member key j) ↔ j.NullFree := forall_mem_member

@[simp] theorem memberNullFree_memberIf {α : Type} {a? : Option α} {encode : α → Json} :
    MemberNullFree (memberIf key a? encode) ↔ ∀ a ∈ a?, (encode a).NullFree :=
  forall_mem_memberIf

@[simp] theorem memberNullFree_ite {c : Prop} [Decidable c] {m : Option (String × Json)} :
    MemberNullFree (if c then m else none) ↔ (c → MemberNullFree m) := by
  split <;> simp [*]

end

@[simp] theorem nullFree_ofMembers_iff {members : List (Option (String × Json))} :
    (ofMembers members).NullFree ↔ ∀ m ∈ members, MemberNullFree m := by
  rw [ofMembers, nullFree_object_iff]
  simp only [List.mem_filterMap, id_eq, MemberNullFree, Option.mem_def]
  constructor
  · exact fun h m hm v hv => h v ⟨m, hm, hv⟩
  · rintro h v ⟨m, hm, hv⟩
    exact h m hm v hv

/-! ## Sorting -/

/-- Every sorted member was there before, or is one of those that were entered. -/
theorem mem_sortMemberList {members sorted : List (String × Json)} {m : String × Json}
    (h : m ∈ sortMemberList members sorted) : m ∈ sorted ∨ m ∈ members.map sortMember := by
  induction members generalizing sorted with
  | nil => exact .inl h
  | cons first rest ih =>
    rw [List.map_cons, List.mem_cons]
    rcases ih h with h | h
    · rcases mem_insertMember h with rfl | h
      · exact .inr (.inl rfl)
      · exact .inl h
    · exact .inr (.inr h)

theorem NullFree.sortMembers {j : Json} (h : j.NullFree) : j.sortMembers.NullFree := by
  induction h with
  | bool b => exact .bool b
  | number n => exact .number n
  | string s => exact .string s
  | @array items _ ih =>
    change (Json.array (sortItems items)).NullFree
    rw [sortItems_eq_map]
    exact .array (List.forall_mem_map.mpr ih)
  | @object members _ ih =>
    refine .object fun m hm => ?_
    rcases mem_sortMemberList hm with hm | hm
    · cases hm
    · obtain ⟨m', hm', rfl⟩ := List.mem_map.mp hm
      exact ih m' hm'

end Json
end Charting
