import Charting.Json.Basic
import Mathlib.Data.List.Nodup
import Mathlib.Data.String.Basic

/-! # Sorted values

A value that was read from a text has the members of every object in the order of their keys, and
each key once: it is *sorted*.  `Json.sortMembers` brings a value into this form.  A value that is
sorted already stays as it is (`IsSorted.sortMembers_eq`), and an object whose keys are distinct
keeps its members, each with its value sorted, and only changes their order
(`sortMemberList_perm`).
-/
namespace Charting

/-- The first element with a key is the only one, if keys are not repeated. -/
theorem find?_key_eq_some_iff {α κ : Type*} [BEq κ] [LawfulBEq κ] {key : α → κ} {l : List α}
    (h : (l.map key).Nodup) {k : κ} {a : α} :
    l.find? (fun x => key x == k) = some a ↔ a ∈ l ∧ key a = k := by
  constructor
  · intro hfound
    exact ⟨List.mem_of_find?_eq_some hfound, by simpa using List.find?_some hfound⟩
  · rintro ⟨ha, rfl⟩
    cases hfound : l.find? (fun x => key x == key a) with
    | none => simpa using List.find?_eq_none.mp hfound a ha
    | some b =>
      have hkey : key b = key a := by simpa using List.find?_some hfound
      rw [List.inj_on_of_nodup_map h (List.mem_of_find?_eq_some hfound) ha hkey]

namespace Json

/-- Every object has its members in the order of their keys, each key once. -/
inductive IsSorted : Json → Prop
  | null : IsSorted null
  | bool (b : Bool) : IsSorted (bool b)
  | number (n : JsonNumber) : IsSorted (number n)
  | string (s : String) : IsSorted (string s)
  | array {items : List Json} (items_sorted : ∀ j ∈ items, IsSorted j) : IsSorted (array items)
  | object {members : List (String × Json)} (keys : (members.map (·.1)).Pairwise (· < ·))
    (values : ∀ m ∈ members, IsSorted m.2) : IsSorted (object members)

/-- A member with its value sorted. -/
def sortMember (m : String × Json) : String × Json := (m.1, m.2.sortMembers)

theorem sortMembers_number (n : JsonNumber) : (number n).sortMembers = number n := rfl

theorem sortMembers_string (s : String) : (string s).sortMembers = string s := rfl

theorem sortMembers_eq_null_iff {j : Json} : j.sortMembers = null ↔ j = null := by
  cases j <;> simp [sortMembers]

theorem sortItems_eq_map (items : List Json) : sortItems items = items.map sortMembers := by
  induction items with
  | nil => rfl
  | cons j rest ih => rw [sortItems, ih, List.map_cons]

/-! ## Entering a member -/

section Insert

variable {α : Type} {key : String} {value : α} {members : List (String × α)}

theorem mem_insertMember {m : String × α} (h : m ∈ insertMember key value members) :
    m = (key, value) ∨ m ∈ members := by
  induction members with
  | nil => exact Or.inl (List.mem_singleton.mp h)
  | cons entry rest ih =>
    obtain ⟨k, v⟩ := entry
    unfold insertMember at h
    split at h
    · rcases List.mem_cons.mp h with h | h
      · exact Or.inl h
      · exact Or.inr (List.mem_cons_of_mem _ h)
    · split at h
      · exact List.mem_cons.mp h
      · rcases List.mem_cons.mp h with h | h
        · exact Or.inr (List.mem_cons.mpr (Or.inl h))
        · rcases ih h with h | h
          · exact Or.inl h
          · exact Or.inr (List.mem_cons_of_mem _ h)

theorem forall_mem_insertMember {p : String × α → Prop} (hnew : p (key, value))
    (hold : ∀ m ∈ members, p m) : ∀ m ∈ insertMember key value members, p m := by
  intro m hm
  rcases mem_insertMember hm with rfl | hm
  · exact hnew
  · exact hold m hm

theorem pairwise_keys_insertMember (h : (members.map (·.1)).Pairwise (· < ·)) :
    ((insertMember key value members).map (·.1)).Pairwise (· < ·) := by
  induction members with
  | nil => simp [insertMember]
  | cons entry rest ih =>
    obtain ⟨k, v⟩ := entry
    rw [List.map_cons, List.pairwise_cons] at h
    unfold insertMember
    split
    · rename_i hk
      subst hk
      exact List.pairwise_cons.mpr h
    · rename_i hne
      split
      · rename_i hlt
        refine List.pairwise_cons.mpr ⟨?_, List.pairwise_cons.mpr h⟩
        intro l hl
        rcases List.mem_cons.mp hl with rfl | hl
        · exact hlt
        · exact lt_trans hlt (h.1 l hl)
      · rename_i hnlt
        have hlt : k < key := lt_of_le_of_ne (not_lt.mp hnlt) (Ne.symm hne)
        refine List.pairwise_cons.mpr ⟨?_, ih h.2⟩
        intro l hl
        obtain ⟨m, hm, rfl⟩ := List.mem_map.mp hl
        rcases mem_insertMember hm with rfl | hm
        · exact hlt
        · exact h.1 _ (List.mem_map_of_mem hm)

/-- A new key is added and nothing is taken away. -/
theorem insertMember_perm (h : key ∉ members.map (·.1)) :
    (insertMember key value members).Perm ((key, value) :: members) := by
  induction members with
  | nil => exact .refl _
  | cons entry rest ih =>
    obtain ⟨k, v⟩ := entry
    rw [List.map_cons, List.mem_cons, not_or] at h
    unfold insertMember
    rw [if_neg h.1]
    split
    · exact .refl _
    · exact ((ih h.2).cons (k, v)).trans (.swap _ _ _)

/-- What is entered first has a key that none of the members entered before has. -/
theorem notMem_keys_of_nodup {rest : List (String × α)}
    (h : (((key, value) :: rest ++ members).map (·.1)).Nodup) : key ∉ members.map (·.1) := by
  rw [List.cons_append, List.map_cons, List.nodup_cons, List.map_append] at h
  exact fun hmem => h.1 (List.mem_append_right _ hmem)

/-- Entering one of the members that are still to come keeps the keys distinct. -/
theorem nodup_append_insertMember {rest : List (String × α)} {entered : α}
    (h : (((key, value) :: rest ++ members).map (·.1)).Nodup) :
    ((rest ++ insertMember key entered members).map (·.1)).Nodup := by
  have hinsert : (insertMember key entered members).Perm ((key, entered) :: members) :=
    insertMember_perm (notMem_keys_of_nodup h)
  refine (((hinsert.append_left rest).map (·.1)).nodup_iff).mpr ?_
  rw [List.map_append, List.map_cons, List.nodup_middle, ← List.map_append]
  exact h

/-- A key behind all others goes to the end. -/
theorem insertMember_of_forall_lt (h : ∀ k ∈ members.map (·.1), k < key) :
    insertMember key value members = members ++ [(key, value)] := by
  induction members with
  | nil => rfl
  | cons entry rest ih =>
    obtain ⟨k, v⟩ := entry
    have hk : k < key := h k List.mem_cons_self
    unfold insertMember
    rw [if_neg hk.ne', if_neg hk.asymm, ih fun l hl => h l (List.mem_cons_of_mem _ hl),
      List.cons_append]

end Insert

/-! ## Sorting members -/

section Members

variable {members sorted : List (String × Json)}

theorem pairwise_keys_sortMemberList (h : (sorted.map (·.1)).Pairwise (· < ·)) :
    ((sortMemberList members sorted).map (·.1)).Pairwise (· < ·) := by
  induction members generalizing sorted with
  | nil => exact h
  | cons m rest ih => exact ih (pairwise_keys_insertMember h)

/-- Sorting members with distinct keys puts them into another order and sorts their values. -/
theorem sortMemberList_perm (h : ((members ++ sorted).map (·.1)).Nodup) :
    (sortMemberList members sorted).Perm (members.map sortMember ++ sorted) := by
  induction members generalizing sorted with
  | nil => exact .refl _
  | cons m rest ih =>
    obtain ⟨key, j⟩ := m
    have hinsert : (insertMember key j.sortMembers sorted).Perm ((key, j.sortMembers) :: sorted) :=
      insertMember_perm (notMem_keys_of_nodup h)
    calc
      (sortMemberList rest (insertMember key j.sortMembers sorted)).Perm
          (rest.map sortMember ++ insertMember key j.sortMembers sorted) :=
        ih (nodup_append_insertMember h)
      List.Perm _ (rest.map sortMember ++ (key, j.sortMembers) :: sorted) :=
        hinsert.append_left _
      List.Perm _ ((key, j.sortMembers) :: (rest.map sortMember ++ sorted)) :=
        List.perm_middle

theorem sortMemberList_nil_perm (h : (members.map (·.1)).Nodup) :
    (sortMemberList members []).Perm (members.map sortMember) := by
  have hperm : (sortMemberList members []).Perm (members.map sortMember ++ []) :=
    sortMemberList_perm (by rwa [List.append_nil])
  rwa [List.append_nil] at hperm

theorem nodup_keys_sortMemberList : ((sortMemberList members []).map (·.1)).Nodup :=
  (pairwise_keys_sortMemberList .nil).imp fun hlt => ne_of_lt hlt

/-- Members that are sorted already stay where they are. -/
theorem sortMemberList_eq (hkeys : ((sorted ++ members).map (·.1)).Pairwise (· < ·))
    (hvalues : ∀ m ∈ members, m.2.sortMembers = m.2) :
    sortMemberList members sorted = sorted ++ members := by
  induction members generalizing sorted with
  | nil => rw [sortMemberList, List.append_nil]
  | cons m rest ih =>
    obtain ⟨key, j⟩ := m
    have hj : j.sortMembers = j := hvalues (key, j) List.mem_cons_self
    have hlast : ∀ k ∈ sorted.map (·.1), k < key := by
      rw [List.map_append, List.pairwise_append] at hkeys
      exact fun k hk => hkeys.2.2 k hk key List.mem_cons_self
    rw [sortMemberList, hj, insertMember_of_forall_lt hlast,
      ih (by simpa using hkeys) fun m hm => hvalues m (List.mem_cons_of_mem _ hm)]
    simp

end Members

/-- **A sorted value is not changed by sorting.** -/
theorem IsSorted.sortMembers_eq {j : Json} (h : j.IsSorted) : j.sortMembers = j := by
  induction h with
  | null | bool | number | string => rfl
  | array _ ih =>
    rw [sortMembers, sortItems_eq_map, List.map_congr_left ih, List.map_id']
  | object keys _ ih =>
    rw [sortMembers, sortMemberList_eq (by simpa using keys) ih, List.nil_append]

/-! ## Looking up -/

theorem lookup_eq_some_iff {key : String} {j : Json} {members : List (String × Json)}
    (h : (members.map (·.1)).Nodup) : lookup key members = some j ↔ (key, j) ∈ members := by
  have hreverse : (members.reverse.map (·.1)).Nodup := by
    rwa [List.map_reverse, List.nodup_reverse]
  rw [lookup, Option.map_eq_some_iff]
  simp only [find?_key_eq_some_iff hreverse, List.mem_reverse]
  constructor
  · rintro ⟨⟨k, v⟩, ⟨hm, rfl⟩, rfl⟩
    exact hm
  · intro hm
    exact ⟨(key, j), ⟨hm, rfl⟩, rfl⟩

theorem lookup_eq_none_iff {key : String} {members : List (String × Json)} :
    lookup key members = none ↔ key ∉ members.map (·.1) := by
  rw [lookup, Option.map_eq_none_iff, List.find?_eq_none]
  simp only [List.mem_reverse, beq_iff_eq, List.mem_map, not_exists, not_and]

theorem lookup_append_of_notMem {key : String} {own others : List (String × Json)}
    (h : key ∉ others.map (·.1)) : lookup key (own ++ others) = lookup key own := by
  have hothers : others.reverse.find? (fun m => m.1 == key) = none := by
    rw [List.find?_eq_none]
    rintro m hm heq
    exact h (List.mem_map.mpr ⟨m, List.mem_reverse.mp hm, by simpa using heq⟩)
  rw [lookup, List.reverse_append, List.find?_append, hothers, Option.none_or, lookup]

theorem lookup_cons_of_ne {key : String} {m : String × Json} {rest : List (String × Json)}
    (h : m.1 ≠ key) : lookup key (m :: rest) = lookup key rest := by
  rw [lookup, List.reverse_cons, List.find?_append, List.find?_cons_of_neg (by simpa using h),
    List.find?_nil, Option.or_none, lookup]

/-- **Sorting an object with distinct keys sorts the value of each key.** -/
theorem get?_sortMembers {key : String} {members : List (String × Json)}
    (h : (members.map (·.1)).Nodup) :
    (object members).sortMembers.get? key = (lookup key members).map sortMembers := by
  have hperm := sortMemberList_nil_perm h
  change lookup key (sortMemberList members []) = _
  cases hlookup : lookup key members with
  | none =>
    rw [Option.map_none, lookup_eq_none_iff, (hperm.map _).mem_iff, List.map_map]
    exact lookup_eq_none_iff.mp hlookup
  | some j =>
    rw [Option.map_some, lookup_eq_some_iff nodup_keys_sortMemberList, hperm.mem_iff]
    exact List.mem_map.mpr ⟨(key, j), (lookup_eq_some_iff h).mp hlookup, rfl⟩

end Json
end Charting
