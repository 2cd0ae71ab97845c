import Charting.Json.Shape
import Charting.Proofs.RoundTrip.Json

/-! # Reading back what was written, along a shape

Reading along a shape skips what is not wanted, refuses a wanted member that is repeated and takes
an array for the fields of a record.  Two things carry over from plain reading: what is read is
sorted and not nested more deeply than is allowed (`Shape.isRead_read`), and a written value is read
back with its members sorted as long as the shape wants all of them.  `Shape.Keeps` says the latter
for one value, and there is one lemma for each kind of shape.
-/
namespace Charting.Json.Shape

open Number

/-! ## What is read -/

/-- Steps that keep a property of what has been entered so far keep it to the end. -/
theorem foldlM_preserves {α β : Type} {step : β → α → Option β} {p : β → Prop}
    (hstep : ∀ {b a b'}, p b → step b a = some b' → p b') {as : List α} {b b' : β} (hb : p b)
    (h : as.foldlM step b = some b') : p b' := by
  induction as generalizing b with
  | nil => exact Option.some.inj h ▸ hb
  | cons a as ih =>
    obtain ⟨next, hnext, hrest⟩ := Option.bind_eq_some_iff.mp h
    exact ih (hstep hb hnext) hrest

theorem exists_of_mem_mapM {α β : Type} {f : α → Option β} {as : List α} {bs : List β}
    (h : as.mapM f = some bs) : ∀ b ∈ bs, ∃ a, f a = some b := by
  induction as generalizing bs with
  | nil =>
    rw [List.mapM_nil] at h
    obtain rfl := Option.some.inj h
    exact fun b hb => absurd hb List.not_mem_nil
  | cons a as ih =>
    rw [List.mapM_cons] at h
    obtain ⟨b, hb, h⟩ := Option.bind_eq_some_iff.mp h
    obtain ⟨rest, hrest, h⟩ := Option.bind_eq_some_iff.mp h
    obtain rfl := Option.some.inj h
    exact List.forall_mem_cons.mpr ⟨⟨a, hb⟩, ih hrest⟩

theorem isRead_readWhole {depth : Nat} {node : Node} {j : Json}
    (h : readWhole depth node = some j) : j.IsRead depth := by
  unfold readWhole at h
  split at h
  · split at h
    · exact Node.isRead_toJson _ h
    · cases h
  · exact Node.isRead_toJson _ h

mutual

/-- **What is read along a shape is sorted, and it is not nested more deeply than is allowed.** -/
theorem isRead_read : ∀ (shape : Shape) {depth : Nat} {node : Node} {j : Json},
    read depth shape node = some j → j.IsRead depth
  | .whole, _, _, _, h => by
    rw [read] at h
    exact isRead_readWhole h
  | .items shape, depth, node, j, h => by
    cases node with
    | array nodes =>
      cases depth with
      | zero => cases h
      | succ depth =>
        rw [read, if_neg (Nat.succ_ne_zero depth), Nat.add_sub_cancel] at h
        obtain ⟨js, hjs, rfl⟩ := Option.map_eq_some_iff.mp h
        refine isRead_array_iff.mpr fun j hj => ?_
        obtain ⟨node, hnode⟩ := exists_of_mem_mapM hjs j hj
        exact isRead_read shape hnode
    | null | bool | number | string | object => exact Node.isRead_toJson _ h
  | .fields wanted, depth, node, j, h => by
    cases node with
    | object members =>
      cases depth with
      | zero => cases h
      | succ depth =>
        rw [read, if_neg (Nat.succ_ne_zero depth), Nat.add_sub_cancel] at h
        obtain ⟨entered, hentered, rfl⟩ := Option.map_eq_some_iff.mp h
        refine foldlM_preserves (p := fun sorted => (object sorted).IsRead (depth + 1)) ?_
          (isRead_object_iff.mpr ⟨.nil, List.forall_mem_nil _⟩) hentered
        intro sorted m next hsorted hm
        exact isRead_readMember wanted hsorted hm
    | array nodes =>
      cases depth with
      | zero => cases h
      | succ depth =>
        rw [read, if_neg (Nat.succ_ne_zero depth), Nat.add_sub_cancel] at h
        obtain ⟨items, hitems, rfl⟩ := Option.map_eq_some_iff.mp h
        exact isRead_array_iff.mpr (isRead_readFields wanted hitems)
    | null | bool | number | string => exact Node.isRead_toJson _ h

theorem isRead_readMember : ∀ (wanted : List (String × Shape)) {depth : Nat}
    {sorted members : List (String × Json)} {m : List Piece × Node},
      (object sorted).IsRead (depth + 1) → readMember depth wanted sorted m = some members →
        (object members).IsRead (depth + 1)
  | [], depth, sorted, members, (key, node), hsorted, h => by
    rw [readMember] at h
    obtain ⟨-, -, rfl⟩ := Option.map_eq_some_iff.mp h
    exact hsorted
  | (wanted, shape) :: rest, depth, sorted, members, (key, node), hsorted, h => by
    rw [readMember] at h
    split at h
    · split at h
      · cases h
      · obtain ⟨j, hj, rfl⟩ := Option.map_eq_some_iff.mp h
        obtain ⟨hkeys, hvalues⟩ := isRead_object_iff.mp hsorted
        exact isRead_object_iff.mpr ⟨pairwise_keys_insertMember hkeys,
          forall_mem_insertMember (isRead_read shape hj) hvalues⟩
    · exact isRead_readMember rest hsorted h

theorem isRead_readFields : ∀ (wanted : List (String × Shape)) {depth : Nat} {nodes : List Node}
    {items : List Json}, readFields depth wanted nodes = some items → ∀ j ∈ items, j.IsRead depth
  | _, _, [], _, h => by
    rw [readFields] at h
    obtain rfl := Option.some.inj h
    exact List.forall_mem_nil _
  | [], _, _ :: _, _, h => by
    rw [readFields] at h
    cases h
  | (_, shape) :: rest, _, _ :: _, _, h => by
    rw [readFields] at h
    obtain ⟨j, hj, h⟩ := Option.bind_eq_some_iff.mp h
    obtain ⟨items, hitems, h⟩ := Option.bind_eq_some_iff.mp h
    obtain rfl := Option.some.inj h
    exact List.forall_mem_cons.mpr ⟨isRead_read shape hj, isRead_readFields rest hitems⟩

end

/-! ## Written values -/

/-- A written value is read along the shape without losing anything. -/
def Keeps (shape : Shape) (depth : Nat) (j : Json) : Prop :=
  shape.read depth j.written = some j.sortMembers

variable {depth : Nat}

/-- Values that are wanted as a whole, other than objects, which must not repeat a key. -/
theorem keeps_whole {j : Json} (h : j.nesting ≤ depth) (hobject : ∀ members, j ≠ object members) :
    whole.Keeps depth j := by
  rw [Keeps, read]
  cases j with
  | object members => exact absurd rfl (hobject members)
  | null | bool | number | string | array => exact Node.toJson_written _ h

theorem keeps_items {shape : Shape} {js : List Json} (h : ∀ j ∈ js, shape.Keeps depth j) :
    (items shape).Keeps (depth + 1) (array js) := by
  have hitems : (writtenItems js).mapM (read depth shape) = some (sortItems js) := by
    induction js with
    | nil => rfl
    | cons j rest ih =>
      rw [List.forall_mem_cons] at h
      have hj : read depth shape j.written = some j.sortMembers := h.1
      rw [writtenItems, List.mapM_cons, hj, ih h.2, sortItems]
      rfl
  rw [Keeps, written, read, if_neg (Nat.succ_ne_zero depth), Nat.add_sub_cancel, hitems,
    Option.map_some, sortMembers]

section Fields

variable {wanted : List (String × Shape)} (hkeys : (wanted.map (·.1)).Nodup)
include hkeys

/-- A member that is wanted and has not been there before is entered. -/
theorem readMember_written {key : String} {shape : Shape} (hwanted : (key, shape) ∈ wanted)
    {sorted : List (String × Json)} (hfresh : key ∉ sorted.map (·.1)) {j : Json}
    (hj : shape.Keeps depth j) :
    readMember depth wanted sorted (pieces key, j.written) =
      some (insertMember key j.sortMembers sorted) := by
  induction wanted with
  | nil => cases hwanted
  | cons first rest ih =>
    obtain ⟨firstKey, firstShape⟩ := first
    rw [List.map_cons, List.nodup_cons] at hkeys
    rw [readMember, pieceText_pieces]
    rcases List.mem_cons.mp hwanted with heq | hrest
    · obtain ⟨rfl, rfl⟩ := Prod.mk.inj heq
      have hnew : sorted.any (fun m => m.1 == key) = false := by
        rw [List.any_eq_false]
        intro m hm hkey
        exact hfresh (List.mem_map.mpr ⟨m, hm, by simpa using hkey⟩)
      have hread : read depth shape j.written = some j.sortMembers := hj
      rw [if_pos rfl, hnew, if_neg Bool.false_ne_true, hread, Option.map_some]
    · have hne : key ≠ firstKey := by
        rintro rfl
        exact hkeys.1 (List.mem_map.mpr ⟨_, hrest, rfl⟩)
      rw [if_neg fun h => hne (Option.some.inj h)]
      exact ih hkeys.2 hrest

theorem foldlM_writtenMembers {members sorted : List (String × Json)}
    (hmembers : ((members ++ sorted).map (·.1)).Nodup)
    (h : ∀ m ∈ members, ∃ shape, (m.1, shape) ∈ wanted ∧ shape.Keeps depth m.2) :
    (writtenMembers members).foldlM (readMember depth wanted) sorted =
      some (sortMemberList members sorted) := by
  induction members generalizing sorted with
  | nil => rfl
  | cons m rest ih =>
    obtain ⟨key, j⟩ := m
    rw [List.forall_mem_cons] at h
    obtain ⟨⟨shape, hwanted, hj⟩, hrest⟩ := h
    have hm := readMember_written hkeys hwanted (notMem_keys_of_nodup hmembers) hj
    rw [writtenMembers, List.foldlM_cons, hm, sortMemberList]
    exact ih (nodup_append_insertMember hmembers) hrest

theorem keeps_fields {members : List (String × Json)} (hmembers : (members.map (·.1)).Nodup)
    (h : ∀ m ∈ members, ∃ shape, (m.1, shape) ∈ wanted ∧ shape.Keeps depth m.2) :
    (fields wanted).Keeps (depth + 1) (object members) := by
  have hfold : (writtenMembers members).foldlM (readMember depth wanted) [] =
      some (sortMemberList members []) :=
    foldlM_writtenMembers hkeys (by rwa [List.append_nil]) h
  rw [Keeps, written, read, if_neg (Nat.succ_ne_zero depth), Nat.add_sub_cancel, hfold,
    Option.map_some, sortMembers]

end Fields

end Charting.Json.Shape

namespace Charting.Json

/-- **A written value is read back along a shape that keeps it**, however it is laid out. -/
theorem parseAlong_chars {shape : Shape} {j : Json} (h : shape.Keeps depthLimit j)
    {layout : Layout} (hl : layout.IsBlank) :
    parseAlong shape (String.ofList (chars layout 0 j)) = some j.sortMembers := by
  rw [parseAlong, Node.parse_chars hl, Option.bind_some]
  exact h

theorem isRead_of_parseAlong {shape : Shape} {text : String} {j : Json}
    (h : parseAlong shape text = some j) : j.IsRead depthLimit := by
  obtain ⟨node, -, hnode⟩ := Option.bind_eq_some_iff.mp h
  exact shape.isRead_read hnode

end Charting.Json
