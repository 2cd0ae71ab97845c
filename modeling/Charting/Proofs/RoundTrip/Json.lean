import Charting.Proofs.RoundTrip.Sorted
import Charting.Proofs.RoundTrip.Token

/-! # Reading written values back

A written value is read back with its members sorted (`parse_pretty`), unless its `nesting` exceeds
the limit of the reader.  What the reader makes of any text is sorted and stays within this limit
(`isRead_of_parse`); so a value that was read can be written and read again, also as a part of a
value that adds few levels.

Between text and value lies the node of the text: `written` is that of a written value.
-/
namespace Charting.Json

open Number

/-! ## Nesting -/

mutual

/-- How deeply arrays and objects are nested. -/
def nesting : Json → Nat
  | array items => nestingItems items + 1
  | object members => nestingMembers members + 1
  | _ => 0

/-- The deepest nesting of some items. -/
def nestingItems : List Json → Nat
  | [] => 0
  | j :: rest => max (nesting j) (nestingItems rest)

/-- The deepest nesting of the values of some members. -/
def nestingMembers : List (String × Json) → Nat
  | [] => 0
  | (_, j) :: rest => max (nesting j) (nestingMembers rest)

end

theorem nestingItems_le_iff {items : List Json} {n : Nat} :
    nestingItems items ≤ n ↔ ∀ j ∈ items, j.nesting ≤ n := by
  induction items with
  | nil => simp [nestingItems]
  | cons j rest ih => rw [nestingItems, Nat.max_le, ih, List.forall_mem_cons]

theorem nestingMembers_le_iff {members : List (String × Json)} {n : Nat} :
    nestingMembers members ≤ n ↔ ∀ m ∈ members, m.2.nesting ≤ n := by
  induction members with
  | nil => simp [nestingMembers]
  | cons m rest ih => rw [nestingMembers, Nat.max_le, ih, List.forall_mem_cons]

theorem nesting_array_le_iff {items : List Json} {n : Nat} :
    (array items).nesting ≤ n + 1 ↔ ∀ j ∈ items, j.nesting ≤ n := by
  rw [nesting, Nat.add_le_add_iff_right, nestingItems_le_iff]

theorem nesting_object_le_iff {members : List (String × Json)} {n : Nat} :
    (object members).nesting ≤ n + 1 ↔ ∀ m ∈ members, m.2.nesting ≤ n := by
  rw [nesting, Nat.add_le_add_iff_right, nestingMembers_le_iff]

/-- The value of a member is nested less deeply than the object. -/
theorem nesting_lt_of_get? {key : String} {j value : Json} (h : j.get? key = some value) :
    value.nesting < j.nesting := by
  cases j with
  | object members =>
    obtain ⟨m, hm, rfl⟩ := Option.map_eq_some_iff.mp h
    have hmem := List.mem_reverse.mp (List.mem_of_find?_eq_some hm)
    exact Nat.lt_succ_of_le (nestingMembers_le_iff.mp le_rfl m hmem)
  | null | bool | number | string | array => cases h

/-! ## Members that may be missing -/

theorem forall_mem_member {p : String × Json → Prop} {key : String} {j : Json} :
    (∀ v ∈ member key j, p v) ↔ p (key, j) := by
  simp [member]

theorem forall_mem_memberIf {α : Type} {p : String × Json → Prop} {key : String} {a? : Option α}
    {encode : α → Json} :
    (∀ v ∈ memberIf key a? encode, p v) ↔ ∀ a ∈ a?, p (key, encode a) := by
  simp [memberIf]

/-! ## Values that were read -/

/-- A value as it comes from a text: sorted, and nested in some depth. -/
structure IsRead (j : Json) (depth : Nat) : Prop where
  sorted : j.IsSorted
  nesting : j.nesting ≤ depth

theorem IsRead.mono {j : Json} {m n : Nat} (h : j.IsRead m) (hmn : m ≤ n) : j.IsRead n :=
  ⟨h.sorted, h.nesting.trans hmn⟩

theorem isRead_null {n : Nat} : null.IsRead n := ⟨.null, Nat.zero_le _⟩

theorem isRead_bool (b : Bool) {n : Nat} : (bool b).IsRead n := ⟨.bool b, Nat.zero_le _⟩

theorem isRead_number (m : JsonNumber) {n : Nat} : (number m).IsRead n :=
  ⟨.number m, Nat.zero_le _⟩

theorem isRead_string (s : String) {n : Nat} : (string s).IsRead n := ⟨.string s, Nat.zero_le _⟩

theorem isRead_array_iff {items : List Json} {n : Nat} :
    (array items).IsRead (n + 1) ↔ ∀ j ∈ items, j.IsRead n := by
  constructor
  · rintro ⟨hsorted, hnesting⟩ j hj
    cases hsorted with
    | array hitems => exact ⟨hitems j hj, nesting_array_le_iff.mp hnesting j hj⟩
  · intro h
    exact ⟨.array fun j hj => (h j hj).sorted,
      nesting_array_le_iff.mpr fun j hj => (h j hj).nesting⟩

theorem isRead_object_iff {members : List (String × Json)} {n : Nat} :
    (object members).IsRead (n + 1) ↔
      (members.map (·.1)).Pairwise (· < ·) ∧ ∀ m ∈ members, m.2.IsRead n := by
  constructor
  · rintro ⟨hsorted, hnesting⟩
    cases hsorted with
    | object hkeys hvalues =>
      exact ⟨hkeys, fun m hm => ⟨hvalues m hm, nesting_object_le_iff.mp hnesting m hm⟩⟩
  · rintro ⟨hkeys, h⟩
    exact ⟨.object hkeys fun m hm => (h m hm).sorted,
      nesting_object_le_iff.mpr fun m hm => (h m hm).nesting⟩

/-! ## The node of a written value -/

mutual

/-- The node of the text of a value. -/
def written : Json → Node
  | null => .null
  | bool b => .bool b
  | number n => .number n.literal
  | string s => .string (pieces s)
  | array items => .array (writtenItems items)
  | object members => .object (writtenMembers members)

/-- The nodes of the texts of items. -/
def writtenItems : List Json → List Node
  | [] => []
  | j :: rest => written j :: writtenItems rest

/-- The nodes of the texts of members. -/
def writtenMembers : List (String × Json) → List (List Piece × Node)
  | [] => []
  | (key, j) :: rest => (pieces key, written j) :: writtenMembers rest

end

namespace Node

/-- The grammar takes some tokens for a node, if it has two calls for each token. -/
def Reads (front : List Token) (node : Node) : Prop :=
  ∀ fuel ts, 2 * front.length ≤ fuel → value fuel (front ++ ts) = some (node, ts)

/-- What begins a value does not end an array. -/
theorem exists_tokens_eq_cons (j : Json) : ∃ t ts, tokens j = t :: ts ∧ t ≠ .rightBracket := by
  match j with
  | .null | .bool _ | .number _ | .string _ | .array [] | .array (_ :: _) | .object []
  | .object ((_, _) :: _) => exact ⟨_, _, rfl, nofun⟩

theorem value_leftBracket {j : Json} (fuel : Nat) (ts : List Token) :
    value (fuel + 1) (.leftBracket :: (tokens j ++ ts)) =
      (items fuel (tokens j ++ ts)).map fun (items, rest) => (array items, rest) := by
  obtain ⟨t, rest, htokens, ht⟩ := exists_tokens_eq_cons j
  rw [htokens, List.cons_append, value]
  rintro _ h
  exact ht (List.cons.inj h).1

mutual

theorem reads_tokens : ∀ j : Json, Reads (tokens j) (written j)
  | .null, _ + 1, _, _ | .bool _, _ + 1, _, _ | .number _, _ + 1, _, _
  | .string _, _ + 1, _, _ => rfl
  | .array [], _ + 1, _, _ | .object [], _ + 1, _, _ => rfl
  | .array (j :: rest), fuel + 1, ts, h => by
    simp only [tokens, List.length_cons, List.length_append, List.length_nil] at h
    have hitems := items_tokens (reads_tokens j) rest fuel ts (by omega)
    simp only [tokens, List.cons_append, List.append_assoc, List.nil_append]
    rw [value_leftBracket, hitems]
    rfl
  | .object ((key, j) :: rest), fuel + 1, ts, h => by
    simp only [tokens, List.length_cons, List.length_append, List.length_nil] at h
    have hmembers := members_tokens (pieces key) (reads_tokens j) rest fuel ts (by omega)
    simp only [tokens, List.cons_append, List.append_assoc, List.nil_append]
    rw [value, hmembers]
    rfl
    nofun

/-- An item in front of others, up to the closing bracket. -/
theorem items_tokens {front : List Token} {node : Node} (hfront : Reads front node) :
    ∀ (rest : List Json) (fuel : Nat) (ts : List Token),
      2 * (front.length + (itemTokens rest).length) < fuel →
      items fuel (front ++ (itemTokens rest ++ .rightBracket :: ts)) =
        some (node :: writtenItems rest, ts)
  | [], fuel + 1, ts, h => by
    rw [items, hfront fuel _ (by omega)]
    rfl
  | j :: rest, fuel + 1, ts, h => by
    simp only [itemTokens, List.length_cons, List.length_append] at h
    have hrest := items_tokens (reads_tokens j) rest fuel ts (by omega)
    rw [items, hfront fuel _ (by omega)]
    simp only [itemTokens, List.cons_append, List.append_assoc]
    simp [hrest, writtenItems]

/-- A member in front of others, up to the closing brace. -/
theorem members_tokens {front : List Token} {node : Node} (key : List Piece)
    (hfront : Reads front node) :
    ∀ (rest : List (String × Json)) (fuel : Nat) (ts : List Token),
      2 * (front.length + (memberTokens rest).length) < fuel →
      members fuel (.string key :: .colon :: (front ++ (memberTokens rest ++ .rightBrace :: ts))) =
        some ((key, node) :: writtenMembers rest, ts)
  | [], fuel + 1, ts, h => by
    rw [members, hfront fuel _ (by omega)]
    rfl
  | (key', j) :: rest, fuel + 1, ts, h => by
    simp only [memberTokens, List.length_cons, List.length_append] at h
    have hrest := members_tokens (pieces key') (reads_tokens j) rest fuel ts (by omega)
    rw [members, hfront fuel _ (by omega)]
    simp only [memberTokens, List.cons_append, List.append_assoc]
    simp [hrest, writtenMembers]

end

/-- **The text of a value is read as its node**, however it is laid out. -/
theorem parse_chars {layout : Layout} (hl : layout.IsBlank) (j : Json) :
    parse (String.ofList (chars layout 0 j)) = some j.written := by
  have h := reads_tokens j (2 * (tokens j).length + 1) [] (by omega)
  rw [List.append_nil] at h
  rw [parse, String.toList_ofList, ofChars_chars hl, Option.bind_some, ofTokens, h]

theorem parse_pretty (j : Json) : parse j.pretty = some j.written :=
  parse_chars Layout.isBlank_pretty j

/-- The keys of the node are those of the value. -/
theorem map_pieceText_writtenMembers (members : List (String × Json)) :
    (writtenMembers members).map (fun m => pieceText m.1) = members.map fun m => some m.1 := by
  induction members with
  | nil => rfl
  | cons m rest ih =>
    obtain ⟨key, j⟩ := m
    rw [writtenMembers, List.map_cons, pieceText_pieces, ih, List.map_cons]

/-! ## From nodes to values -/

mutual

/-- The node of a written value has this value, sorted. -/
theorem toJson_written : ∀ (j : Json) {depth : Nat}, j.nesting ≤ depth →
    toJson depth j.written = some j.sortMembers
  | .null, _, _ | .bool _, _, _ => rfl
  | .number n, _, _ => by
    rw [written, toJson, JsonNumber.ofLiteral?_literal]
    rfl
  | .string s, _, _ => by
    rw [written, toJson, pieceText_pieces]
    rfl
  | .array items, 0, h => nomatch h
  | .array items, depth + 1, h => by
    rw [nesting, Nat.add_le_add_iff_right] at h
    rw [written, toJson, if_neg (by omega), Nat.add_sub_cancel, itemsToJson_written items h,
      sortMembers]
    rfl
  | .object members, 0, h => nomatch h
  | .object members, depth + 1, h => by
    rw [nesting, Nat.add_le_add_iff_right] at h
    rw [written, toJson, if_neg (by omega), Nat.add_sub_cancel, membersToJson_written members [] h,
      sortMembers]
    rfl

theorem itemsToJson_written : ∀ (items : List Json) {depth : Nat}, nestingItems items ≤ depth →
    itemsToJson depth (writtenItems items) = some (sortItems items)
  | [], _, _ => rfl
  | j :: rest, _, h => by
    rw [nestingItems, Nat.max_le] at h
    rw [writtenItems, itemsToJson, toJson_written j h.1, itemsToJson_written rest h.2]
    rfl

theorem membersToJson_written : ∀ (members sorted : List (String × Json)) {depth : Nat},
    nestingMembers members ≤ depth →
      membersToJson depth (writtenMembers members) sorted = some (sortMemberList members sorted)
  | [], _, _, _ => rfl
  | (key, j) :: rest, sorted, _, h => by
    rw [nestingMembers, Nat.max_le] at h
    rw [writtenMembers, membersToJson, pieceText_pieces, toJson_written j h.1]
    exact membersToJson_written rest _ h.2

end

mutual

/-- The value of a node is sorted, and it is not nested more deeply than is allowed. -/
theorem isRead_toJson : ∀ (node : Node) {depth : Nat} {j : Json},
    toJson depth node = some j → j.IsRead depth
  | .null, _, _, h => by
    cases h
    exact isRead_null
  | .bool b, _, _, h => by
    cases h
    exact isRead_bool b
  | .number literal, _, _, h => by
    rw [toJson] at h
    obtain ⟨n, -, rfl⟩ := Option.map_eq_some_iff.mp h
    exact isRead_number n
  | .string pieces, _, _, h => by
    rw [toJson] at h
    obtain ⟨s, -, rfl⟩ := Option.map_eq_some_iff.mp h
    exact isRead_string s
  | .array items, 0, _, h => nomatch h
  | .array items, depth + 1, _, h => by
    rw [toJson, if_neg (by omega), Nat.add_sub_cancel] at h
    obtain ⟨js, hjs, rfl⟩ := Option.map_eq_some_iff.mp h
    exact isRead_array_iff.mpr (isRead_itemsToJson items hjs)
  | .object members, 0, _, h => nomatch h
  | .object members, depth + 1, _, h => by
    rw [toJson, if_neg (by omega), Nat.add_sub_cancel] at h
    obtain ⟨ms, hms, rfl⟩ := Option.map_eq_some_iff.mp h
    exact isRead_object_iff.mpr (isRead_membersToJson members .nil (by simp) hms)

theorem isRead_itemsToJson : ∀ (nodes : List Node) {depth : Nat} {items : List Json},
    itemsToJson depth nodes = some items → ∀ j ∈ items, j.IsRead depth
  | [], _, _, h => by
    cases h
    simp
  | node :: rest, _, _, h => by
    rw [itemsToJson] at h
    simp only [Option.bind_eq_bind, Option.bind_eq_some_iff, Option.pure_def,
      Option.some.injEq] at h
    obtain ⟨j, hj, js, hjs, rfl⟩ := h
    exact List.forall_mem_cons.mpr ⟨isRead_toJson node hj, isRead_itemsToJson rest hjs⟩

theorem isRead_membersToJson : ∀ (nodes : List (List Piece × Node)) {depth : Nat}
    {sorted members : List (String × Json)}, (sorted.map (·.1)).Pairwise (· < ·) →
      (∀ m ∈ sorted, m.2.IsRead depth) → membersToJson depth nodes sorted = some members →
        (members.map (·.1)).Pairwise (· < ·) ∧ ∀ m ∈ members, m.2.IsRead depth
  | [], _, _, _, hkeys, hread, h => by
    cases h
    exact ⟨hkeys, hread⟩
  | (key, node) :: rest, _, _, _, hkeys, hread, h => by
    rw [membersToJson] at h
    simp only [Option.bind_eq_bind, Option.bind_eq_some_iff] at h
    obtain ⟨text, -, j, hj, h⟩ := h
    exact isRead_membersToJson rest (pairwise_keys_insertMember hkeys)
      (forall_mem_insertMember (isRead_toJson node hj) hread) h

end

end Node

/-! ## Texts -/

variable {j : Json} {text : String}

/-- **A written value is read back with its members sorted.** -/
theorem parse_pretty (h : j.nesting ≤ depthLimit) : parse j.pretty = some j.sortMembers := by
  rw [parse, Node.parse_pretty, Option.bind_some, Node.toJson_written j h]

/-- **What is read has its members sorted, and it is not nested more deeply than is allowed.** -/
theorem isRead_of_parse (h : parse text = some j) : j.IsRead depthLimit := by
  obtain ⟨node, -, hnode⟩ := Option.bind_eq_some_iff.mp h
  exact Node.isRead_toJson node hnode

end Charting.Json
