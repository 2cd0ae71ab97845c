import Charting.Format
import Charting.Percent
import Charting.Proofs.ZeroSign.Number

/-! # JSON up to the sign of zeros

A zero shows its sign in two ways: as a number, and as a share `-0%` or `-0.0%` at the end of a
text.  `Json.unsignZeros` takes the sign away in both, at any depth, and changes nothing else:
keys, order, and all other numbers and texts stay.

Two kinds of text are made from numbers.  A length given as a percentage is the text of its
number, and a slice of a pie is labelled with its share; both are the same up to the sign of a
zero share if their numbers are (`unsignZeros_encode_dimension`, `unsignText_label`).  Values that
compare as equal become the same (`unsignZeros_eq_of_same`).
-/
namespace Charting

open Number

/-! ## Texts -/

/-- A reversed text, without the sign of a zero share that it begins with. -/
def unsignShare : List Char → List Char
  | '%' :: '0' :: '.' :: '0' :: '-' :: rest => '%' :: '0' :: '.' :: '0' :: rest
  | '%' :: '0' :: '-' :: rest => '%' :: '0' :: rest
  | cs => cs

/-- A text without the sign of a zero share at its end. -/
def unsignText (text : String) : String := String.ofList (unsignShare text.toList.reverse).reverse

/-! ## Values -/

namespace JsonNumber

/-- The number without the sign of a zero; integers have no such sign. -/
def unsignZero : JsonNumber → JsonNumber
  | integer value fits => integer value fits
  | real value finite => real value.unsignZero ((Binary64.isFinite_unsignZero value).trans finite)

theorem unsignZero_eq_of_beq {m n : JsonNumber} (h : (m == n) = true) :
    m.unsignZero = n.unsignZero := by
  cases m with
  | integer a ha =>
    cases n with
    | integer b hb =>
      obtain rfl : a = b := eq_of_beq h
      rfl
    | real => cases h
  | real a ha =>
    cases n with
    | integer => cases h
    | real b hb =>
      have hab : a.unsignZero = b.unsignZero := Binary64.unsignZero_eq_of_beq h
      simp only [unsignZero, hab]

end JsonNumber

namespace Json

mutual

/-- The value with no sign on any zero. -/
def unsignZeros : Json → Json
  | null => null
  | bool b => bool b
  | number n => number n.unsignZero
  | string s => string (unsignText s)
  | array items => array (unsignItems items)
  | object members => object (unsignMembers members)

/-- Each item with no sign on any zero. -/
def unsignItems : List Json → List Json
  | [] => []
  | j :: rest => unsignZeros j :: unsignItems rest

/-- Each member with no sign on any zero. -/
def unsignMembers : List (String × Json) → List (String × Json)
  | [] => []
  | (key, j) :: rest => (key, unsignZeros j) :: unsignMembers rest

end

/-- A member with no sign on any zero of its value. -/
def unsignMember (m : String × Json) : String × Json := (m.1, m.2.unsignZeros)

theorem unsignItems_eq_map (items : List Json) : unsignItems items = items.map unsignZeros := by
  induction items with
  | nil => rfl
  | cons j rest ih => rw [unsignItems, ih, List.map_cons]

theorem unsignMembers_eq_map (members : List (String × Json)) :
    unsignMembers members = members.map unsignMember := by
  induction members with
  | nil => rfl
  | cons m rest ih => rw [unsignMembers, ih, List.map_cons, unsignMember]

@[simp] theorem unsignZeros_array (items : List Json) :
    (array items).unsignZeros = array (items.map unsignZeros) := by
  rw [unsignZeros, unsignItems_eq_map]

@[simp] theorem unsignZeros_object (members : List (String × Json)) :
    (object members).unsignZeros = object (members.map unsignMember) := by
  rw [unsignZeros, unsignMembers_eq_map]

@[simp] theorem unsignZeros_ofBinary64 (x : Binary64) :
    (ofBinary64 x).unsignZeros = ofBinary64 x.unsignZero := by
  unfold ofBinary64
  by_cases h : x.isFinite = true
  · rw [dif_pos h, dif_pos (by rw [Binary64.isFinite_unsignZero]; exact h), unsignZeros,
      JsonNumber.unsignZero]
  · rw [dif_neg h, dif_neg (by rw [Binary64.isFinite_unsignZero]; exact h), unsignZeros]

@[simp] theorem unsignZeros_ofMembers (members : List (Option (String × Json))) :
    (ofMembers members).unsignZeros = ofMembers (members.map (Option.map unsignMember)) := by
  rw [ofMembers, ofMembers, unsignZeros_object, List.map_filterMap, List.filterMap_map]
  rfl

@[simp] theorem map_unsignMember_member (key : String) (value : Json) :
    (member key value).map unsignMember = member key value.unsignZeros := rfl

@[simp] theorem map_unsignMember_memberIf {α : Type} (key : String) (value : Option α)
    (encode : α → Json) :
    (memberIf key value encode).map unsignMember =
      (value.map fun a => (encode a).unsignZeros).map (Prod.mk key) := by
  cases value <;> rfl

/-! ## Equal values -/

mutual

/-- A value is equal to itself: its numbers are finite. -/
theorem same_refl (j : Json) : same j j = true := by
  cases j with
  | null => rfl
  | bool b => simp only [same, beq_self_eq_true]
  | string s => simp only [same, beq_self_eq_true]
  | number n =>
    rw [same]
    cases n with
    | integer value fits => exact beq_self_eq_true value
    | real value finite => exact Binary64.beq_self_of_isFinite finite
  | array items => rw [same]; exact sameItems_refl items
  | object members => rw [same]; exact sameMembers_refl members

theorem sameItems_refl (items : List Json) : sameItems items items = true := by
  cases items with
  | nil => rfl
  | cons j rest => rw [sameItems, same_refl j, sameItems_refl rest, Bool.and_self]

theorem sameMembers_refl (members : List (String × Json)) :
    sameMembers members members = true := by
  cases members with
  | nil => rfl
  | cons m rest =>
    obtain ⟨key, j⟩ := m
    rw [sameMembers, same_refl j, sameMembers_refl rest, beq_self_eq_true, Bool.and_self,
      Bool.and_self]
end
mutual

/-- Values that compare as equal are the same up to the sign of zeros. -/
theorem unsignZeros_eq_of_same (a b : Json) (h : same a b = true) :
    a.unsignZeros = b.unsignZeros := by
  cases a with
  | null =>
    cases b with
    | null => rfl
    | _ => simp [same] at h
  | bool a =>
    cases b with
    | bool b => rw [eq_of_beq (show (a == b) = true by simpa only [same] using h)]
    | _ => simp [same] at h
  | number m =>
    cases b with
    | number n =>
      rw [unsignZeros, unsignZeros, JsonNumber.unsignZero_eq_of_beq (by simpa only [same] using h)]
    | _ => simp [same] at h
  | string a =>
    cases b with
    | string b => rw [eq_of_beq (show (a == b) = true by simpa only [same] using h)]
    | _ => simp [same] at h
  | array as =>
    cases b with
    | array bs =>
      rw [unsignZeros, unsignZeros, unsignItems_eq_of_same as bs (by simpa only [same] using h)]
    | _ => simp [same] at h
  | object as =>
    cases b with
    | object bs =>
      rw [unsignZeros, unsignZeros, unsignMembers_eq_of_same as bs (by simpa only [same] using h)]
    | _ => simp [same] at h

theorem unsignItems_eq_of_same (as bs : List Json) (h : sameItems as bs = true) :
    unsignItems as = unsignItems bs := by
  cases as with
  | nil => cases bs <;> simp [sameItems] at h ⊢
  | cons a as =>
    cases bs with
    | nil => simp [sameItems] at h
    | cons b bs =>
      simp only [sameItems, Bool.and_eq_true] at h
      rw [unsignItems, unsignItems, unsignZeros_eq_of_same a b h.1,
        unsignItems_eq_of_same as bs h.2]

theorem unsignMembers_eq_of_same (as bs : List (String × Json)) (h : sameMembers as bs = true) :
    unsignMembers as = unsignMembers bs := by
  cases as with
  | nil => cases bs <;> simp [sameMembers] at h ⊢
  | cons a as =>
    cases bs with
    | nil => simp [sameMembers] at h
    | cons b bs =>
      obtain ⟨k, a⟩ := a
      obtain ⟨l, b⟩ := b
      simp only [sameMembers, Bool.and_eq_true, beq_iff_eq] at h
      rw [unsignMembers, unsignMembers, h.1.1, unsignZeros_eq_of_same a b h.1.2,
        unsignMembers_eq_of_same as bs h.2]

end

end Json

/-! ## Texts made from numbers -/

/-- The length with no sign on a zero. -/
def Dimension.unsignZero : Dimension → Dimension
  | px length => px length.unsignZero
  | percent share => percent share.unsignZero

/-- A percentage of zero loses its sign as a text, too. -/
@[simp] theorem unsignZeros_encode_dimension (d : Dimension) :
    (Format.dimension.encode d.unsignZero).unsignZeros =
      (Format.dimension.encode d).unsignZeros := by
  cases d with
  | px length => simp [Dimension.unsignZero, Format.dimension]
  | percent share =>
    rcases share.unsignZero_eq_self_or_zero with h | ⟨negative, rfl⟩
    · rw [Dimension.unsignZero, h]
    · cases negative <;> exact congrArg Json.string (by decide)

/-- A zero as a share, with the sign minus or without a sign. -/
def zeroShare (negative : Bool) : String := if negative then "-0.0%" else "0.0%"

/-- Behind a name, the sign of a zero share does not count. -/
theorem unsignText_zeroShare (name : String) (negative : Bool) :
    unsignText s!"{name}: {zeroShare negative}" = s!"{name}: {zeroShare false}" := by
  have hunsigned : unsignShare (s!"{name}: {zeroShare negative}").toList.reverse =
      (s!"{name}: {zeroShare false}").toList.reverse := by
    cases negative <;> simp [zeroShare, unsignShare, toString]
  rw [unsignText, hunsigned, List.reverse_reverse, String.ofList_toList]

namespace Percent

open Binary64

theorem exists_zero_div {y : Binary64} (negative : Bool) (hfinite : y.isFinite = true)
    (hne : (y == 0) = false) : ∃ sign, zero negative / y = zero sign := by
  cases y with
  | nan | infinite => cases hfinite
  | finite t b hb =>
    have hb0 : b ≠ 0 := by
      rintro rfl
      rw [ofNat_zero] at hne
      exact Bool.false_ne_true (hne.symm.trans (zero_beq_zero t false))
    refine ⟨negative != t, ?_⟩
    change div (zero negative) (finite t b hb) = _
    simp only [zero, div, if_neg hb0, Nat.zero_mul]
    exact ofRatio_zero _ _

theorem exists_zero_mul {y : Binary64} (negative : Bool) (hfinite : y.isFinite = true) :
    ∃ sign, zero negative * y = zero sign := by
  cases y with
  | nan | infinite => cases hfinite
  | finite t b hb =>
    refine ⟨negative != t, ?_⟩
    change mul (zero negative) (finite t b hb) = _
    simp only [zero, mul, Nat.zero_mul]
    exact ofRatio_zero _ _

/-- The share of a zero in a total that is neither zero nor infinite is a zero. -/
theorem share_zero {total : Binary64} (negative : Bool) (hfinite : total.isFinite = true)
    (hne : (total == 0) = false) : ∃ sign, share (zero negative) total = zero sign := by
  obtain ⟨quotient, hquotient⟩ := exists_zero_div negative hfinite hne
  obtain ⟨sign, hproduct⟩ := exists_zero_mul (y := 100) quotient (isFinite_ofNat (by decide))
  have hpositive : largestShare.isNegative = false := by
    unfold largestShare
    exact isNegative_ofDecimal false 1 15
  exact ⟨sign, by rw [share, hquotient, hproduct, clamp_zero hpositive]⟩

/-- The share of a zero is written as a zero; what is left of its sign is the sign of the text. -/
theorem label_zero (negative : Bool) (total : Binary64) :
    ∃ sign, label (zero negative) total = zeroShare sign := by
  unfold label DecimalArithmetic.label
  by_cases hnone : (total == 0 || !total.isFinite || !(zero negative).isFinite) = true
  · refine ⟨false, ?_⟩
    rw [if_pos hnone]
    decide
  · rw [if_neg hnone]
    simp only [Bool.or_eq_true, Bool.not_eq_true', not_or, Bool.not_eq_false,
      Bool.not_eq_true] at hnone
    obtain ⟨sign, hshare⟩ := share_zero negative hnone.1.2 hnone.1.1
    have hheld : DecimalArithmetic.standard.ofBinary64 (zero sign) = some ⟨sign, 0, 28⟩ := by
      have hword : 0 < 2 ^ (96 : Nat) * oneUnits :=
        Nat.mul_pos (Nat.two_pow_pos _) zero_lt_oneUnits
      simp [DecimalArithmetic.standard, zero, heldDigits, vanishes, heldPlaces, zero_lt_oneUnits,
        decimalLength]
    refine ⟨sign, ?_⟩
    rw [hshare, hheld]
    cases sign <;> decide

theorem label_unsignZero_total (value total : Binary64) :
    label value total.unsignZero = label value total := by
  rcases total.unsignZero_eq_self_or_zero with h | ⟨negative, rfl⟩
  · rw [h]
  · have hzero (sign : Bool) : (zero sign == 0) = true := by
      rw [ofNat_zero]
      exact zero_beq_zero sign false
    simp only [label, DecimalArithmetic.label, unsignZero_zero, hzero, Bool.true_or, if_true]

/-- The label of a slice is the same up to the sign of a zero share. -/
theorem unsignText_label (name : String) (value : Binary64) {total other : Binary64}
    (h : total.unsignZero = other.unsignZero) :
    unsignText s!"{name}: {label value.unsignZero total}" =
      unsignText s!"{name}: {label value other}" := by
  -- The label does not see the sign of the total; of the value it sees the sign only if it is zero.
  rw [← label_unsignZero_total value.unsignZero, h, label_unsignZero_total]
  rcases value.unsignZero_eq_self_or_zero with hself | ⟨negative, rfl⟩
  · rw [hself]
  · obtain ⟨sign, hsign⟩ := label_zero negative other
    obtain ⟨sign', hsign'⟩ := label_zero false other
    rw [unsignZero_zero, hsign, hsign', unsignText_zeroShare, unsignText_zeroShare]

end Percent
end Charting
