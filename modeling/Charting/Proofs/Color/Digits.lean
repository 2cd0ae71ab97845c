import Charting.Color
import Charting.Proofs.Rounding.Scale
import Charting.Proofs.RoundTrip.Dimension
import Charting.Proofs.Text

/-! # Colours in hexadecimal digits

Digits behind `#` are a colour if there are three, four, six or eight of them (`exists_ofHex_iff`).
Short forms are read as long ones, and a long form is read pair by pair: a pair of digits is a byte,
a byte is a channel between zero and one, and the byte of that channel is the same byte again
(`byte_byteChannel`).  So six digits are written as they were read, in lower case (`hex_of_ofHex`).
-/
namespace Charting.Color

open Number Text

/-- Each channel is a number from zero to one. -/
def InRange (c : Color) : Prop := ∀ channel, 0 ≤ c.get channel ∧ c.get channel ≤ 1

theorem inRange_iff {c : Color} :
    c.InRange ↔ (0 ≤ c.red ∧ c.red ≤ 1) ∧ (0 ≤ c.green ∧ c.green ≤ 1) ∧
      (0 ≤ c.blue ∧ c.blue ≤ 1) ∧ 0 ≤ c.alpha ∧ c.alpha ≤ 1 := by
  refine ⟨fun h => ⟨h .red, h .green, h .blue, h .alpha⟩, fun h channel => ?_⟩
  cases channel
  · exact h.1
  · exact h.2.1
  · exact h.2.2.1
  · exact h.2.2.2

theorem inRange_eq_true_iff {x : Binary64} : inRange x = true ↔ 0 ≤ x ∧ x ≤ 1 := by
  rw [inRange, Bool.and_eq_true, Bool.and_eq_true, decide_eq_true_eq, decide_eq_true_eq]
  exact ⟨fun h => ⟨h.1.2, h.2⟩, fun h => ⟨⟨Binary64.isFinite_of_le_of_le Binary64.isFinite_zero
    Binary64.isFinite_one h.1 h.2, h.1⟩, h.2⟩⟩

theorem validate_eq_ok_iff {c : Color} : c.validate = .ok () ↔ c.InRange := by
  have hnone : [Channel.red, .green, .blue, .alpha].find?
      (fun channel => !inRange (c.get channel)) = none ↔ c.InRange := by
    simp [inRange_iff, inRange_eq_true_iff, get]
  rw [validate, ← hnone]
  cases [Channel.red, .green, .blue, .alpha].find? (fun channel => !inRange (c.get channel)) <;>
    simp

theorem parse_eq_ok_iff {text : String} {c : Color} :
    parse text = .ok c ↔ ofChars (trim text.toList) = some c ∧ c.InRange := by
  rw [parse]
  cases ofChars (trim text.toList) with
  | none => simp
  | some found =>
    simp only [Option.some.injEq, ← validate_eq_ok_iff]
    cases hvalid : found.validate with
    | error fault =>
      refine iff_of_false nofun ?_
      rintro ⟨rfl, h⟩
      rw [hvalid] at h
      cases h
    | ok =>
      constructor
      · intro h
        cases h
        exact ⟨rfl, hvalid⟩
      · rintro ⟨rfl, -⟩
        rfl

/-! ## Hexadecimal forms -/

theorem isSome_hexChannel_iff {pair : List Char} :
    (hexChannel pair).isSome = true ↔ ∀ d ∈ pair, d ∈ hexDigits := by
  rw [hexChannel, Option.isSome_map, isSome_hexNumber?_iff]

theorem hexChannel_map_toLower (pair : List Char) :
    hexChannel (pair.map Char.toLower) = hexChannel pair := by
  rw [hexChannel, hexChannel, hexNumber?_map_toLower]

/-- A pair of digits is a channel of the byte that is written as the pair in lower case. -/
theorem exists_byte_of_hexChannel {a b : Char} {x : Binary64} (h : hexChannel [a, b] = some x) :
    ∃ n ≤ 255, x = .ofNat n / 255 ∧ hexPair n = [a.toLower, b.toLower] := by
  obtain ⟨n, hn, rfl⟩ := Option.map_eq_some_iff.mp h
  obtain ⟨hlt, hpair⟩ := hexPair_hexNumber? hn
  exact ⟨n, Nat.le_of_lt_succ hlt, rfl, hpair⟩

theorem ofNat_255_pos : (0 : Binary64) < 255 := Binary64.ofNat_pos (by decide)

theorem isFinite_255 : (255 : Binary64).isFinite = true := Binary64.isFinite_ofNat (by decide)

theorem one_le_one : (1 : Binary64) ≤ 1 :=
  Binary64.le_refl (Binary64.isNaN_eq_false_of_isFinite Binary64.isFinite_one)

theorem div_255_inRange {x : Binary64} (hlow : 0 ≤ x) (hhigh : x ≤ 255) :
    0 ≤ x / 255 ∧ x / 255 ≤ 1 :=
  ⟨Binary64.zero_le_div isFinite_255 ofNat_255_pos hlow,
    Binary64.div_le_one isFinite_255 ofNat_255_pos hhigh⟩

theorem byteChannel_inRange {n : Nat} (h : n ≤ 255) :
    0 ≤ (.ofNat n / 255 : Binary64) ∧ (.ofNat n / 255 : Binary64) ≤ 1 :=
  Binary64.step_inRange (by decide) (by decide) h

/-- A byte is found again in its channel. -/
theorem byte_byteChannel {n : Nat} (h : n ≤ 255) : byte (.ofNat n / 255) = n := by
  obtain ⟨hlow, hhigh⟩ := byteChannel_inRange h
  rw [byte, Binary64.clamp_eq_self hlow hhigh]
  exact Binary64.nearestNat_step (by decide) (by decide) h

section Digits

variable {digits : List Char} {c : Color}

theorem length_flatMap_pair (digits : List Char) :
    (digits.flatMap fun d => [d, d]).length = 2 * digits.length := by
  simp [List.length_flatMap, Nat.mul_comm]

/-- A short form is read as its digits doubled. -/
theorem ofHex_flatMap (h : digits.length = 3 ∨ digits.length = 4) :
    ofHex (digits.flatMap fun d => [d, d]) = ofHex digits := by
  have hlength := length_flatMap_pair digits
  have hlong : (digits.flatMap fun d => [d, d]).length = 6 ∨
      (digits.flatMap fun d => [d, d]).length = 8 := by omega
  have hshort : ¬((digits.flatMap fun d => [d, d]).length = 3 ∨
      (digits.flatMap fun d => [d, d]).length = 4) := by omega
  simp only [ofHex, if_pos h, if_pos hlong, if_neg hshort]

/-- How many digits a colour has. -/
def HasCount (digits : List Char) : Prop :=
  (digits.length = 3 ∨ digits.length = 4) ∨ digits.length = 6 ∨ digits.length = 8

theorem hasCount_of_ofHex (h : ofHex digits = some c) : HasCount digits := by
  by_contra hcount
  rw [HasCount, not_or] at hcount
  rw [ofHex, if_neg hcount.1, if_neg hcount.2] at h
  cases h

/-- Every form is read as a long one of the same digits. -/
theorem exists_long (h : HasCount digits) :
    ∃ long, (long.length = 6 ∨ long.length = 8) ∧
      (long.length = 8 ↔ digits.length = 4 ∨ digits.length = 8) ∧
      (∀ d, d ∈ long ↔ d ∈ digits) ∧ ofHex long = ofHex digits := by
  rcases h with hshort | hlong
  · have hlength := length_flatMap_pair digits
    exact ⟨_, by omega, by omega, by simp, ofHex_flatMap hshort⟩
  · exact ⟨digits, hlong, by omega, fun _ => Iff.rfl, rfl⟩

/-- A long form is read pair by pair. -/
theorem ofHex_eq_some_iff (h : digits.length = 6 ∨ digits.length = 8) :
    ofHex digits = some c ↔
      hexChannel (digits.take 2) = some c.red ∧
      hexChannel ((digits.drop 2).take 2) = some c.green ∧
      hexChannel ((digits.drop 4).take 2) = some c.blue ∧
      (if digits.length = 8 then hexChannel (digits.drop 6) else some 1) = some c.alpha := by
  have hshort : ¬(digits.length = 3 ∨ digits.length = 4) := by omega
  obtain ⟨red, green, blue, alpha⟩ := c
  simp only [ofHex, if_neg hshort, if_pos h, Option.bind_eq_bind, Option.bind_some]
  split
  all_goals
    simp only [Option.bind_eq_some_iff, Option.pure_def, Option.some.injEq, mk.injEq]
    constructor
  · rintro ⟨_, hred, _, hgreen, _, hblue, _, halpha, rfl, rfl, rfl, rfl⟩
    exact ⟨hred, hgreen, hblue, halpha⟩
  · rintro ⟨hred, hgreen, hblue, halpha⟩
    exact ⟨_, hred, _, hgreen, _, hblue, _, halpha, rfl, rfl, rfl, rfl⟩
  · rintro ⟨_, hred, _, hgreen, _, hblue, rfl, rfl, rfl, rfl⟩
    exact ⟨hred, hgreen, hblue, rfl⟩
  · rintro ⟨hred, hgreen, hblue, rfl⟩
    exact ⟨_, hred, _, hgreen, _, hblue, rfl, rfl, rfl, rfl⟩

theorem ofHex_map_toLower (digits : List Char) :
    ofHex (digits.map Char.toLower) = ofHex digits := by
  have hdouble : (digits.map Char.toLower).flatMap (fun d => [d, d]) =
      (digits.flatMap fun d => [d, d]).map Char.toLower := by
    induction digits with
    | nil => rfl
    | cons d digits ih => simp [ih]
  simp only [ofHex, hdouble, List.length_map]
  split
  · simp only [Option.bind_eq_bind, Option.bind_some, ← List.map_take, ← List.map_drop,
      List.length_map, hexChannel_map_toLower]
  · split
    · simp only [Option.bind_eq_bind, Option.bind_some, ← List.map_take, ← List.map_drop,
        List.length_map, hexChannel_map_toLower]
    · rfl

/-- Of a long form, the pairs that are read are all. -/
theorem forall_mem_pairs {P : Char → Prop} (digits : List Char) :
    (∀ d ∈ digits, P d) ↔ (∀ d ∈ digits.take 2, P d) ∧ (∀ d ∈ (digits.drop 2).take 2, P d) ∧
      (∀ d ∈ (digits.drop 4).take 2, P d) ∧ ∀ d ∈ digits.drop 6, P d := by
  have hcut (rest : List Char) : (∀ d ∈ rest, P d) ↔ (∀ d ∈ rest.take 2, P d) ∧
      ∀ d ∈ rest.drop 2, P d := by
    rw [← List.forall_mem_append, List.take_append_drop]
  rw [hcut digits, hcut (digits.drop 2), hcut ((digits.drop 2).drop 2), List.drop_drop,
    List.drop_drop]

/-- Digits are a colour if they are of one of four counts and all hexadecimal. -/
theorem exists_ofHex_iff :
    (∃ c, ofHex digits = some c) ↔ HasCount digits ∧ ∀ d ∈ digits, d ∈ hexDigits := by
  have hlong {long : List Char} (h : long.length = 6 ∨ long.length = 8) :
      (∃ c, ofHex long = some c) ↔ ∀ d ∈ long, d ∈ hexDigits := by
    have halpha : (if long.length = 8 then hexChannel (long.drop 6) else some 1).isSome = true ↔
        ∀ d ∈ long.drop 6, d ∈ hexDigits := by
      rcases h with h | h
      · have hnil : long.drop 6 = [] := List.drop_eq_nil_of_le h.le
        simp [h, hnil]
      · rw [if_pos h, isSome_hexChannel_iff]
    rw [forall_mem_pairs, ← halpha, ← isSome_hexChannel_iff, ← isSome_hexChannel_iff,
      ← isSome_hexChannel_iff]
    simp only [Option.isSome_iff_exists]
    constructor
    · rintro ⟨c, hc⟩
      obtain ⟨hred, hgreen, hblue, halpha⟩ := (ofHex_eq_some_iff h).mp hc
      exact ⟨⟨_, hred⟩, ⟨_, hgreen⟩, ⟨_, hblue⟩, ⟨_, halpha⟩⟩
    · rintro ⟨⟨red, hred⟩, ⟨green, hgreen⟩, ⟨blue, hblue⟩, ⟨alpha, halpha⟩⟩
      exact ⟨⟨red, green, blue, alpha⟩, (ofHex_eq_some_iff h).mpr ⟨hred, hgreen, hblue, halpha⟩⟩
  have hall (hcount : HasCount digits) :
      (∃ c, ofHex digits = some c) ↔ ∀ d ∈ digits, d ∈ hexDigits := by
    obtain ⟨long, hlength, -, hmem, hread⟩ := exists_long hcount
    rw [← hread, hlong hlength]
    exact forall_congr' fun d => imp_congr_left (hmem d)
  constructor
  · rintro ⟨c, hc⟩
    have hcount := hasCount_of_ofHex hc
    exact ⟨hcount, (hall hcount).mp ⟨c, hc⟩⟩
  · exact fun h => (hall h.1).mpr h.2

theorem hexChannel_inRange {pair : List Char} {x : Binary64} (hlength : pair.length = 2)
    (h : hexChannel pair = some x) : 0 ≤ x ∧ x ≤ 1 := by
  obtain ⟨a, b, rfl⟩ := List.length_eq_two.mp hlength
  obtain ⟨n, hn, hx, -⟩ := exists_byte_of_hexChannel h
  rw [hx]
  exact byteChannel_inRange hn

theorem inRange_of_ofHex (h : ofHex digits = some c) : c.InRange := by
  obtain ⟨long, hlength, -, -, hread⟩ := exists_long (hasCount_of_ofHex h)
  obtain ⟨hred, hgreen, hblue, halpha⟩ := (ofHex_eq_some_iff hlength).mp (hread.trans h)
  have hpair {k : Nat} (hk : k + 2 ≤ long.length) : ((long.drop k).take 2).length = 2 := by
    rw [List.length_take, List.length_drop]
    omega
  refine inRange_iff.mpr ⟨hexChannel_inRange (hpair (k := 0) (by omega)) hred,
    hexChannel_inRange (hpair (by omega)) hgreen, hexChannel_inRange (hpair (by omega)) hblue, ?_⟩
  split at halpha
  case isTrue hlength =>
    exact hexChannel_inRange (by rw [List.length_drop, hlength]) halpha
  case isFalse =>
    rw [← Option.some.inj halpha]
    exact ⟨Binary64.zero_le_one, one_le_one⟩

/-- Without digits for it, the alpha is one. -/
theorem alpha_of_ofHex (h : ofHex digits = some c)
    (hcount : digits.length = 3 ∨ digits.length = 6) : c.alpha = 1 := by
  obtain ⟨long, hlength, height, -, hread⟩ := exists_long (hasCount_of_ofHex h)
  obtain ⟨-, -, -, halpha⟩ := (ofHex_eq_some_iff hlength).mp (hread.trans h)
  rw [if_neg (by omega)] at halpha
  exact (Option.some.inj halpha).symm

/-- Six digits are written as they were read, in lower case. -/
theorem hex_of_ofHex (h : ofHex digits = some c) (hcount : digits.length = 6) :
    c.hex = String.ofList ('#' :: digits.map Char.toLower) := by
  obtain ⟨hred, hgreen, hblue, -⟩ := (ofHex_eq_some_iff (Or.inl hcount)).mp h
  match digits, hcount with
  | [a, b, d, e, f, g], _ =>
    simp only [List.take_succ_cons, List.take_zero, List.drop_succ_cons, List.drop_zero]
      at hred hgreen hblue
    obtain ⟨red, hlered, hr, hpairred⟩ := exists_byte_of_hexChannel hred
    obtain ⟨green, hlegreen, hg, hpairgreen⟩ := exists_byte_of_hexChannel hgreen
    obtain ⟨blue, hleblue, hb, hpairblue⟩ := exists_byte_of_hexChannel hblue
    simp only [hex, bytes, hr, hg, hb, byte_byteChannel hlered, byte_byteChannel hlegreen,
      byte_byteChannel hleblue, List.flatMap_cons, List.flatMap_nil, hpairred, hpairgreen,
      hpairblue]
    rfl

end Digits

/-- Behind `#`, a text is read if its digits are: there are no blanks among them. -/
theorem parse_hash {digits : List Char} {c : Color} (h : ofHex digits = some c) :
    parse (String.ofList ('#' :: digits)) = .ok c := by
  obtain ⟨-, hall⟩ := exists_ofHex_iff.mp ⟨c, h⟩
  have hdigits : (hexDigits.all fun d => !isBlank d) = true := by decide
  have htrim : trim ('#' :: digits) = '#' :: digits := trim_eq_self fun x hx => by
    rcases List.mem_cons.mp hx with rfl | hx
    · rfl
    · simpa using List.all_eq_true.mp hdigits x (hall x hx)
  rw [parse_eq_ok_iff, String.toList_ofList, htrim]
  exact ⟨h, inRange_of_ofHex h⟩

end Charting.Color
