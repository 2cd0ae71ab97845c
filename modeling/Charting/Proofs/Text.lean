import Charting.Text.Blank
import Charting.Text.Hex
import Charting.Text.Split

/-! # Texts that are taken apart

What the ways to take a text apart have in common is how it is put together again: a text is its
parts with the separator between them, and what is left of it behind the beginning that is taken
off.  Hexadecimal digits are read regardless of their letter case, and two of them are written as
they were read, in lower case.
-/
namespace Charting.Text

/-! ## Parts between separators -/

theorem split_eq_splitOn (separator : Char) (cs : List Char) :
    split separator cs = cs.splitOn separator := by
  induction cs with
  | nil => rfl
  | cons c cs ih =>
    rw [split, ih, List.splitOn, List.splitOn, List.splitOnP_cons_eq_if_modifyHead]
    by_cases hc : c = separator
    · simp [hc]
    · have hne := split_ne_nil separator cs
      rw [ih, List.splitOn] at hne
      obtain ⟨part, parts, hparts⟩ := List.exists_cons_of_ne_nil hne
      simp [hc, hparts]

theorem notMem_of_mem_split {separator : Char} {cs part : List Char}
    (h : part ∈ split separator cs) : separator ∉ part := by
  induction cs generalizing part with
  | nil =>
    rw [split, List.mem_singleton] at h
    simp [h]
  | cons c cs ih =>
    rw [split] at h
    by_cases hc : c = separator
    · rw [if_pos hc, List.mem_cons] at h
      rcases h with rfl | h
      · simp
      · exact ih h
    · rw [if_neg hc] at h
      cases hsplit : split separator cs with
      | nil => exact absurd hsplit (split_ne_nil separator cs)
      | cons first parts =>
        simp only [hsplit, List.mem_cons] at h ih
        rcases h with rfl | h
        · simpa [Ne.symm hc] using ih (Or.inl rfl)
        · exact ih (Or.inr h)

/-- The parts of a text are the texts without the separator that it consists of. -/
theorem split_eq_iff {separator : Char} {cs : List Char} {parts : List (List Char)}
    (hne : parts ≠ []) :
    split separator cs = parts ↔
      (∀ part ∈ parts, separator ∉ part) ∧ cs = [separator].intercalate parts := by
  constructor
  · rintro rfl
    refine ⟨fun part => notMem_of_mem_split, ?_⟩
    rw [split_eq_splitOn, List.intercalate_splitOn]
  · rintro ⟨hparts, rfl⟩
    rw [split_eq_splitOn, List.splitOn_intercalate separator hparts hne]

/-! ## Beginnings, endings and blanks -/

theorem dropStart?_eq_some_iff {start cs rest : List Char} :
    dropStart? start cs = some rest ↔ cs = start ++ rest := by
  rw [dropStart?]
  constructor
  · intro h
    split at h
    case isTrue hprefix =>
      obtain ⟨behind, rfl⟩ := List.isPrefixOf_iff_prefix.mp hprefix
      rw [Option.some.injEq, List.drop_left] at h
      rw [h]
    case isFalse => cases h
  · rintro rfl
    simp

theorem dropEnd?_eq_some_iff {ending cs rest : List Char} :
    dropEnd? ending cs = some rest ↔ cs = rest ++ ending := by
  rw [dropEnd?]
  constructor
  · intro h
    split at h
    case isTrue hsuffix =>
      obtain ⟨before, rfl⟩ := List.isSuffixOf_iff_suffix.mp hsuffix
      rw [Option.some.injEq, List.length_append, Nat.add_sub_cancel, List.take_left] at h
      rw [h]
    case isFalse => cases h
  · rintro rfl
    simp

/-- What is in front of a text without its blanks are blanks. -/
theorem exists_blanks_append_trimStart (cs : List Char) :
    ∃ blanks, (∀ b ∈ blanks, isBlank b = true) ∧ cs = blanks ++ trimStart cs :=
  ⟨cs.takeWhile isBlank, List.all_eq_true.mp List.all_takeWhile,
    List.takeWhile_append_dropWhile.symm⟩

theorem trimStart_append {blanks : List Char} (hblanks : ∀ b ∈ blanks, isBlank b = true)
    (cs : List Char) : trimStart (blanks ++ cs) = trimStart cs :=
  List.dropWhile_append_of_pos hblanks

theorem trimStart_cons {c : Char} (hc : isBlank c = false) (cs : List Char) :
    trimStart (c :: cs) = c :: cs :=
  List.dropWhile_cons_of_neg (by simp [hc])

/-- A text between two characters that are not blank is not trimmed. -/
theorem trim_enclosed {first last : Char} (hfirst : isBlank first = false)
    (hlast : isBlank last = false) (cs : List Char) :
    trim (first :: (cs ++ [last])) = first :: (cs ++ [last]) := by
  have hreverse : (first :: (cs ++ [last])).reverse = last :: (first :: cs).reverse := by simp
  rw [trim, trimStart_cons hfirst, trimEnd, hreverse,
    List.dropWhile_cons_of_neg (by simp [hlast]), ← hreverse, List.reverse_reverse]

/-! ## Hexadecimal digits -/

/-- The hexadecimal digits, letters in either case. -/
def hexDigits : List Char := "0123456789abcdefABCDEF".toList

/-- What holds of the first 128 characters and of all characters behind them holds of every one. -/
theorem forall_char {P : Char → Prop} (low : ∀ n < 128, P (Char.ofNat n))
    (high : ∀ c : Char, 128 ≤ c.toNat → P c) (c : Char) : P c := by
  rcases Nat.lt_or_ge c.toNat 128 with hc | hc
  · exact Char.ofNat_toNat c ▸ low c.toNat hc
  · exact high c hc

theorem hexValue?_of_le {c : Char} (h : 128 ≤ c.toNat) : hexValue? c = none := by
  have hdigit : ¬(c ≤ '9') := fun hle => absurd (UInt32.le_iff_toNat_le.mp hle) (by
    change ¬ c.toNat ≤ 57
    omega)
  have hsmall : ¬(c ≤ 'f') := fun hle => absurd (UInt32.le_iff_toNat_le.mp hle) (by
    change ¬ c.toNat ≤ 102
    omega)
  have hcapital : ¬(c ≤ 'F') := fun hle => absurd (UInt32.le_iff_toNat_le.mp hle) (by
    change ¬ c.toNat ≤ 70
    omega)
  simp [hexValue?, hdigit, hsmall, hcapital]

theorem toLower_of_le {c : Char} (h : 128 ≤ c.toNat) : c.toLower = c := by
  have hcapital : ¬(c.val ≥ 'A'.val ∧ c.val ≤ 'Z'.val) := fun hrange => by
    have : c.toNat ≤ 90 := UInt32.le_iff_toNat_le.mp hrange.2
    omega
  exact dif_neg hcapital

theorem hexValue?_toLower (c : Char) : hexValue? c.toLower = hexValue? c := by
  revert c
  exact forall_char (by decide) fun c hc => by rw [toLower_of_le hc]

theorem isSome_hexValue?_iff (c : Char) : (hexValue? c).isSome = true ↔ c ∈ hexDigits := by
  constructor
  · revert c
    refine forall_char (by decide) fun c hc h => ?_
    rw [hexValue?_of_le hc] at h
    cases h
  · have hall : (hexDigits.all fun d => (hexValue? d).isSome) = true := by decide
    exact List.all_eq_true.mp hall c

/-- The value of a digit is written as the digit in lower case. -/
theorem digitChar_hexValue? (c : Char) :
    ∀ n ∈ hexValue? c, n < 16 ∧ Nat.digitChar n = c.toLower := by
  revert c
  refine forall_char (by decide) fun c hc n hn => ?_
  rw [hexValue?_of_le hc] at hn
  cases hn

/-! ## Runs of hexadecimal digits -/

/-- A run of digits is read if all of it are digits, whatever was read before it. -/
theorem isSome_hexNumber?_iff (cs : List Char) :
    (hexNumber? cs).isSome = true ↔ ∀ c ∈ cs, c ∈ hexDigits := by
  suffices hrun : ∀ before, (cs.foldlM (fun n c => (hexValue? c).map (16 * n + ·)) before).isSome =
      true ↔ ∀ c ∈ cs, c ∈ hexDigits from hrun 0
  induction cs with
  | nil => simp
  | cons c cs ih =>
    intro before
    rw [List.foldlM_cons, List.forall_mem_cons, ← isSome_hexValue?_iff]
    cases hexValue? c with
    | none => simp
    | some n => simpa using ih (16 * before + n)

theorem hexNumber?_map_toLower (cs : List Char) :
    hexNumber? (cs.map Char.toLower) = hexNumber? cs := by
  rw [hexNumber?, hexNumber?, List.foldlM_map]
  simp only [hexValue?_toLower]

/-- A pair of digits spells a byte, which is written as the pair in lower case. -/
theorem hexPair_hexNumber? {a b : Char} {n : Nat} (h : hexNumber? [a, b] = some n) :
    n < 256 ∧ hexPair n = [a.toLower, b.toLower] := by
  simp only [hexNumber?, List.foldlM_cons, List.foldlM_nil, Option.bind_eq_bind,
    Option.bind_eq_some_iff, Option.map_eq_some_iff, Option.pure_def, Option.some.injEq] at h
  obtain ⟨_, ⟨high, hhigh, rfl⟩, _, ⟨low, hlow, rfl⟩, rfl⟩ := h
  obtain ⟨hhigh, ha⟩ := digitChar_hexValue? a high hhigh
  obtain ⟨hlow, hb⟩ := digitChar_hexValue? b low hlow
  have hdiv : (16 * (16 * 0 + high) + low) / 16 % 16 = high := by omega
  have hmod : (16 * (16 * 0 + high) + low) % 16 = low := by omega
  exact ⟨by omega, by rw [hexPair, hdiv, hmod, ha, hb]⟩

end Charting.Text
