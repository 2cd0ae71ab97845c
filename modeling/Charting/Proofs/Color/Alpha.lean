import Charting.Proofs.Color.Grammar

/-! # Another alpha for a colour

A variant of a colour is written with bytes for its channels and a step of a thousandth for its
alpha.  It is a colour again (`parse_css`), its bytes are the same bytes, and its alpha is at most
half a step away from the one asked for, up to what rounding costs (`abs_shownAlpha_sub_lt`).  So a
second variant is what it would have been without the first one (`alphaVariant_again`).

A NaN is written as the name of a NaN, which is no colour, and `transparent` is none either: what
cannot be read stays as it is from there on.
-/
namespace Charting.Color

open Number Text

-- Powers of naturals are the built-in ones, also beside other instances of powers.
attribute [local instance (1100)] instPowNat

/-! ## The parts of a CSS form -/

/-- What is written between commas: no blanks and no commas. -/
def IsPlain (cs : List Char) : Prop := ∀ x ∈ cs, isBlank x = false ∧ x ≠ ','

theorem isPlain_toDigits (n : Nat) : IsPlain (Nat.toDigits 10 n) := fun x hx => by
  have hdigit := isDigit_of_mem_toDigits hx
  exact ⟨isBlank_of_isDigit hdigit, by rintro rfl; cases hdigit⟩

theorem isPlain_chars {x : Binary64} (hfinite : x.isFinite = true) :
    IsPlain (x.chars .plain) := fun c hc => by
  refine ⟨Dimension.isBlank_of_mem_chars hfinite hc, ?_⟩
  rintro rfl
  have hnot : ¬((',').isDigit = true ∨ ',' = '.' ∨ ',' = '-') := by decide
  exact hnot (Binary64.isDigit_or_of_mem_chars hfinite hc)

section Plain

variable {blanks cs : List Char} (hblanks : ∀ b ∈ blanks, b = ' ') (hcs : IsPlain cs)
include hblanks hcs

theorem trim_append : trim (blanks ++ cs) = cs := by
  have hblank : ∀ b ∈ blanks, isBlank b = true := fun b hb => by
    rw [hblanks b hb]
    rfl
  rw [trim, trimStart_append hblank]
  exact trim_eq_self fun x hx => (hcs x hx).1

theorem notMem_append : ',' ∉ blanks ++ cs := by
  rw [List.mem_append, not_or]
  exact ⟨fun h => absurd (hblanks _ h) (by decide), fun h => (hcs _ h).2 rfl⟩

end Plain

theorem byte_le (channel : Binary64) : byte channel ≤ 255 := by
  cases hnan : channel.isNaN with
  | true =>
    cases channel with
    | nan =>
      rw [byte, Binary64.clamp_nan]
      exact Nat.zero_le _
    | infinite | finite => cases hnan
  | false =>
    obtain ⟨units, hunits, hcounts⟩ := Binary64.exists_counts_clamp hnan
    exact Binary64.nearestNat_le hcounts hunits (by decide)

/-- A byte is written as a channel. -/
theorem isChannel_toDigits {n : Nat} (h : n ≤ 255) {blanks : List Char}
    (hblanks : ∀ b ∈ blanks, b = ' ') :
    IsChannel (blanks ++ Nat.toDigits 10 n) (.ofNat n / 255) where
  noComma := notMem_append hblanks (isPlain_toDigits n)
  read := by
    rw [trim_append hblanks (isPlain_toDigits n)]
    exact partChannel_eq_some_iff.mpr ⟨.ofNat n, isLiteral_toDigits (h.trans (by decide)),
      ⟨Binary64.zero_le_ofNat n, Binary64.ofNat_le_ofNat h⟩, rfl⟩

/-! ## Alphas -/

/-- The number that an alpha is written as, a step of a thousandth or a NaN. -/
def shownAlpha (alpha : Binary64) : Binary64 :=
  if alpha.isNaN then .nan else .ofNat (alpha.clamp 0 1 * 1000).nearestNat / 1000

theorem alphaText_eq (alpha : Binary64) : alphaText alpha = (shownAlpha alpha).chars .plain := by
  unfold alphaText shownAlpha
  split <;> rfl

section Number

variable {alpha : Binary64} (hnumber : alpha.isNaN = false)
include hnumber

theorem shownAlpha_of_number :
    shownAlpha alpha = .ofNat (alpha.clamp 0 1 * .ofNat 1000).nearestNat / .ofNat 1000 :=
  if_neg (by rw [hnumber]; exact Bool.false_ne_true)

theorem shownAlpha_inRange : 0 ≤ shownAlpha alpha ∧ shownAlpha alpha ≤ 1 := by
  obtain ⟨units, hunits, hcounts⟩ := Binary64.exists_counts_clamp hnumber
  rw [shownAlpha_of_number hnumber]
  exact Binary64.step_inRange (by decide) (by decide)
    (Binary64.nearestNat_le hcounts hunits (by decide))

/-- The written alpha is half a step away from the alpha, and what rounding costs. -/
theorem abs_shownAlpha_sub_lt :
    |(shownAlpha alpha).value - (alpha.clamp 0 1).value| < 51 / 100000 := by
  obtain ⟨units, hunits, hcounts⟩ := Binary64.exists_counts_clamp hnumber
  have herror := Binary64.abs_nearestStep_sub_le (n := 1000) hcounts hunits (by decide) (by decide)
  rw [shownAlpha_of_number hnumber]
  refine herror.trans_lt ?_
  norm_num

end Number

theorem isLiteral_alphaText (alpha : Binary64) :
    IsLiteral (alphaText alpha) (shownAlpha alpha) ∧ IsPlain (alphaText alpha) := by
  rw [alphaText_eq]
  cases hnumber : alpha.isNaN with
  | true =>
    rw [shownAlpha, if_pos hnumber]
    refine ⟨.nan .none rfl, ?_⟩
    simp [IsPlain, Binary64.chars, isBlank, blankRanges]
  | false =>
    obtain ⟨hlow, hhigh⟩ := shownAlpha_inRange hnumber
    have hfinite := Binary64.isFinite_of_le_of_le Binary64.isFinite_zero Binary64.isFinite_one
      hlow hhigh
    exact ⟨isLiteral_chars hfinite, isPlain_chars hfinite⟩

/-! ## Reading a CSS form -/

/-- What the CSS form of a colour shows of it. -/
def shown (c : Color) : Color where
  red := .ofNat (byte c.red) / 255
  green := .ofNat (byte c.green) / 255
  blue := .ofNat (byte c.blue) / 255
  alpha := shownAlpha c.alpha

theorem bytes_shown (c : Color) : c.shown.bytes = c.bytes := by
  simp only [bytes, shown, byte_byteChannel (byte_le _)]

/-- The arguments of a CSS form, apart at its commas. -/
def cssBody (c : Color) : List Char :=
  [','].intercalate [Nat.toDigits 10 (byte c.red), ' ' :: Nat.toDigits 10 (byte c.green),
    ' ' :: Nat.toDigits 10 (byte c.blue), ' ' :: alphaText c.alpha]

theorem intercalate_cssBody (c : Color) :
    [',', ' '].intercalate (c.bytes.map (Nat.toDigits 10) ++ [alphaText c.alpha]) = c.cssBody := by
  have hcommas (r g b a : List Char) : [',', ' '].intercalate [r, g, b, a] =
      [','].intercalate [r, ' ' :: g, ' ' :: b, ' ' :: a] := by
    simp [List.intercalate_cons_cons]
  exact hcommas _ _ _ _

theorem toList_css (c : Color) :
    c.css.toList = "rgba".toList ++ [] ++ '(' :: (c.cssBody ++ [')']) := by
  have hcss : c.css.toList = "rgba(".toList ++ [',', ' '].intercalate
      (c.bytes.map (Nat.toDigits 10) ++ [alphaText c.alpha]) ++ [')'] := String.toList_ofList
  rw [hcss, intercalate_cssBody, List.append_assoc]
  rfl

theorem trim_css (c : Color) : trim c.css.toList = c.css.toList := by
  rw [toList_css]
  exact @trim_enclosed 'r' ')' rfl rfl (['g', 'b', 'a', '('] ++ c.cssBody)

/-- A CSS form has the form of a colour, whatever colour it was written for. -/
theorem ofChars_css (c : Color) : ofChars (trim c.css.toList) = some c.shown := by
  obtain ⟨hliteral, hplain⟩ := isLiteral_alphaText c.alpha
  have hnone : ∀ b ∈ ([] : List Char), b = ' ' := by simp
  have hblank : ∀ b ∈ [' '], b = ' ' := by simp
  have halpha : IsLiteral (trim ([' '] ++ alphaText c.alpha)) (shownAlpha c.alpha) := by
    rw [trim_append hblank hplain]
    exact hliteral
  have hbody : ofParts true c.cssBody = some c.shown := ofParts_true_iff.mpr
    ⟨_, _, _, _, rfl, isChannel_toDigits (byte_le _) hnone,
      isChannel_toDigits (byte_le _) hblank, isChannel_toDigits (byte_le _) hblank,
      notMem_append hblank hplain, halpha⟩
  rw [trim_css, toList_css, ← hbody]
  exact ofChars_of_rgba (argument?_eq_some_iff.mpr ⟨_, _, rfl, by simp, rfl⟩)

/-- A CSS form is read, unless its alpha is a NaN. -/
theorem parse_css {c : Color} (h : c.alpha.isNaN = false) : parse c.css = .ok c.shown := by
  refine parse_eq_ok_iff.mpr ⟨ofChars_css c, inRange_iff.mpr ?_⟩
  exact ⟨byteChannel_inRange (byte_le _), byteChannel_inRange (byte_le _),
    byteChannel_inRange (byte_le _), shownAlpha_inRange h⟩

theorem parse_css_ne_ok {c : Color} (h : c.alpha.isNaN = true) (found : Color) :
    parse c.css ≠ .ok found := by
  rw [Ne, parse_eq_ok_iff, ofChars_css]
  rintro ⟨hshown, hrange⟩
  obtain rfl := Option.some.inj hshown
  have hnumber := (Binary64.isNaN_eq_false_of_le (hrange .alpha).1).2
  have hnan : (shownAlpha c.alpha).isNaN = true := by
    rw [shownAlpha, if_pos h]
    rfl
  rw [show c.shown.get .alpha = shownAlpha c.alpha from rfl, hnan] at hnumber
  cases hnumber

/-! ## Variants -/

theorem alphaVariant_of_parse {text : String} {c : Color} (h : parse text = .ok c)
    (alpha : Binary64) : alphaVariant text alpha = (c.withAlpha alpha).css := by
  rw [alphaVariant, h]

/-- What cannot be read is left alone, or vanishes. -/
theorem alphaVariant_of_not_parse {text : String} (h : ∀ c, parse text ≠ .ok c)
    (alpha : Binary64) :
    alphaVariant text alpha = if alpha ≤ 0 then "transparent" else text := by
  rw [alphaVariant]
  cases hparse : parse text with
  | ok c => exact absurd hparse (h c)
  | error fault => rfl

theorem parse_transparent_ne_ok (c : Color) : parse "transparent" ≠ .ok c := by
  have hread : ofChars (trim "transparent".toList) = none := by decide
  rw [Ne, parse_eq_ok_iff, hread]
  exact fun h => by cases h.1

/-- The variant of a text that cannot be read is its own variant. -/
theorem alphaVariant_twice_of_not_parse {text : String} (h : ∀ c, parse text ≠ .ok c)
    (alpha : Binary64) :
    alphaVariant (alphaVariant text alpha) alpha = alphaVariant text alpha := by
  rw [alphaVariant_of_not_parse h]
  by_cases hzero : alpha ≤ 0
  · rw [if_pos hzero, alphaVariant_of_not_parse parse_transparent_ne_ok, if_pos hzero]
  · rw [if_neg hzero, alphaVariant_of_not_parse h, if_neg hzero]

/-- Of the hue, a CSS form has the bytes alone. -/
theorem css_withAlpha_congr {c d : Color} (h : c.bytes = d.bytes) (alpha : Binary64) :
    (c.withAlpha alpha).css = (d.withAlpha alpha).css := by
  have hbody : (c.withAlpha alpha).cssBody = (d.withAlpha alpha).cssBody := by
    rw [← intercalate_cssBody, ← intercalate_cssBody,
      show (c.withAlpha alpha).bytes = (d.withAlpha alpha).bytes from h]
    rfl
  rw [← String.toList_inj, toList_css, toList_css, hbody]

section Variant

variable {text : String} {c : Color} (hparse : parse text = .ok c) {a : Binary64}
include hparse

theorem parse_alphaVariant (hnumber : a.isNaN = false) :
    parse (alphaVariant text a) = .ok (c.withAlpha a).shown := by
  rw [alphaVariant_of_parse hparse]
  exact parse_css (Binary64.isNaN_eq_false_of_le (Binary64.le_clamp Binary64.zero_le_one hnumber)).2

theorem alphaVariant_alphaVariant (hnumber : a.isNaN = false) (b : Binary64) :
    alphaVariant (alphaVariant text a) b = alphaVariant text b := by
  rw [alphaVariant_of_parse (parse_alphaVariant hparse hnumber), alphaVariant_of_parse hparse]
  exact css_withAlpha_congr (bytes_shown _) b

/-- With a NaN for its alpha, a variant cannot be read and is left alone. -/
theorem alphaVariant_twice_of_isNaN (hnan : a.isNaN = true) :
    alphaVariant (alphaVariant text a) a = alphaVariant text a := by
  cases a with
  | infinite | finite => cases hnan
  | nan =>
    have halpha : (c.withAlpha .nan).alpha.isNaN = true := by
      rw [withAlpha, Binary64.clamp_nan]
      rfl
    have hzero : ¬(Binary64.nan ≤ 0) := fun h => by
      cases (Binary64.isNaN_eq_false_of_le h).1
    rw [alphaVariant_of_parse hparse, alphaVariant_of_not_parse (parse_css_ne_ok halpha),
      if_neg hzero]

end Variant

/-- **An alpha is replaced by another one.**  The variant of a colour is a colour of the same hue
with an alpha next to the one asked for, and of two alphas the last one counts; a variant of any
text, in turn, is its own variant for the same alpha. -/
theorem alphaVariant_again (text : String) :
    (∀ c, parse text = .ok c → ∀ a : Binary64, a.isNaN = false →
      (∃ variant, parse (alphaVariant text a) = .ok variant ∧ variant.hex = c.hex ∧
        |variant.alpha.value - (a.clamp 0 1).value| < 51 / 100000) ∧
      ∀ b, alphaVariant (alphaVariant text a) b = alphaVariant text b) ∧
    ∀ a, alphaVariant (alphaVariant text a) a = alphaVariant text a := by
  constructor
  · intro c hparse a hnumber
    refine ⟨⟨_, parse_alphaVariant hparse hnumber, ?_, ?_⟩,
      alphaVariant_alphaVariant hparse hnumber⟩
    · rw [hex, bytes_shown]
      rfl
    · have hclamp : (a.clamp 0 1).clamp 0 1 = a.clamp 0 1 := Binary64.clamp_eq_self
        (Binary64.le_clamp Binary64.zero_le_one hnumber)
        (Binary64.clamp_le Binary64.zero_le_one hnumber)
      have hnear := abs_shownAlpha_sub_lt
        (Binary64.isNaN_eq_false_of_le (Binary64.le_clamp Binary64.zero_le_one hnumber)).2
      rw [hclamp] at hnear
      exact hnear
  · intro a
    by_cases hread : ∃ c, parse text = .ok c
    · obtain ⟨c, hparse⟩ := hread
      cases hnumber : a.isNaN with
      | false => exact alphaVariant_alphaVariant hparse hnumber a
      | true => exact alphaVariant_twice_of_isNaN hparse hnumber
    · exact alphaVariant_twice_of_not_parse (not_exists.mp hread) a

/-- A red of six digits, made translucent and then transparent. -/
theorem alphaVariant_again_red :
    ∃ variant, parse (alphaVariant "#ef4444" 0.6) = .ok variant ∧ variant.hex = "#ef4444" ∧
      alphaVariant (alphaVariant "#ef4444" 0.6) 0 = alphaVariant "#ef4444" 0 := by
  obtain ⟨c, hc⟩ := exists_ofHex_iff.mpr
    ⟨Or.inr (Or.inl rfl), (isSome_hexNumber?_iff "ef4444".toList).mp (by decide)⟩
  have hparse : parse "#ef4444" = .ok c := parse_hash hc
  have hnumber : (0.6 : Binary64).isNaN = false := by decide +kernel
  obtain ⟨⟨variant, hvariant, hhex, -⟩, hlast⟩ :=
    (alphaVariant_again "#ef4444").1 c hparse 0.6 hnumber
  exact ⟨variant, hvariant, hhex.trans (hex_of_ofHex hc rfl), hlast 0⟩

end Charting.Color
