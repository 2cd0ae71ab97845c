import Charting.Dimension
import Charting.Proofs.RoundTrip.Number
import Charting.Proofs.Text

/-! # Reading written lengths back

A length is read in two steps: its unit is taken off the text, and what remains is a number, which
must be in range (`Dimension.parse_eq_ok_iff`).  The CSS form of a length has no blanks that could be
trimmed, and its unit is the one that is taken off again, so that what remains are the characters of
the number.  It is read as the length itself unless that is negative (`Dimension.parse_css`).
-/
namespace Charting

open Number

namespace Text

theorem dropWhile_isBlank {cs : List Char} (h : ∀ c ∈ cs, isBlank c = false) :
    cs.dropWhile isBlank = cs := by
  cases cs with
  | nil => rfl
  | cons c cs => rw [List.dropWhile_cons_of_neg (by simp [h c List.mem_cons_self])]

/-- A text without blanks is not trimmed. -/
theorem trim_eq_self {cs : List Char} (h : ∀ c ∈ cs, isBlank c = false) : trim cs = cs := by
  rw [trim, trimStart, dropWhile_isBlank h, trimEnd, dropWhile_isBlank, List.reverse_reverse]
  exact fun c hc => h c (List.mem_reverse.mp hc)

theorem isBlank_of_isDigit {c : Char} (h : c.isDigit = true) : isBlank c = false := by
  simp only [Char.isDigit, Bool.and_eq_true, decide_eq_true_eq, ge_iff_le,
    UInt32.le_iff_toNat_le] at h
  have hlow : 48 ≤ c.toNat := h.1
  have hhigh : c.toNat ≤ 57 := h.2
  simp [isBlank, blankRanges]
  omega

end Text

namespace Dimension

/-! ## Units -/

/-- Whether a length is a share of its container. -/
def isPercent : Dimension → Bool
  | px _ => false
  | percent _ => true

theorem splitUnit_percent (cs : List Char) : splitUnit (cs ++ ['%']) = (percent, cs) := by
  rw [splitUnit, Text.dropEnd?_eq_some_iff.mpr rfl]

theorem splitUnit_px (cs : List Char) : splitUnit (cs ++ ['p', 'x']) = (px, cs) := by
  have hpercent : Text.dropEnd? ['%'] (cs ++ ['p', 'x']) = none := by
    rw [Option.eq_none_iff_forall_ne_some]
    intro rest hrest
    have hlast := congrArg List.getLast? (Text.dropEnd?_eq_some_iff.mp hrest)
    simp at hlast
  rw [splitUnit, hpercent, Text.dropEnd?_eq_some_iff.mpr rfl]
  rfl

/-- Shares are the lengths whose text ends with their unit; all others are pixels. -/
theorem splitUnit_fst (cs : List Char) :
    (['%'] <:+ cs ∧ (splitUnit cs).1 = percent) ∨ (¬['%'] <:+ cs ∧ (splitUnit cs).1 = px) := by
  by_cases h : ['%'] <:+ cs
  · obtain ⟨rest, rfl⟩ := id h
    exact .inl ⟨h, by rw [splitUnit_percent]⟩
  · have hpercent : Text.dropEnd? ['%'] cs = none := by
      rw [Option.eq_none_iff_forall_ne_some]
      exact fun rest hrest => h ⟨rest, (Text.dropEnd?_eq_some_iff.mp hrest).symm⟩
    exact .inr ⟨h, by rw [splitUnit, hpercent]⟩

theorem number_splitUnit (cs : List Char) (x : Binary64) :
    ((splitUnit cs).1 x).number = x := by
  rcases splitUnit_fst cs with ⟨-, h⟩ | ⟨-, h⟩ <;> rw [h] <;> rfl

theorem isPercent_splitUnit_iff (cs : List Char) (x : Binary64) :
    ((splitUnit cs).1 x).isPercent = true ↔ ['%'] <:+ cs := by
  rcases splitUnit_fst cs with ⟨hunit, h⟩ | ⟨hunit, h⟩ <;> rw [h] <;> simp [isPercent, hunit]

/-! ## Reading -/

/-- A text is read as a length if it is a number in front of the unit, finite and not negative. -/
theorem parse_eq_ok_iff {text : String} {d : Dimension} :
    parse text = .ok d ↔
      Binary64.read (Text.trim (splitUnit (Text.trim text.toList)).2) = some d.number ∧
        (splitUnit (Text.trim text.toList)).1 d.number = d ∧
        d.number.isFinite = true ∧ 0 ≤ d.number := by
  have hnumber := number_splitUnit (Text.trim text.toList)
  unfold parse
  generalize splitUnit (Text.trim text.toList) = split at hnumber ⊢
  obtain ⟨build, number⟩ := split
  dsimp only at hnumber ⊢
  cases hread : Binary64.read (Text.trim number) with
  | none => simp
  | some x =>
    dsimp only
    constructor
    · intro h
      split at h
      case isTrue hrange =>
        cases h
        rw [Bool.and_eq_true, decide_eq_true_eq] at hrange
        rw [hnumber]
        exact ⟨rfl, rfl, hrange⟩
      case isFalse => cases h
    · rintro ⟨hx, hbuild, hfinite, hnonneg⟩
      cases hx
      simp [hfinite, hnonneg, hbuild]

/-- A length as it is read: finite, and as a share not negative. -/
structure IsReadable (d : Dimension) : Prop where
  finite : d.number.isFinite = true
  nonneg : ∀ share, d = percent share → 0 ≤ share

theorem isReadable_px {length : Binary64} (h : length.isFinite = true) :
    (px length).IsReadable where
  finite := h
  nonneg _ hshare := by cases hshare

theorem isReadable_of_parse {text : String} {d : Dimension} (h : parse text = .ok d) :
    d.IsReadable := by
  obtain ⟨-, -, hfinite, hnonneg⟩ := parse_eq_ok_iff.mp h
  refine ⟨hfinite, ?_⟩
  rintro share rfl
  exact hnonneg

/-! ## Reading what was written -/

theorem isBlank_of_mem_chars {x : Binary64} (hfinite : x.isFinite = true) {c : Char}
    (h : c ∈ x.chars .plain) : Text.isBlank c = false := by
  rcases Binary64.isDigit_or_of_mem_chars hfinite h with hdigit | rfl | rfl
  · exact Text.isBlank_of_isDigit hdigit
  · rfl
  · rfl

theorem isBlank_of_mem_unit {d : Dimension} {c : Char} (h : c ∈ d.unit) :
    Text.isBlank c = false := by
  cases d with
  | px length =>
    simp only [unit, List.mem_cons, List.not_mem_nil, or_false] at h
    rcases h with rfl | rfl <;> rfl
  | percent share =>
    obtain rfl := List.mem_singleton.mp h
    rfl

variable {d : Dimension}

theorem trim_css (hfinite : d.number.isFinite = true) :
    Text.trim d.css.toList = d.number.chars .plain ++ d.unit := by
  rw [css, String.toList_ofList]
  refine Text.trim_eq_self fun c hc => ?_
  rcases List.mem_append.mp hc with hc | hc
  · exact isBlank_of_mem_chars hfinite hc
  · exact isBlank_of_mem_unit hc

/-- **The CSS form of a length is read as the length, unless that is negative.** -/
theorem parse_css (hfinite : d.number.isFinite = true) :
    parse d.css = if 0 ≤ d.number then .ok d else .error (.outOfRange d.css) := by
  have hread : Binary64.read (Text.trim (d.number.chars .plain)) = some d.number := by
    rw [Text.trim_eq_self fun c hc => isBlank_of_mem_chars hfinite hc,
      Binary64.read_chars hfinite]
  cases d with
  | px length =>
    simp only [parse, trim_css hfinite, unit, splitUnit_px, hread, hfinite, Bool.true_and,
      decide_eq_true_eq]
    rfl
  | percent share =>
    simp only [parse, trim_css hfinite, unit, splitUnit_percent, hread, hfinite, Bool.true_and,
      decide_eq_true_eq]
    rfl

theorem parse_css_of_nonneg (hfinite : d.number.isFinite = true) (hnonneg : 0 ≤ d.number) :
    parse d.css = .ok d := by
  rw [parse_css hfinite, if_pos hnonneg]

end Dimension
end Charting
