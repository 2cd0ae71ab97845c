import Charting.Proofs.Rounding.Order
import Charting.Proofs.RoundTrip.Props

/-! # Lengths and their texts

A length comes from a CSS text or, as one of the properties of a chart, from a JSON value, which is
a number of pixels or a CSS text once more.  It goes out as CSS to a web page and as JSON with the
properties.

Whatever is read from a CSS text goes both ways without a loss, to the sign of a zero
(`Dimension.survives_of_parse`).  A number of pixels in JSON is another matter.  It is not asked to
be in the range in which a text has to be, and a negative one becomes a text that is none of a
length (`Props.readsBack_webSize`).
-/
namespace Charting

open Number

/-! ## JSON values without parts -/

namespace Json

variable {j : Json}

/-- There is one way to lay out a value without parts. -/
theorem pretty_eq_compact (h : j.nesting = 0) : j.pretty = j.compact := by
  cases j with
  | null | bool | number | string => rfl
  | array | object => cases h

theorem sortMembers_eq_self (h : j.nesting = 0) : j.sortMembers = j := by
  cases j with
  | null | bool | number | string => rfl
  | array | object => cases h

end Json

/-! ## Lengths from CSS texts -/

namespace Dimension

/-- A length as it is read from a text and as it survives being written again. -/
structure Survives (text : String) (d : Dimension) : Prop where
  finite : d.number.isFinite = true
  nonneg : 0 ≤ d.number
  /-- The length is a share if the text ends with the unit of shares, and pixels otherwise. -/
  unit : d.isPercent = true ↔ ['%'] <:+ Text.trim text.toList
  css : parse d.css = .ok d
  /-- Pixels are a number in JSON, a share is a text. -/
  json : Format.dimension.encode d =
    if d.isPercent then .string d.css else .ofBinary64 d.number
  jsonText : ∀ written ∈ [(Format.dimension.encode d).compact, (Format.dimension.encode d).pretty],
    Json.parse written = some (Format.dimension.encode d)
  decode : Format.dimension.decode (Format.dimension.encode d) = .ok d

variable {text : String} {d : Dimension}

theorem takes_of_parse (h : parse text = .ok d) : Format.dimension.Takes 0 d := by
  refine ⟨.string text, Json.isRead_string text, ?_⟩
  rw [Format.dimension_decode_string, h]
  rfl

/-- **A length survives being written.**  What is read from a text is a finite number that is not
negative, as a share or as pixels, as the text says; its CSS form is read as the same length; and so
is its JSON, a number for pixels and the CSS form for a share. -/
theorem survives_of_parse (h : parse text = .ok d) : d.Survives text := by
  obtain ⟨-, hbuild, hfinite, hnonneg⟩ := parse_eq_ok_iff.mp h
  have hreproduces : Format.dimension.Reproduces 0 := Format.dimension_reproduces
  have hnesting := Nat.le_zero.mp (hreproduces.nesting (takes_of_parse h))
  have hsorted := Json.sortMembers_eq_self hnesting
  constructor
  case finite => exact hfinite
  case nonneg => exact hnonneg
  case unit => rw [← isPercent_splitUnit_iff _ d.number, hbuild]
  case css => exact parse_css_of_nonneg hfinite hnonneg
  case json => cases d <;> rfl
  case jsonText =>
    have hpretty := Json.parse_pretty (hnesting.trans_le (Nat.zero_le Json.depthLimit))
    rw [hsorted] at hpretty
    simp [hpretty, ← Json.pretty_eq_compact hnesting]
  case decode =>
    have hdecode := hreproduces.roundTrips (takes_of_parse h)
    rwa [Format.RoundTrips, hsorted] at hdecode

/-- A negative zero counts as not negative and keeps its sign. -/
theorem survives_of_parse_negativeZero :
    parse " -0.0e3 px" = .ok (px (.zero true)) ∧ (px (.zero true)).css = "-0px" ∧
      (px (.zero true)).Survives " -0.0e3 px" := by
  have h : parse " -0.0e3 px" = .ok (px (.zero true)) := by decide +kernel
  exact ⟨h, by decide +kernel, survives_of_parse h⟩

end Dimension

/-! ## Sizes on a web page -/

/-- What a web page reads from the text of a size is the length that was declared, or the default
where none was; from a negative number of pixels it reads nothing. -/
structure Dimension.ReadsBack (css : String) (declared : Option Dimension) (default : Dimension) :
    Prop where
  accepted_iff : parse css = .ok (declared.getD default) ↔
    ∀ length, declared = some (.px length) → 0 ≤ length
  refused_iff : parse css = .error (.outOfRange css) ↔
    ∃ length, declared = some (.px length) ∧ length < 0

namespace Dimension

variable {d default : Dimension}

theorem readsBack_none (hfinite : default.number.isFinite = true) (hnonneg : 0 ≤ default.number) :
    ReadsBack default.css none default where
  accepted_iff := by simp [parse_css_of_nonneg hfinite hnonneg]
  refused_iff := by simp [parse_css_of_nonneg hfinite hnonneg]

/-- Among the lengths that are read, only pixels can be out of range. -/
theorem IsReadable.nonneg_iff (h : d.IsReadable) :
    0 ≤ d.number ↔ ∀ length, some d = some (px length) → 0 ≤ length := by
  cases d with
  | px length => simp [number]
  | percent share => simpa [number] using h.nonneg share rfl

theorem IsReadable.not_nonneg_iff (h : d.IsReadable) :
    ¬0 ≤ d.number ↔ ∃ length, some d = some (px length) ∧ length < 0 := by
  have hzero : (0 : Binary64).isNaN = false :=
    Binary64.isNaN_eq_false_of_isFinite Binary64.isFinite_zero
  cases d with
  | px length =>
    simpa [number] using Binary64.not_le_iff hzero (Binary64.isNaN_eq_false_of_isFinite h.finite)
  | percent share => simp [number, h.nonneg share rfl]

theorem IsReadable.readsBack (h : d.IsReadable) : ReadsBack d.css (some d) default where
  accepted_iff := by
    rw [← h.nonneg_iff, parse_css h.finite, Option.getD_some]
    split <;> simp [*]
  refused_iff := by
    rw [← h.not_nonneg_iff, parse_css h.finite]
    split <;> simp [*]

end Dimension

namespace Props

open Charting.Field Charting.Format
open Binary64 (isFinite_literal zero_le_literal)

variable {text : String} {p : Props}

/-- A size that was read is finite, and negative only if it is a number of pixels. -/
theorem IsRead.isReadable_size (h : p.IsRead) {d : Dimension}
    (hd : p.width = some d ∨ p.height = some d) : d.IsReadable := by
  have htaken := record_lawful.taken_of_format_takes taken_start h.taken
  simp only [Record.Taken, record, List.forall_mem_cons, always_takes_iff] at htaken
  obtain ⟨-, -, -, -, -, -, -, -, -, -, -, -, -, -, -, -, hwidth, hheight, -⟩ := htaken
  rcases hd with hd | hd
  · exact isReadable_of_takes (takes_of_optional_takes (hd ▸ hwidth))
  · exact isReadable_of_takes (takes_of_optional_takes (hd ▸ hheight))

/-- **A web page reads back the sizes that the properties declare, except negative numbers of
pixels.**  Those are taken from JSON, but no text of a length may be negative. -/
theorem readsBack_webSize (h : parse text = .ok p) :
    Dimension.ReadsBack p.webSize.width p.width (.percent 100) ∧
      Dimension.ReadsBack p.webSize.height p.height (.px 400) := by
  have hread := isRead_of_parse h
  constructor
  · unfold webSize Viewport.web
    cases hwidth : p.width with
    | none => exact Dimension.readsBack_none (isFinite_literal _ (by decide)) (zero_le_literal _)
    | some d => exact (hread.isReadable_size (.inl hwidth)).readsBack
  · unfold webSize Viewport.web
    cases hheight : p.height with
    | none => exact Dimension.readsBack_none (isFinite_literal _ (by decide)) (zero_le_literal _)
    | some d => exact (hread.isReadable_size (.inr hheight)).readsBack

/-- A text with a width that is negative, and with a height that has blanks and a leading zero. -/
def oddSizesText : String := "\x7b\"width\": -5, \"height\": \" 050 % \"\x7d"

theorem exists_parse_oddSizesText :
    ∃ p, parse oddSizesText = .ok p ∧ p.webSize = ⟨"-5px", "50%"⟩ := by
  have hsize : (parse oddSizesText).toOption.map webSize = some ⟨"-5px", "50%"⟩ := by
    decide +kernel
  obtain ⟨p, hread, hp⟩ := Option.map_eq_some_iff.mp hsize
  exact ⟨p, toOption_eq_some_iff.mp hread, hp⟩

theorem readsBack_webSize_oddSizes :
    ∃ p, parse oddSizesText = .ok p ∧ Dimension.ReadsBack "-5px" p.width (.percent 100) ∧
      Dimension.ReadsBack "50%" p.height (.px 400) := by
  obtain ⟨p, h, hsize⟩ := exists_parse_oddSizesText
  have hback := readsBack_webSize h
  rw [hsize] at hback
  exact ⟨p, h, hback⟩

/-- The page reads nothing from the text of the negative width. -/
theorem not_parse_webSize_width :
    ∃ p, parse oddSizesText = .ok p ∧ ∀ d, Dimension.parse p.webSize.width ≠ .ok d := by
  obtain ⟨p, h, hsize⟩ := exists_parse_oddSizesText
  have hrefused : Dimension.parse "-5px" = .error (.outOfRange "-5px") := by decide +kernel
  refine ⟨p, h, fun d hd => ?_⟩
  rw [hsize, hrefused] at hd
  cases hd

end Props
end Charting
