import Charting.Proofs.Color.Digits
import Charting.Proofs.Literal

/-! # Which texts are colours

The grammar of colours, written down beside the reader (`IsColor`): digits behind `#`, or a function
name in any letter case with three or four literals in parentheses.  A text is read exactly if it
has one of these forms once the blanks around it are gone, and what it is read as does not depend on
how its digits are written (`parse_iff_isColor`).

The two function names overlap, but what follows `rgb` tells them apart: it is a blank or a
parenthesis, and neither is the letter `a`.
-/
namespace Charting.Color

open Number Text

/-- A text between commas that is, apart from blanks, a literal of a number from zero to `high`. -/
structure IsPart (high : Binary64) (part : List Char) : Prop where
  noComma : ',' ∉ part
  literal : ∃ x, IsLiteral (trim part) x ∧ 0 ≤ x ∧ x ≤ high

/-- The texts that are colours, and whether they have an alpha. -/
inductive IsColor : (hasAlpha : Bool) → List Char → Prop
  | hex {digits : List Char} (count : digits.length = 3 ∨ digits.length = 6)
      (all : ∀ d ∈ digits, d ∈ hexDigits) : IsColor false ('#' :: digits)
  | hexAlpha {digits : List Char} (count : digits.length = 4 ∨ digits.length = 8)
      (all : ∀ d ∈ digits, d ∈ hexDigits) : IsColor true ('#' :: digits)
  | rgb {name blanks r g b : List Char} (named : name.map Char.toLower = "rgb".toList)
      (blank : ∀ x ∈ blanks, isBlank x = true)
      (red : IsPart 255 r) (green : IsPart 255 g) (blue : IsPart 255 b) :
      IsColor false (name ++ blanks ++ '(' :: ([','].intercalate [r, g, b] ++ [')']))
  | rgba {name blanks r g b a : List Char} (named : name.map Char.toLower = "rgba".toList)
      (blank : ∀ x ∈ blanks, isBlank x = true)
      (red : IsPart 255 r) (green : IsPart 255 g) (blue : IsPart 255 b) (alpha : IsPart 1 a) :
      IsColor true (name ++ blanks ++ '(' :: ([','].intercalate [r, g, b, a] ++ [')']))

/-! ## Function forms -/

section Functions

variable {name cs body : List Char} {c : Color}

theorem argument?_eq_some_iff :
    argument? name cs = some body ↔ ∃ spelled blanks, spelled.map Char.toLower = name ∧
      (∀ b ∈ blanks, isBlank b = true) ∧ cs = spelled ++ blanks ++ '(' :: (body ++ [')']) := by
  rw [argument?]
  constructor
  · intro h
    split at h
    case isFalse => cases h
    case isTrue hname =>
      obtain ⟨rest, hstart, hend⟩ := Option.bind_eq_some_iff.mp h
      rw [dropStart?_eq_some_iff] at hstart
      rw [dropEnd?_eq_some_iff] at hend
      obtain ⟨blanks, hblanks, hdrop⟩ := exists_blanks_append_trimStart (cs.drop name.length)
      refine ⟨cs.take name.length, blanks, hname, hblanks, ?_⟩
      rw [hstart, hend] at hdrop
      rw [List.append_assoc, ← List.singleton_append, ← hdrop, List.take_append_drop]
  · rintro ⟨spelled, blanks, rfl, hblanks, rfl⟩
    rw [List.length_map, List.append_assoc, List.take_left, List.drop_left, if_pos rfl,
      trimStart_append hblanks, trimStart_cons rfl]
    exact Option.bind_eq_some_iff.mpr
      ⟨_, dropStart?_eq_some_iff.mpr rfl, dropEnd?_eq_some_iff.mpr rfl⟩

theorem of_toLower_eq_a : ∀ c : Char, c.toLower = 'a' → isBlank c = false ∧ c ≠ '(' := by
  refine forall_char (by decide) fun c hc h => ?_
  rw [toLower_of_le hc] at h
  exact absurd hc (h ▸ by decide)

/-- What follows one function name is not the last letter of the other. -/
theorem argument?_rgba_eq_none (h : argument? "rgb".toList cs = some body) :
    argument? "rgba".toList cs = none := by
  rw [Option.eq_none_iff_forall_ne_some]
  intro body' h'
  obtain ⟨spelled, blanks, hspelled, hblanks, rfl⟩ := argument?_eq_some_iff.mp h
  obtain ⟨longer, blanks', hlonger, -, hsame⟩ := argument?_eq_some_iff.mp h'
  obtain ⟨front, last, rfl, hfront, hlast⟩ :=
    List.map_eq_append_iff.mp (show longer.map Char.toLower = "rgb".toList ++ ['a'] from hlonger)
  obtain ⟨a, rfl, ha⟩ := List.map_eq_singleton_iff.mp hlast
  have hlength : spelled.length = front.length := by
    simpa using congrArg List.length (hspelled.trans hfront.symm)
  simp only [List.append_assoc] at hsame
  obtain ⟨hblank, hparenthesis⟩ := of_toLower_eq_a a ha
  cases blanks with
  | nil =>
    exact hparenthesis (List.cons.inj (List.append_inj hsame hlength).2).1.symm
  | cons b blanks =>
    obtain rfl : b = a := (List.cons.inj (List.append_inj hsame hlength).2).1
    rw [hblanks b List.mem_cons_self] at hblank
    cases hblank

theorem partChannel_eq_some_iff {part : List Char} {x : Binary64} :
    partChannel part = some x ↔ ∃ v, IsLiteral part v ∧ (0 ≤ v ∧ v ≤ 255) ∧ v / 255 = x := by
  simp only [← Binary64.read_eq_some_iff, partChannel]
  cases Binary64.read part with
  | none => simp
  | some v => simp

/-- A text between commas is read as a colour channel. -/
structure IsChannel (part : List Char) (x : Binary64) : Prop where
  noComma : ',' ∉ part
  read : partChannel (trim part) = some x

theorem isPart_255_iff {part : List Char} : IsPart 255 part ↔ ∃ x, IsChannel part x := by
  constructor
  · rintro ⟨hcomma, v, hliteral, hrange⟩
    exact ⟨v / 255, hcomma, partChannel_eq_some_iff.mpr ⟨v, hliteral, hrange, rfl⟩⟩
  · rintro ⟨x, hcomma, hread⟩
    obtain ⟨v, hliteral, hrange, -⟩ := partChannel_eq_some_iff.mp hread
    exact ⟨hcomma, v, hliteral, hrange⟩

theorem IsChannel.inRange {part : List Char} {x : Binary64} (h : IsChannel part x) :
    0 ≤ x ∧ x ≤ 1 := by
  obtain ⟨v, -, ⟨hlow, hhigh⟩, hx⟩ := partChannel_eq_some_iff.mp h.read
  rw [← hx]
  exact div_255_inRange hlow hhigh

/-- The parts of `rgb` are three channels. -/
theorem ofParts_false_iff : ofParts false body = some c ↔ ∃ r g b,
    body = [','].intercalate [r, g, b] ∧
    IsChannel r c.red ∧ IsChannel g c.green ∧ IsChannel b c.blue ∧ 1 = c.alpha := by
  obtain ⟨red, green, blue, alpha⟩ := c
  constructor
  · intro h
    unfold ofParts at h
    split at h
    case h_1 hparts =>
      simp only [List.map_eq_cons_iff, List.map_eq_nil_iff] at hparts
      obtain ⟨r, _, hsplit, rfl, g, _, rfl, rfl, b, _, rfl, rfl, rfl⟩ := hparts
      simp only [Option.bind_eq_bind, Option.bind_eq_some_iff, Option.pure_def,
        Option.some.injEq, rgb, mk.injEq] at h
      obtain ⟨_, hred, _, hgreen, _, hblue, rfl, rfl, rfl, halpha⟩ := h
      obtain ⟨hcomma, rfl⟩ := (split_eq_iff (List.cons_ne_nil _ _)).mp hsplit
      exact ⟨r, g, b, rfl, ⟨hcomma r (by simp), hred⟩, ⟨hcomma g (by simp), hgreen⟩,
        ⟨hcomma b (by simp), hblue⟩, halpha⟩
    case h_2 hflag _ => cases hflag
    case h_3 => cases h
  · rintro ⟨r, g, b, hbody, hred, hgreen, hblue, halpha⟩
    have hsplit : split ',' body = [r, g, b] := (split_eq_iff (List.cons_ne_nil _ _)).mpr
      ⟨by simp [hred.noComma, hgreen.noComma, hblue.noComma], hbody⟩
    simp [ofParts, hsplit, hred.read, hgreen.read, hblue.read, rgb, halpha]

/-- The parts of `rgba` are three channels and an alpha that may be any number yet. -/
theorem ofParts_true_iff : ofParts true body = some c ↔ ∃ r g b a,
    body = [','].intercalate [r, g, b, a] ∧
    IsChannel r c.red ∧ IsChannel g c.green ∧ IsChannel b c.blue ∧
    ',' ∉ a ∧ IsLiteral (trim a) c.alpha := by
  obtain ⟨red, green, blue, alpha⟩ := c
  simp only [← Binary64.read_eq_some_iff]
  constructor
  · intro h
    unfold ofParts at h
    split at h
    case h_1 hflag _ => cases hflag
    case h_2 hparts =>
      simp only [List.map_eq_cons_iff, List.map_eq_nil_iff] at hparts
      obtain ⟨r, _, hsplit, rfl, g, _, rfl, rfl, b, _, rfl, rfl, a, _, rfl, rfl, rfl⟩ := hparts
      simp only [Option.bind_eq_bind, Option.bind_eq_some_iff, Option.pure_def,
        Option.some.injEq, mk.injEq] at h
      obtain ⟨_, hred, _, hgreen, _, hblue, _, halpha, rfl, rfl, rfl, rfl⟩ := h
      obtain ⟨hcomma, rfl⟩ := (split_eq_iff (List.cons_ne_nil _ _)).mp hsplit
      exact ⟨r, g, b, a, rfl, ⟨hcomma r (by simp), hred⟩, ⟨hcomma g (by simp), hgreen⟩,
        ⟨hcomma b (by simp), hblue⟩, hcomma a (by simp), halpha⟩
    case h_3 => cases h
  · rintro ⟨r, g, b, a, hbody, hred, hgreen, hblue, hcomma, halpha⟩
    have hsplit : split ',' body = [r, g, b, a] := (split_eq_iff (List.cons_ne_nil _ _)).mpr
      ⟨by simp [hred.noComma, hgreen.noComma, hblue.noComma, hcomma], hbody⟩
    simp [ofParts, hsplit, hred.read, hgreen.read, hblue.read, halpha]

theorem argument?_hash (name digits : List Char) :
    argument? ('r' :: name) ('#' :: digits) = none := by
  rw [argument?, if_neg]
  exact fun h => absurd (List.cons.inj h).1 (by decide)

theorem ofChars_of_rgb (h : argument? "rgb".toList cs = some body) :
    ofChars cs = ofParts false body := by
  unfold ofChars
  split
  case h_1 digits => cases (argument?_hash ['g', 'b'] digits).symm.trans h
  case h_2 => rw [argument?_rgba_eq_none h, h, Option.bind_some]

theorem ofChars_of_rgba (h : argument? "rgba".toList cs = some body) :
    ofChars cs = ofParts true body := by
  unfold ofChars
  split
  case h_1 digits => cases (argument?_hash ['g', 'b', 'a'] digits).symm.trans h
  case h_2 => rw [h]

end Functions

/-! ## All forms -/

section Forms

variable {cs : List Char} {c : Color}

/-- What a colour was read from. -/
theorem cases_of_ofChars (h : ofChars cs = some c) :
    (∃ digits, cs = '#' :: digits ∧ ofHex digits = some c) ∨
    (∃ body, argument? "rgb".toList cs = some body ∧ ofParts false body = some c) ∨
    ∃ body, argument? "rgba".toList cs = some body ∧ ofParts true body = some c := by
  unfold ofChars at h
  split at h
  case h_1 digits => exact Or.inl ⟨digits, rfl, h⟩
  case h_2 =>
    split at h
    case h_1 body hbody => exact Or.inr (Or.inr ⟨body, hbody, h⟩)
    case h_2 => exact Or.inr (Or.inl (Option.bind_eq_some_iff.mp h))

theorem isColor_of_ofChars (h : ofChars cs = some c) (hrange : c.InRange) :
    ∃ hasAlpha, IsColor hasAlpha cs := by
  rcases cases_of_ofChars h with ⟨digits, rfl, hdigits⟩ | ⟨body, hbody, hparts⟩ |
    ⟨body, hbody, hparts⟩
  · obtain ⟨hcount, hall⟩ := exists_ofHex_iff.mp ⟨c, hdigits⟩
    rw [HasCount] at hcount
    by_cases halpha : digits.length = 4 ∨ digits.length = 8
    · exact ⟨true, .hexAlpha halpha hall⟩
    · exact ⟨false, .hex (by omega) hall⟩
  · obtain ⟨name, blanks, hname, hblanks, rfl⟩ := argument?_eq_some_iff.mp hbody
    obtain ⟨r, g, b, rfl, hred, hgreen, hblue, -⟩ := ofParts_false_iff.mp hparts
    exact ⟨false, .rgb hname hblanks (isPart_255_iff.mpr ⟨_, hred⟩)
      (isPart_255_iff.mpr ⟨_, hgreen⟩) (isPart_255_iff.mpr ⟨_, hblue⟩)⟩
  · obtain ⟨name, blanks, hname, hblanks, rfl⟩ := argument?_eq_some_iff.mp hbody
    obtain ⟨r, g, b, a, rfl, hred, hgreen, hblue, hcomma, halpha⟩ := ofParts_true_iff.mp hparts
    exact ⟨true, .rgba hname hblanks (isPart_255_iff.mpr ⟨_, hred⟩)
      (isPart_255_iff.mpr ⟨_, hgreen⟩) (isPart_255_iff.mpr ⟨_, hblue⟩)
      ⟨hcomma, _, halpha, hrange .alpha⟩⟩

theorem ofChars_of_isColor {hasAlpha : Bool} (h : IsColor hasAlpha cs) :
    ∃ c, ofChars cs = some c ∧ c.InRange ∧ (hasAlpha = false → c.alpha = 1) := by
  cases h with
  | @hex digits count all =>
    obtain ⟨c, hc⟩ := exists_ofHex_iff.mpr ⟨by rw [HasCount]; omega, all⟩
    exact ⟨c, hc, inRange_of_ofHex hc, fun _ => alpha_of_ofHex hc count⟩
  | @hexAlpha digits count all =>
    obtain ⟨c, hc⟩ := exists_ofHex_iff.mpr ⟨by rw [HasCount]; omega, all⟩
    exact ⟨c, hc, inRange_of_ofHex hc, fun h => by cases h⟩
  | rgb named blank red green blue =>
    obtain ⟨x, hred⟩ := isPart_255_iff.mp red
    obtain ⟨y, hgreen⟩ := isPart_255_iff.mp green
    obtain ⟨z, hblue⟩ := isPart_255_iff.mp blue
    refine ⟨⟨x, y, z, 1⟩, ?_, inRange_iff.mpr ⟨hred.inRange, hgreen.inRange, hblue.inRange,
      Binary64.zero_le_one, one_le_one⟩, fun _ => rfl⟩
    rw [ofChars_of_rgb (argument?_eq_some_iff.mpr ⟨_, _, named, blank, rfl⟩)]
    exact ofParts_false_iff.mpr ⟨_, _, _, rfl, hred, hgreen, hblue, rfl⟩
  | rgba named blank red green blue alpha =>
    obtain ⟨x, hred⟩ := isPart_255_iff.mp red
    obtain ⟨y, hgreen⟩ := isPart_255_iff.mp green
    obtain ⟨z, hblue⟩ := isPart_255_iff.mp blue
    obtain ⟨hcomma, w, hliteral, hrange⟩ := alpha
    refine ⟨⟨x, y, z, w⟩, ?_, inRange_iff.mpr ⟨hred.inRange, hgreen.inRange, hblue.inRange,
      hrange⟩, fun h => by cases h⟩
    rw [ofChars_of_rgba (argument?_eq_some_iff.mpr ⟨_, _, named, blank, rfl⟩)]
    exact ofParts_true_iff.mpr ⟨_, _, _, _, rfl, hred, hgreen, hblue, hcomma, hliteral⟩

end Forms

/-! ## Reading -/

/-- What the colour of a text has to do with the text. -/
structure ReadsAs (cs : List Char) (c : Color) : Prop where
  inRange : c.InRange
  /-- A short form reads like the long one with each digit doubled. -/
  doubled : ∀ digits, cs = '#' :: digits → digits.length = 3 ∨ digits.length = 4 →
    parse (String.ofList ('#' :: digits.flatMap fun d => [d, d])) = .ok c
  /-- So does any form with its digits in other letter cases. -/
  letterCase : ∀ digits other, cs = '#' :: digits →
    other.map Char.toLower = digits.map Char.toLower →
    parse (String.ofList ('#' :: other)) = .ok c
  withoutAlpha : IsColor false cs → c.alpha = 1
  sixDigits : ∀ digits, cs = '#' :: digits → digits.length = 6 →
    c.hex = String.ofList (cs.map Char.toLower)

theorem readsAs_of_ofChars {cs : List Char} {c : Color} (h : ofChars cs = some c)
    (hrange : c.InRange) : ReadsAs cs c where
  inRange := hrange
  doubled digits hcs hcount := by
    subst hcs
    exact parse_hash ((ofHex_flatMap hcount).trans h)
  letterCase digits other hcs hlower := by
    subst hcs
    refine parse_hash ?_
    rw [← ofHex_map_toLower, hlower, ofHex_map_toLower]
    exact h
  withoutAlpha hcolor := by
    obtain ⟨found, hfound, -, halpha⟩ := ofChars_of_isColor hcolor
    obtain rfl : c = found := Option.some.inj (h.symm.trans hfound)
    exact halpha rfl
  sixDigits digits hcs hcount := by
    subst hcs
    exact hex_of_ofHex h hcount

/-- **The reader takes exactly the colours**, and what they are read as does not depend on how
their digits are written. -/
theorem parse_iff_isColor (text : String) :
    ((∃ c, parse text = .ok c) ↔ ∃ hasAlpha, IsColor hasAlpha (trim text.toList)) ∧
      ∀ c, parse text = .ok c → ReadsAs (trim text.toList) c := by
  simp only [parse_eq_ok_iff]
  refine ⟨⟨?_, ?_⟩, ?_⟩
  · rintro ⟨c, hread, hrange⟩
    exact isColor_of_ofChars hread hrange
  · rintro ⟨hasAlpha, hcolor⟩
    obtain ⟨c, hread, hrange, -⟩ := ofChars_of_isColor hcolor
    exact ⟨c, hread, hrange⟩
  · rintro c ⟨hread, hrange⟩
    exact readsAs_of_ofChars hread hrange

/-- Six digits in mixed letter case, between blanks. -/
theorem parse_iff_isColor_mixedCase :
    ∃ c, parse " #3B82f6 " = .ok c ∧ c.hex = "#3b82f6" := by
  obtain ⟨hiff, hreads⟩ := parse_iff_isColor " #3B82f6 "
  have htrim : trim " #3B82f6 ".toList = '#' :: "3B82f6".toList := by decide
  have hdigits := (isSome_hexNumber?_iff "3B82f6".toList).mp (by decide)
  obtain ⟨c, hc⟩ := hiff.mpr ⟨false, htrim ▸ .hex (Or.inr rfl) hdigits⟩
  exact ⟨c, hc, (hreads c hc).sixDigits _ htrim rfl⟩

end Charting.Color
