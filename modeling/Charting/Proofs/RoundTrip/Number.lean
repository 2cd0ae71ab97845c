import Charting.Json.Token
import Charting.Proofs.RoundTrip.Decimal

/-! # Written numbers read back

A finite number is written in two styles, and each has its reader.  The text of the plain style is a
literal, which `Binary64.read` takes as a whole.  The text of the JSON style stands among other
characters, and `Token.scanNumber` takes it off the front; it stops at the right place as long as
what follows cannot go on with the number (`EndsNumber`).

In both cases the digits that are read spell the decimal that was written, up to zeros behind its
digits (`Decimal.pad`).  Since that decimal is one that reads back, so do the numbers:
`Binary64.read_chars` and `JsonNumber.exists_scanNumber`.
-/
namespace Charting.Number

-- Powers of naturals are the built-in ones, also beside other instances of powers.
attribute [local instance (1100)] instPowNat

/-! ## Runs of digits -/

/-- The text does not go on with a digit. -/
def EndsDigits (rest : List Char) : Prop := ∀ c ∈ rest.head?, c.isDigit = false

theorem endsDigits_nil : EndsDigits [] := nofun

theorem endsDigits_cons {c : Char} {rest : List Char} (h : c.isDigit = false) :
    EndsDigits (c :: rest) := by
  intro x hx
  cases hx
  exact h

section Runs

variable {digits rest : List Char}

theorem takeWhile_isDigit (hdigits : ∀ c ∈ digits, c.isDigit = true) (hrest : EndsDigits rest) :
    (digits ++ rest).takeWhile Char.isDigit = digits := by
  rw [List.takeWhile_append_of_pos hdigits]
  cases rest with
  | nil => simp
  | cons c rest => simp [hrest c rfl]

theorem dropWhile_isDigit (hdigits : ∀ c ∈ digits, c.isDigit = true) (hrest : EndsDigits rest) :
    (digits ++ rest).dropWhile Char.isDigit = rest := by
  rw [List.dropWhile_append_of_pos hdigits]
  cases rest with
  | nil => rfl
  | cons c rest => simp [hrest c rfl]

end Runs

theorem isDigit_of_mem_toDigits {n : Nat} {c : Char} (h : c ∈ Nat.toDigits 10 n) :
    c.isDigit = true :=
  Nat.isDigit_of_mem_toDigits (by decide) (by decide) h

/-- The digits of a number do not begin with a zero, unless it is zero itself. -/
theorem exists_toDigits_eq_cons {n : Nat} (h : n ≠ 0) :
    ∃ c rest, Nat.toDigits 10 n = c :: rest ∧ c ≠ '0' := by
  induction n using Nat.strongRecOn with
  | ind n ih =>
    by_cases hn : n < 10
    · refine ⟨n.digitChar, [], Nat.toDigits_of_lt_base hn, ?_⟩
      have hfinite : ∀ m, m < 10 → m ≠ 0 → m.digitChar ≠ '0' := by decide
      exact hfinite n hn h
    · obtain ⟨c, rest, hdigits, hc⟩ := ih (n / 10) (by omega) (by omega)
      refine ⟨c, rest ++ [(n % 10).digitChar], ?_, hc⟩
      rw [Nat.toDigits_of_base_le (by decide) (by omega), hdigits, List.cons_append]

/-! ## The digits before and behind the point -/

/-- The digits before the point of a number in a JSON text: no zero stands in front of others. -/
inductive IsWhole : List Char → Prop
  | zero : IsWhole ['0']
  | digits {c rest} (first : c ≠ '0') (all : ∀ x ∈ c :: rest, x.isDigit = true) :
    IsWhole (c :: rest)

theorem IsWhole.isDigit {cs : List Char} (h : IsWhole cs) : ∀ c ∈ cs, c.isDigit = true := by
  cases h with
  | zero => exact fun c hc => List.mem_singleton.mp hc ▸ rfl
  | digits _ all => exact all

theorem IsWhole.isEmpty_eq_false {cs : List Char} (h : IsWhole cs) : cs.isEmpty = false := by
  cases h <;> rfl

theorem isWhole_toDigits (n : Nat) : IsWhole (Nat.toDigits 10 n) := by
  by_cases h : n = 0
  · subst h
    exact .zero
  · obtain ⟨c, rest, hdigits, hc⟩ := exists_toDigits_eq_cons h
    rw [hdigits]
    exact .digits hc fun x hx => isDigit_of_mem_toDigits (hdigits ▸ hx)

/-- The point may stand behind any of the digits. -/
theorem isWhole_take_toDigits (n k : Nat) : IsWhole ((Nat.toDigits 10 n).take (k + 1)) := by
  have hwhole := isWhole_toDigits n
  generalize Nat.toDigits 10 n = cs at hwhole ⊢
  cases hwhole with
  | zero =>
    rw [List.take_succ_cons, List.take_nil]
    exact .zero
  | digits first all =>
    rw [List.take_succ_cons]
    rw [List.forall_mem_cons] at all
    exact .digits first
      (List.forall_mem_cons.mpr ⟨all.1, fun x hx => all.2 x (List.mem_of_mem_take hx)⟩)

namespace Decimal

theorem ofDigitChars_leftpad (digits : List Char) (n : Nat) :
    Nat.ofDigitChars 10 (digits.leftpad n '0') 0 = Nat.ofDigitChars 10 digits 0 := by
  rw [List.leftpad, Nat.ofDigitChars_append, Nat.ofDigitChars_replicate_zero, Nat.mul_zero]

theorem isDigit_of_mem_pointSplit (d : Decimal) {c : Char}
    (h : c ∈ d.pointSplit.1 ++ d.pointSplit.2) : c.isDigit = true := by
  unfold pointSplit at h
  split at h
  · simp only [List.append_nil, List.mem_append] at h
    rcases h with h | h
    · exact isDigit_of_mem_toDigits h
    · rw [(List.mem_replicate.mp h).2]
      decide
  · simp only [List.splitAt_eq, List.take_append_drop, List.leftpad, List.mem_append] at h
    rcases h with h | h
    · rw [(List.mem_replicate.mp h).2]
      decide
    · exact isDigit_of_mem_toDigits h

/-- The digits around the point spell the decimal. -/
theorem exists_ofParts_pointSplit (d : Decimal) :
    ∃ zeros, ofParts d.pointSplit.1 d.pointSplit.2 0 = d.pad zeros := by
  obtain ⟨digits, exponent⟩ := d
  cases exponent with
  | ofNat zeros =>
    refine ⟨zeros, ?_⟩
    simp only [pointSplit, ofParts, pad, List.append_nil, Nat.ofDigitChars_append,
      Nat.ofDigitChars_ten_toDigits, Nat.ofDigitChars_replicate_zero, List.length_nil]
    rw [Nat.mul_comm]
    simp
  | negSucc n =>
    refine ⟨0, ?_⟩
    simp only [pointSplit, ofParts, pad_zero, List.splitAt_eq, List.take_append_drop,
      ofDigitChars_leftpad, Nat.ofDigitChars_ten_toDigits, List.length_drop, List.length_leftpad]
    simp
    omega

/-- Behind the point, one more zero counts for nothing. -/
theorem ofParts_append_zero (whole : List Char) :
    ofParts whole ['0'] 0 = (ofParts whole [] 0).pad 1 := by
  simp [ofParts, pad, Nat.ofDigitChars_append, Nat.ofDigitChars_cons, Nat.mul_comm]

theorem isWhole_pointSplit {d : Decimal} (hzero : d.digits = 0 → d.exponent ≤ 0) :
    IsWhole d.pointSplit.1 := by
  obtain ⟨digits, exponent⟩ := d
  cases exponent with
  | ofNat zeros =>
    by_cases h : digits = 0
    · obtain rfl : zeros = 0 := by
        have := hzero h
        simp only [Int.ofNat_eq_natCast] at this
        omega
      subst h
      exact .zero
    · have hdigits : ∀ c ∈ (mk digits (.ofNat zeros)).pointSplit.1, c.isDigit = true :=
        fun c hc => isDigit_of_mem_pointSplit _ (List.mem_append_left _ hc)
      obtain ⟨c, rest, hcons, hc⟩ := exists_toDigits_eq_cons h
      simp only [pointSplit, hcons, List.cons_append] at hdigits ⊢
      exact .digits hc hdigits
  | negSucc n =>
    simp only [pointSplit, List.splitAt_eq, List.length_leftpad]
    by_cases hlen : (Nat.toDigits 10 digits).length < n + 2
    · -- Digits that do not reach over the point are filled up to a single zero before it.
      have hone : max (n + 2) (Nat.toDigits 10 digits).length - (n + 1) = 1 := by omega
      obtain ⟨k, hk⟩ : ∃ k, n + 2 - (Nat.toDigits 10 digits).length = k + 1 :=
        ⟨n + 1 - (Nat.toDigits 10 digits).length, by omega⟩
      rw [hone, List.leftpad, hk, List.replicate_succ]
      exact .zero
    · have hpad : (Nat.toDigits 10 digits).leftpad (n + 2) '0' = Nat.toDigits 10 digits := by
        rw [List.leftpad, Nat.sub_eq_zero_of_le (by omega)]
        rfl
      obtain ⟨k, hk⟩ : ∃ k, max (n + 2) (Nat.toDigits 10 digits).length - (n + 1) = k + 1 :=
        ⟨max (n + 2) (Nat.toDigits 10 digits).length - (n + 2), by omega⟩
      rw [hpad, hk]
      exact isWhole_take_toDigits digits k

end Decimal

/-! ## A number among other characters -/

/-- The text does not go on with a number that stands before it. -/
def EndsNumber (rest : List Char) : Prop :=
  ∀ c ∈ rest.head?, c.isDigit = false ∧ c ≠ '.' ∧ c ≠ 'e' ∧ c ≠ 'E'

theorem EndsNumber.endsDigits {rest : List Char} (h : EndsNumber rest) : EndsDigits rest :=
  fun c hc => (h c hc).1

/-- The sign in front of a number. -/
def signChars (negative : Bool) : List Char := if negative then ['-'] else []

section Scanners

open Json.Token

variable {whole fraction digits rest : List Char}

theorem scanWhole_append (hwhole : IsWhole whole) (hrest : EndsDigits rest) :
    scanWhole (whole ++ rest) = some (whole, rest) := by
  cases hwhole with
  | zero => rfl
  | @digits c tail hfirst hall =>
    have htail : ∀ x ∈ tail, x.isDigit = true := fun x hx => hall x (List.mem_cons_of_mem _ hx)
    rw [List.cons_append, scanWhole.eq_3 _ _ (fun h => hfirst h),
      if_pos (hall c List.mem_cons_self), takeWhile_isDigit htail hrest,
      dropWhile_isDigit htail hrest]

theorem scanFraction_append (hne : fraction ≠ []) (hall : ∀ c ∈ fraction, c.isDigit = true)
    (hrest : EndsDigits rest) :
    scanFraction ('.' :: (fraction ++ rest)) = some (fraction, true, rest) := by
  simp only [scanFraction, takeWhile_isDigit hall hrest, dropWhile_isDigit hall hrest,
    List.isEmpty_iff, hne, if_false]

theorem scanFraction_none (hrest : ∀ c ∈ rest.head?, c ≠ '.') :
    scanFraction rest = some ([], false, rest) := by
  unfold scanFraction
  split
  · exact absurd rfl (hrest _ rfl)
  · rfl

theorem scanExponent_append (negative : Bool) (hne : digits ≠ [])
    (hall : ∀ c ∈ digits, c.isDigit = true) (hrest : EndsDigits rest) :
    scanExponent ('e' :: (if negative then '-' else '+') :: (digits ++ rest)) =
      some (Binary64.signed negative (Nat.ofDigitChars 10 digits 0), rest) := by
  cases negative <;>
    simp [scanExponent, readSign, takeWhile_isDigit hall hrest, dropWhile_isDigit hall hrest, hne]

theorem scanExponent_none (hrest : ∀ c ∈ rest.head?, c ≠ 'e' ∧ c ≠ 'E') :
    scanExponent rest = some (0, rest) := by
  cases rest with
  | nil => rfl
  | cons c rest =>
    have hc := hrest c rfl
    simp [scanExponent, hc.1, hc.2]

/-- A number is the sum of its parts. -/
theorem scanNumber_of_parts (negative : Bool) {cs behindWhole behindFraction : List Char}
    {hasPoint : Bool} {exponent : Int} (hwhole : scanWhole cs = some (whole, behindWhole))
    (hfraction : scanFraction behindWhole = some (fraction, hasPoint, behindFraction))
    (hexponent : scanExponent behindFraction = some (exponent, rest)) :
    scanNumber (signChars negative ++ cs) =
      some (⟨negative, .ofParts whole fraction exponent,
        !hasPoint && !decide (rest.length < behindFraction.length)⟩, rest) := by
  cases negative with
  | true => simp [scanNumber, signChars, hwhole, hfraction, hexponent]
  | false =>
    -- What begins with a digit does not begin with a sign.
    cases cs with
    | nil => cases hwhole
    | cons c cs =>
      have hc : c ≠ '-' := by
        rintro rfl
        cases hwhole
      simp [scanNumber, signChars, hc, hwhole, hfraction, hexponent]

/-! ## Numbers in JSON texts -/

/-- A number without point and exponent is read as a whole number. -/
theorem scanNumber_whole (negative : Bool) (hwhole : IsWhole whole) (hrest : EndsNumber rest) :
    scanNumber (signChars negative ++ (whole ++ rest)) =
      some (⟨negative, .ofParts whole [] 0, true⟩, rest) := by
  rw [scanNumber_of_parts negative (scanWhole_append hwhole hrest.endsDigits)
    (scanFraction_none fun c hc => (hrest c hc).2.1)
    (scanExponent_none fun c hc => (hrest c hc).2.2)]
  simp

theorem scanNumber_positional (negative : Bool) (hwhole : IsWhole whole) (hne : fraction ≠ [])
    (hall : ∀ c ∈ fraction, c.isDigit = true) (hrest : EndsNumber rest) :
    scanNumber (signChars negative ++ (whole ++ '.' :: (fraction ++ rest))) =
      some (⟨negative, .ofParts whole fraction 0, false⟩, rest) := by
  rw [scanNumber_of_parts negative (scanWhole_append hwhole (endsDigits_cons rfl))
    (scanFraction_append hne hall hrest.endsDigits)
    (scanExponent_none fun c hc => (hrest c hc).2.2)]
  simp

theorem scanNumber_scientific (negative negativeExponent : Bool) (hwhole : IsWhole whole)
    (hall : ∀ c ∈ fraction, c.isDigit = true) (hne : digits ≠ [])
    (hdigits : ∀ c ∈ digits, c.isDigit = true) (hrest : EndsNumber rest) :
    scanNumber (signChars negative ++ (whole ++
        ((if fraction.isEmpty then [] else '.' :: fraction) ++
          'e' :: (if negativeExponent then '-' else '+') :: (digits ++ rest)))) =
      some (⟨negative, .ofParts whole fraction
        (Binary64.signed negativeExponent (Nat.ofDigitChars 10 digits 0)), false⟩, rest) := by
  have hexponent := scanExponent_append negativeExponent hne hdigits hrest.endsDigits
  have hlength : rest.length <
      ('e' :: (if negativeExponent then '-' else '+') :: (digits ++ rest)).length := by
    simp only [List.length_cons, List.length_append]
    omega
  cases fraction with
  | nil =>
    rw [List.isEmpty_nil, if_pos rfl, List.nil_append, scanNumber_of_parts negative
      (scanWhole_append hwhole (endsDigits_cons rfl)) (scanFraction_none (by simp)) hexponent]
    simp only [hlength, decide_true, Bool.not_true, Bool.and_false]
  | cons c fraction =>
    rw [List.isEmpty_cons, if_neg Bool.false_ne_true, List.cons_append, scanNumber_of_parts negative
      (scanWhole_append hwhole (endsDigits_cons rfl))
      (scanFraction_append (List.cons_ne_nil _ _) hall (endsDigits_cons rfl)) hexponent]
    simp only [Bool.not_true, Bool.false_and]

end Scanners

/-- An integer is the signed number of its units. -/
theorem Binary64.signed_natAbs (i : Int) : signed (decide (i < 0)) i.natAbs = i := by
  unfold signed
  split
  · rename_i h
    rw [decide_eq_true_eq] at h
    omega
  · rename_i h
    rw [decide_eq_true_eq] at h
    omega

namespace Decimal

/-- One digit, the others behind the point, and the exponent spell the decimal. -/
theorem ofParts_scientific (d : Decimal) :
    ofParts ((Nat.toDigits 10 d.digits).take 1) ((Nat.toDigits 10 d.digits).drop 1) d.leading =
      d := by
  obtain ⟨digits, exponent⟩ := d
  have hlen : 0 < (Nat.toDigits 10 digits).length := Nat.length_toDigits_pos
  simp only [ofParts, List.take_append_drop, Nat.ofDigitChars_ten_toDigits, List.length_drop,
    leading, mk.injEq, true_and]
  omega

/-- In a JSON text, a written decimal is scanned up to zeros behind its digits. -/
theorem exists_scanNumber (d : Decimal) (hzero : d.digits = 0 → d.exponent ≤ 0)
    (negative : Bool) :
    ∃ zeros, ∀ {rest}, EndsNumber rest →
      Json.Token.scanNumber (signChars negative ++ (d.text .json ++ rest)) =
        some (⟨negative, d.pad zeros, false⟩, rest) := by
  unfold text
  split
  · obtain ⟨zeros, hparts⟩ := d.exists_ofParts_pointSplit
    have hwhole := isWhole_pointSplit hzero
    by_cases hfraction : d.pointSplit.2 = []
    · refine ⟨zeros + 1, fun {rest} hrest => ?_⟩
      rw [hfraction] at hparts
      have htext : d.positionalText Style.json.wholeMark ++ rest =
          d.pointSplit.1 ++ '.' :: (['0'] ++ rest) := by
        simp [positionalText, hfraction, Style.json]
      rw [htext, scanNumber_positional negative hwhole (by simp) (by simp) hrest,
        ofParts_append_zero, hparts, pad_pad]
    · refine ⟨zeros, fun {rest} hrest => ?_⟩
      have htext : d.positionalText Style.json.wholeMark ++ rest =
          d.pointSplit.1 ++ '.' :: (d.pointSplit.2 ++ rest) := by
        simp [positionalText, hfraction]
      rw [htext, scanNumber_positional negative hwhole hfraction
        (fun c hc => d.isDigit_of_mem_pointSplit (List.mem_append_right _ hc)) hrest, hparts]
  · refine ⟨0, fun {rest} hrest => ?_⟩
    have hdigits : ∀ c ∈ (Nat.toDigits 10 d.digits).drop 1, c.isDigit = true :=
      fun c hc => isDigit_of_mem_toDigits (List.mem_of_mem_drop hc)
    have hsign : (if decide (d.leading < 0) = true then '-' else '+') =
        if d.leading < 0 then '-' else '+' := by simp only [decide_eq_true_eq]
    have hscan := scanNumber_scientific negative (decide (d.leading < 0))
      (isWhole_take_toDigits d.digits 0) hdigits (Nat.toDigits_ne_nil (n := d.leading.natAbs))
      (fun _ => isDigit_of_mem_toDigits) hrest
    rw [Nat.ofDigitChars_ten_toDigits, Binary64.signed_natAbs, ofParts_scientific, hsign] at hscan
    rw [pad_zero, ← hscan]
    simp only [scientificText, List.append_assoc, List.cons_append]

/-! ### The plain style -/

theorem text_plain (d : Decimal) :
    d.text .plain =
      d.pointSplit.1 ++ if d.pointSplit.2.isEmpty then [] else '.' :: d.pointSplit.2 := rfl

theorem head?_text_plain (d : Decimal) (hzero : d.digits = 0 → d.exponent ≤ 0) :
    ∀ c ∈ (d.text .plain).head?, c.isDigit = true := by
  have hwhole := isWhole_pointSplit hzero
  rw [text_plain]
  generalize d.pointSplit.1 = whole at hwhole ⊢
  intro c hc
  cases hwhole with
  | zero =>
    cases hc
    rfl
  | digits _ all =>
    cases hc
    exact all _ List.mem_cons_self

theorem isDigit_or_of_mem_text {d : Decimal} {c : Char} (h : c ∈ d.text .plain) :
    c.isDigit = true ∨ c = '.' := by
  have hdigit : c ∈ d.pointSplit.1 ∨ c ∈ d.pointSplit.2 → c.isDigit = true :=
    fun h => d.isDigit_of_mem_pointSplit (List.mem_append.mpr h)
  rw [text_plain, List.mem_append] at h
  rcases h with h | h
  · exact Or.inl (hdigit (Or.inl h))
  · split at h
    · cases h
    · rcases List.mem_cons.mp h with h | h
      · exact Or.inr h
      · exact Or.inl (hdigit (Or.inr h))

/-- A text in the plain style is a literal of the decimal up to zeros behind its digits. -/
theorem exists_read_text (d : Decimal) (hzero : d.digits = 0 → d.exponent ≤ 0) :
    ∃ zeros, read (d.text .plain) = some (d.pad zeros) := by
  obtain ⟨zeros, hparts⟩ := d.exists_ofParts_pointSplit
  refine ⟨zeros, ?_⟩
  have hwhole := isWhole_pointSplit hzero
  have hfraction : ∀ c ∈ d.pointSplit.2, c.isDigit = true :=
    fun c hc => d.isDigit_of_mem_pointSplit (List.mem_append_right _ hc)
  rw [text_plain, ← hparts]
  generalize d.pointSplit.1 = whole at hwhole
  generalize d.pointSplit.2 = fraction at hfraction
  have htake : fraction.takeWhile Char.isDigit = fraction := by
    simpa using takeWhile_isDigit hfraction endsDigits_nil
  have hdrop : fraction.dropWhile Char.isDigit = [] := by
    simpa using dropWhile_isDigit hfraction endsDigits_nil
  cases fraction with
  | nil =>
    simp only [List.isEmpty_nil, if_true, read, takeWhile_isDigit hwhole.isDigit endsDigits_nil,
      dropWhile_isDigit hwhole.isDigit endsDigits_nil, hwhole.isEmpty_eq_false, Bool.false_and]
    rfl
  | cons c fraction =>
    have hpoint : EndsDigits ('.' :: c :: fraction) := endsDigits_cons rfl
    simp only [List.isEmpty_cons, Bool.false_eq_true, if_false, read,
      takeWhile_isDigit hwhole.isDigit hpoint, dropWhile_isDigit hwhole.isDigit hpoint, htake,
      hdrop, hwhole.isEmpty_eq_false, Bool.false_and]
    rfl

theorem toUnits_zero (exponent : Int) : (mk 0 exponent).toUnits = 0 := by
  cases exponent <;> simp [toUnits, decimalRatio, Binary64.roundUnits_zero]

end Decimal

/-! ## Numbers and the decimals that stand for them -/

namespace Binary64

/-- The decimal with which a magnitude is written. -/
def writtenDecimal (tie : Tie) (units : Nat) : Decimal :=
  if units = 0 then ⟨0, 0⟩ else shortest tie units

theorem toUnits_writtenDecimal (tie : Tie) {units : Nat} (h : IsRepresentable units) :
    (writtenDecimal tie units).toUnits = units := by
  unfold writtenDecimal
  split
  · rename_i hzero
    rw [hzero, Decimal.toUnits_zero]
  · exact toUnits_shortest tie h

/-- Only a zero is written with the digit zero, and then without an exponent. -/
theorem exponent_writtenDecimal_le (tie : Tie) {units : Nat} (h : IsRepresentable units)
    (hzero : (writtenDecimal tie units).digits = 0) : (writtenDecimal tie units).exponent ≤ 0 := by
  have hunits := toUnits_writtenDecimal tie h
  generalize hd : writtenDecimal tie units = d at hzero hunits ⊢
  obtain ⟨digits, exponent⟩ := d
  obtain rfl : digits = 0 := hzero
  rw [Decimal.toUnits_zero] at hunits
  rw [writtenDecimal, if_pos hunits.symm] at hd
  cases hd
  exact Int.le_refl 0

theorem chars_finite (style : Style) (negative : Bool) {units : Nat} (h : IsRepresentable units) :
    (finite negative units h).chars style =
      signChars negative ++ (writtenDecimal style.tie units).text style := rfl

theorem readSign_append (negative : Bool) {cs : List Char} (h : ∀ c ∈ cs.head?, c.isDigit = true) :
    readSign (signChars negative ++ cs) = (negative, cs) := by
  cases negative with
  | true => rfl
  | false =>
    change readSign cs = _
    unfold readSign
    split
    · exact absurd (h _ rfl) (by decide)
    · exact absurd (h _ rfl) (by decide)
    · rfl

/-- **A finite number is what its text in the plain style spells.** -/
theorem read_chars {x : Binary64} (hfinite : x.isFinite = true) :
    read (x.chars .plain) = some x := by
  cases x with
  | nan | infinite => cases hfinite
  | finite negative units h =>
    have hzero := exponent_writtenDecimal_le Style.plain.tie h
    have hunits := toUnits_writtenDecimal Style.plain.tie h
    rw [chars_finite]
    generalize writtenDecimal Style.plain.tie units = d at hzero hunits ⊢
    obtain ⟨zeros, hread⟩ := d.exists_read_text hzero
    have hvalue : (d.pad zeros).toBinary64 negative = finite negative units h :=
      Decimal.toBinary64_of_toUnits negative h ((d.toUnits_pad zeros).trans hunits)
    simp only [read, readSign_append negative (d.head?_text_plain hzero), hread, hvalue]

/-- The characters of a finite number in the plain style. -/
theorem isDigit_or_of_mem_chars {x : Binary64} (hfinite : x.isFinite = true) {c : Char}
    (h : c ∈ x.chars .plain) : c.isDigit = true ∨ c = '.' ∨ c = '-' := by
  cases x with
  | nan | infinite => cases hfinite
  | finite negative units hunits =>
    rw [chars_finite, List.mem_append] at h
    rcases h with h | h
    · cases negative <;> simp_all [signChars]
    · rcases Decimal.isDigit_or_of_mem_text h with h | h
      · exact Or.inl h
      · exact Or.inr (Or.inl h)

end Binary64
end Charting.Number

namespace Charting.JsonNumber

open Number

theorem integerChars_eq (value : Int) :
    integerChars value = signChars (decide (value < 0)) ++ Nat.toDigits 10 value.natAbs := by
  simp only [integerChars, signChars, decide_eq_true_eq]

theorem ofLiteral?_integer {value : Int} (fits : FitsWord value) :
    ofLiteral? ⟨decide (value < 0), .ofParts (Nat.toDigits 10 value.natAbs) [] 0, true⟩ =
      some (integer value fits) := by
  have hsign : (decide (value < 0) && (value.natAbs == 0)) = false := by
    rw [Bool.and_eq_false_iff, decide_eq_false_iff_not, beq_eq_false_iff_ne]
    omega
  have hinteger : (Literal.mk (decide (value < 0))
      (.ofParts (Nat.toDigits 10 value.natAbs) [] 0) true).integer? = some value := by
    simp only [Literal.integer?, Decimal.ofParts, List.append_nil, Nat.ofDigitChars_ten_toDigits,
      hsign, Binary64.signed_natAbs]
    rfl
  simp only [ofLiteral?, hinteger, fits, dif_pos]

theorem ofLiteral?_real {negative : Bool} {units : Nat} (h : IsRepresentable units) {d : Decimal}
    (hd : d.toUnits = units) :
    ofLiteral? ⟨negative, d, false⟩ = some (real (.finite negative units h) rfl) := by
  have hinteger : (Literal.mk negative d false).integer? = none := rfl
  have hvalue := Decimal.toBinary64_of_toUnits negative h hd
  simp only [ofLiteral?, hinteger, hvalue]
  rfl

/-- A written number is taken off the front of a text as a literal that has its value. -/
theorem exists_literal (n : JsonNumber) :
    ∃ literal, ofLiteral? literal = some n ∧ ∀ {rest}, EndsNumber rest →
      Json.Token.scanNumber (n.chars ++ rest) = some (literal, rest) := by
  cases n with
  | integer value fits =>
    refine ⟨_, ofLiteral?_integer fits, fun {rest} hrest => ?_⟩
    rw [chars, integerChars_eq, List.append_assoc]
    exact scanNumber_whole _ (isWhole_toDigits _) hrest
  | real value finite =>
    cases value with
    | nan | infinite => cases finite
    | finite negative units h =>
      obtain ⟨zeros, hscan⟩ := (Binary64.writtenDecimal Style.json.tie units).exists_scanNumber
        (Binary64.exponent_writtenDecimal_le _ h) negative
      refine ⟨⟨negative, (Binary64.writtenDecimal Style.json.tie units).pad zeros, false⟩,
        ofLiteral?_real h ?_, fun {rest} hrest => ?_⟩
      · rw [Decimal.toUnits_pad, Binary64.toUnits_writtenDecimal _ h]
      · rw [chars, Binary64.chars_finite, List.append_assoc]
        exact hscan hrest

/-- The literal that the text of a number is scanned as. -/
def literal (n : JsonNumber) : Literal :=
  match Json.Token.scanNumber n.chars with
  | some (literal, _) => literal
  | none => ⟨false, ⟨0, 0⟩, true⟩

theorem scanNumber_chars (n : JsonNumber) {rest : List Char} (hrest : EndsNumber rest) :
    Json.Token.scanNumber (n.chars ++ rest) = some (n.literal, rest) := by
  obtain ⟨literal, -, hscan⟩ := n.exists_literal
  have hnil : Json.Token.scanNumber (n.chars ++ []) = some (literal, []) := hscan nofun
  rw [List.append_nil] at hnil
  rw [hscan hrest, JsonNumber.literal, hnil]

/-- **The text of a number has the value of the number.** -/
theorem ofLiteral?_literal (n : JsonNumber) : ofLiteral? n.literal = some n := by
  obtain ⟨literal, hvalue, hscan⟩ := n.exists_literal
  have hnil : Json.Token.scanNumber (n.chars ++ []) = some (literal, []) := hscan nofun
  rw [List.append_nil] at hnil
  rw [JsonNumber.literal, hnil, hvalue]

/-- Every number that a text can hold is finite. -/
theorem isFinite_toBinary64 (n : JsonNumber) : n.toBinary64.isFinite = true := by
  cases n with
  | real value finite => exact finite
  | integer value fits =>
    rw [toBinary64, Binary64.ofUnits]
    split
    · rfl
    · obtain ⟨hlow, hhigh⟩ := fits
      rw [Int.natAbs_mul, Int.natAbs_natCast]
      exact Binary64.isFinite_ofRatio_one _ (by omega)

end Charting.JsonNumber
