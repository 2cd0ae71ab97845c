import Charting.Number.Literal
import Charting.Proofs.RoundTrip.Number
import Charting.Proofs.Rounding.Order

/-! # What a number literal is

The grammar of literals, written down beside the reader: an optional sign, digits with at most one
point among, before or behind them, and an optional exponent; or a sign and one of the names in any
letter case.  Each form comes with the number it stands for, and the reader finds exactly the texts
of these forms, with these numbers (`Binary64.read_eq_some_iff`).
-/
namespace Charting.Number

-- Powers of naturals are the built-in ones, also beside other instances of powers.
attribute [local instance (1100)] instPowNat

/-- A text of digits alone. -/
def AllDigits (cs : List Char) : Prop := ∀ c ∈ cs, c.isDigit = true

/-- A sign or none, and whether it is a minus. -/
inductive IsSign : List Char → Bool → Prop
  | none : IsSign [] false
  | plus : IsSign ['+'] false
  | minus : IsSign ['-'] true

/-- A mark of either letter case with signed digits behind it, or nothing for the exponent zero. -/
inductive IsExponent : List Char → Int → Prop
  | none : IsExponent [] 0
  | marked {mark : Char} {sign digits : List Char} {negative : Bool}
      (e : mark = 'e' ∨ mark = 'E') (signed : IsSign sign negative) (ne : digits ≠ [])
      (all : AllDigits digits) :
      IsExponent (mark :: (sign ++ digits))
        (Binary64.signed negative (Nat.ofDigitChars 10 digits 0))

/-- Digits, of which at least one stands before or behind the point if there is one. -/
inductive IsMantissa : List Char → (whole fraction : List Char) → Prop
  | integer {whole : List Char} (ne : whole ≠ []) (all : AllDigits whole) :
      IsMantissa whole whole []
  | point {whole fraction : List Char} (ne : whole ≠ [] ∨ fraction ≠ [])
      (all : AllDigits whole) (behind : AllDigits fraction) :
      IsMantissa (whole ++ '.' :: fraction) whole fraction

/-- The literals, each with the number it stands for. -/
inductive IsLiteral : List Char → Binary64 → Prop
  | decimal {sign mantissa whole fraction mark : List Char} {negative : Bool} {exponent : Int}
      (signed : IsSign sign negative) (digits : IsMantissa mantissa whole fraction)
      (scaled : IsExponent mark exponent) :
      IsLiteral (sign ++ (mantissa ++ mark))
        ((Decimal.ofParts whole fraction exponent).toBinary64 negative)
  | infinite {sign name : List Char} {negative : Bool} (signed : IsSign sign negative)
      (named : name.map Char.toLower = "inf".toList ∨
        name.map Char.toLower = "infinity".toList) :
      IsLiteral (sign ++ name) (.infinite negative)
  | nan {sign name : List Char} {negative : Bool} (signed : IsSign sign negative)
      (named : name.map Char.toLower = "nan".toList) :
      IsLiteral (sign ++ name) .nan

/-! ## Signs and exponents -/

/-- A text that does not begin with a sign. -/
def Unsigned (cs : List Char) : Prop := ∀ c ∈ cs.head?, c ≠ '-' ∧ c ≠ '+'

theorem unsigned_of_head? {cs : List Char} (h : ∀ c ∈ cs.head?, c.isDigit = true ∨ c = '.') :
    Unsigned cs := by
  refine fun c hc => ⟨?_, ?_⟩ <;> rintro rfl <;> exact absurd (h _ hc) (by decide)

theorem isSign_readSign (cs : List Char) :
    ∃ sign, IsSign sign (readSign cs).1 ∧ cs = sign ++ (readSign cs).2 := by
  unfold readSign
  split
  · exact ⟨['-'], .minus, rfl⟩
  · exact ⟨['+'], .plus, rfl⟩
  · exact ⟨[], .none, rfl⟩

theorem readSign_of_isSign {sign rest : List Char} {negative : Bool} (h : IsSign sign negative)
    (hrest : Unsigned rest) : readSign (sign ++ rest) = (negative, rest) := by
  cases h with
  | plus | minus => rfl
  | none =>
    rw [List.nil_append]
    unfold readSign
    split
    · exact absurd rfl (hrest _ rfl).1
    · exact absurd rfl (hrest _ rfl).2
    · rfl

theorem takeWhile_allDigits {cs : List Char} : AllDigits (cs.takeWhile Char.isDigit) :=
  List.all_eq_true.mp List.all_takeWhile

theorem allDigits_of_dropWhile_eq_nil {cs : List Char} (h : cs.dropWhile Char.isDigit = []) :
    AllDigits cs := by
  have hcs : cs.takeWhile Char.isDigit ++ [] = cs := h ▸ List.takeWhile_append_dropWhile
  rw [← hcs, List.append_nil]
  exact takeWhile_allDigits

theorem AllDigits.takeWhile_eq {cs : List Char} (h : AllDigits cs) :
    cs.takeWhile Char.isDigit = cs := by
  simpa using takeWhile_isDigit h endsDigits_nil

theorem AllDigits.dropWhile_eq {cs : List Char} (h : AllDigits cs) :
    cs.dropWhile Char.isDigit = [] := by
  simpa using dropWhile_isDigit h endsDigits_nil

theorem AllDigits.unsigned {cs : List Char} (h : AllDigits cs) : Unsigned cs :=
  unsigned_of_head? fun c hc => Or.inl (h c (List.mem_of_mem_head? hc))

theorem scanExponent_eq_some_iff {cs : List Char} {exponent : Int} :
    scanExponent cs = some (exponent, []) ↔ IsExponent cs exponent := by
  constructor
  · intro h
    cases cs with
    | nil =>
      cases h
      exact .none
    | cons mark rest =>
      rw [scanExponent] at h
      split at h
      case isTrue hmark =>
        obtain ⟨sign, hsign, hrest⟩ := isSign_readSign rest
        generalize readSign rest = read at h hsign hrest
        obtain ⟨negative, digits⟩ := read
        dsimp only at h hsign hrest
        split at h
        case isTrue => cases h
        case isFalse hne =>
          rw [Option.some.injEq, Prod.mk.injEq] at h
          obtain ⟨rfl, hdrop⟩ := h
          have hall := allDigits_of_dropWhile_eq_nil hdrop
          rw [hall.takeWhile_eq, List.isEmpty_iff] at hne
          rw [hall.takeWhile_eq, hrest]
          exact .marked hmark hsign hne hall
      case isFalse => cases h
  · intro h
    cases h with
    | none => rfl
    | marked hmark hsign hne hall =>
      rw [scanExponent, if_pos hmark, readSign_of_isSign hsign hall.unsigned]
      simp [hall.takeWhile_eq, hall.dropWhile_eq, hne]

/-- An exponent does not go on with the digits in front of it. -/
theorem IsExponent.endsDigits {cs : List Char} {exponent : Int} (h : IsExponent cs exponent) :
    EndsDigits cs := by
  cases h with
  | none => exact endsDigits_nil
  | marked e => rcases e with rfl | rfl <;> exact endsDigits_cons rfl

/-! ## Digits around a point -/

theorem endsDigits_dropWhile (cs : List Char) : EndsDigits (cs.dropWhile Char.isDigit) := by
  intro c hc
  have hhead := List.head?_dropWhile_not Char.isDigit cs
  rw [hc] at hhead
  exact hhead

namespace Decimal

section Read

variable {whole fraction rest : List Char} {d : Decimal}

/-- The text behind the digits is used up by an exponent. -/
theorem scaled_iff :
    (match scanExponent rest with
      | some (exponent, []) => some (ofParts whole fraction exponent)
      | _ => none) = some d ↔
      ∃ exponent, IsExponent rest exponent ∧ ofParts whole fraction exponent = d := by
  constructor
  · intro h
    split at h
    case h_1 exponent hscan =>
      exact ⟨exponent, scanExponent_eq_some_iff.mp hscan, Option.some.inj h⟩
    case h_2 => cases h
  · rintro ⟨exponent, hscan, rfl⟩
    rw [scanExponent_eq_some_iff.mpr hscan]

variable (all : AllDigits whole) (hrest : EndsDigits rest)
include all hrest

theorem read_integer_iff (hpoint : rest.head? ≠ some '.') :
    read (whole ++ rest) = some d ↔
      whole ≠ [] ∧ ∃ exponent, IsExponent rest exponent ∧ ofParts whole [] exponent = d := by
  rw [read, takeWhile_isDigit all hrest, dropWhile_isDigit all hrest]
  by_cases hne : whole = []
  · cases rest with
    | nil => simp [hne]
    | cons c rest =>
      have hc : c ≠ '.' := fun h => hpoint (h ▸ rfl)
      simp [hc, hne]
  · rw [and_iff_right hne]
    have hempty : whole.isEmpty = false := by simpa using hne
    cases rest with
    | nil =>
      rw [hempty]
      exact @scaled_iff whole [] [] d
    | cons c rest =>
      have hc : c ≠ '.' := fun h => hpoint (h ▸ rfl)
      simp only [hempty, List.cons.injEq, hc, false_and, imp_self, implies_true, Bool.false_and,
        Bool.false_eq_true, if_false]
      exact scaled_iff

theorem read_point_iff (behind : AllDigits fraction) :
    read (whole ++ '.' :: (fraction ++ rest)) = some d ↔ (whole ≠ [] ∨ fraction ≠ []) ∧
      ∃ exponent, IsExponent rest exponent ∧ ofParts whole fraction exponent = d := by
  have hpoint : EndsDigits ('.' :: (fraction ++ rest)) := endsDigits_cons rfl
  rw [read, takeWhile_isDigit all hpoint, dropWhile_isDigit all hpoint]
  simp only [takeWhile_isDigit behind hrest, dropWhile_isDigit behind hrest]
  by_cases hne : whole = [] ∧ fraction = []
  · simp [hne.1, hne.2]
  · have hempty : (whole.isEmpty && fraction.isEmpty) = false := by
      simpa [List.isEmpty_iff] using hne
    rw [Classical.not_and_iff_not_or_not] at hne
    rw [and_iff_right hne, hempty]
    exact scaled_iff

end Read

/-- The reader of unsigned decimals finds digits around a point and an exponent. -/
theorem read_eq_some_iff {cs : List Char} {d : Decimal} :
    read cs = some d ↔ ∃ mantissa mark whole fraction exponent, cs = mantissa ++ mark ∧
      IsMantissa mantissa whole fraction ∧ IsExponent mark exponent ∧
      ofParts whole fraction exponent = d := by
  constructor
  · intro h
    obtain ⟨whole, rest, rfl, hwhole, hrest⟩ : ∃ whole rest, cs = whole ++ rest ∧
        AllDigits whole ∧ EndsDigits rest :=
      ⟨_, _, List.takeWhile_append_dropWhile.symm, takeWhile_allDigits, endsDigits_dropWhile cs⟩
    by_cases hpoint : rest.head? = some '.'
    · obtain ⟨behind, rfl⟩ := List.head?_eq_some_iff.mp hpoint
      obtain ⟨fraction, mark, rfl, hfraction, hmark⟩ : ∃ fraction mark, behind = fraction ++ mark ∧
          AllDigits fraction ∧ EndsDigits mark :=
        ⟨_, _, List.takeWhile_append_dropWhile.symm, takeWhile_allDigits,
          endsDigits_dropWhile behind⟩
      obtain ⟨hne, exponent, hexponent, hd⟩ := (read_point_iff hwhole hmark hfraction).mp h
      exact ⟨_, _, _, _, _, by simp, .point hne hwhole hfraction, hexponent, hd⟩
    · obtain ⟨hne, exponent, hexponent, hd⟩ := (read_integer_iff hwhole hrest hpoint).mp h
      exact ⟨_, _, _, _, _, rfl, .integer hne hwhole, hexponent, hd⟩
  · rintro ⟨mantissa, mark, whole, fraction, exponent, rfl, hmantissa, hexponent, hd⟩
    cases hmantissa with
    | integer ne all =>
      refine (read_integer_iff all hexponent.endsDigits ?_).mpr ⟨ne, exponent, hexponent, hd⟩
      cases hexponent with
      | none => nofun
      | marked e => rcases e with rfl | rfl <;> simp
    | point ne all behind =>
      rw [List.append_assoc, List.cons_append]
      exact (read_point_iff all hexponent.endsDigits behind).mpr ⟨ne, exponent, hexponent, hd⟩

end Decimal

/-! ## Whole literals -/

theorem IsMantissa.head?_append {cs whole fraction : List Char}
    (h : IsMantissa cs whole fraction) (rest : List Char) :
    ∃ c, (cs ++ rest).head? = some c ∧ (c.isDigit = true ∨ c = '.') := by
  cases h with
  | integer ne all =>
    obtain ⟨c, rest, rfl⟩ := List.exists_cons_of_ne_nil ne
    exact ⟨c, rfl, Or.inl (all c List.mem_cons_self)⟩
  | point ne all behind =>
    cases whole with
    | nil => exact ⟨'.', rfl, Or.inr rfl⟩
    | cons c rest => exact ⟨c, rfl, Or.inl (all c List.mem_cons_self)⟩

/-- A name, as a text that begins with one of two letters, is neither signed nor a decimal. -/
theorem of_toLower_eq {c : Char} (h : c.toLower = 'i' ∨ c.toLower = 'n') :
    (c.isDigit = false ∧ c ≠ '.') ∧ c ≠ '-' ∧ c ≠ '+' := by
  refine ⟨⟨Bool.eq_false_iff.mpr fun hdigit => ?_, ?_⟩, ?_, ?_⟩
  case refine_1 =>
    have hlower : c.toLower = c := by
      have hle : c.val ≤ '9'.val := of_decide_eq_true (Bool.and_eq_true_iff.mp hdigit).2
      exact dif_neg fun hge => absurd (UInt32.le_trans hge.1 hle) (by decide)
    rw [hlower] at h
    rcases h with rfl | rfl <;> exact absurd hdigit (by decide)
  all_goals
    rintro rfl
    exact absurd h (by decide)

section Names

variable {name : List Char}

theorem head?_of_named (h : name.map Char.toLower = "inf".toList ∨
    name.map Char.toLower = "infinity".toList ∨ name.map Char.toLower = "nan".toList) :
    ∃ c, name.head? = some c ∧ (c.toLower = 'i' ∨ c.toLower = 'n') := by
  cases name with
  | nil => simp at h
  | cons c rest =>
    refine ⟨c, rfl, ?_⟩
    rcases h with h | h | h
    · exact Or.inl (List.cons.inj h).1
    · exact Or.inl (List.cons.inj h).1
    · exact Or.inr (List.cons.inj h).1

theorem read_of_head?_eq {c : Char} (hhead : name.head? = some c)
    (hc : c.toLower = 'i' ∨ c.toLower = 'n') : Unsigned name ∧ Decimal.read name = none := by
  obtain ⟨⟨hdigit, hpoint⟩, hsign⟩ := of_toLower_eq hc
  constructor
  · intro x hx
    obtain rfl : c = x := Option.some.inj (hhead.symm.trans hx)
    exact hsign
  · rw [Option.eq_none_iff_forall_ne_some]
    intro d hd
    obtain ⟨mantissa, mark, whole, fraction, exponent, rfl, hmantissa, -⟩ :=
      Decimal.read_eq_some_iff.mp hd
    obtain ⟨x, hx, hfirst⟩ := hmantissa.head?_append mark
    obtain rfl : x = c := Option.some.inj (hx.symm.trans hhead)
    rcases hfirst with h | h
    · rw [hdigit] at h
      cases h
    · exact hpoint h

end Names

namespace Binary64

theorem ofList_eq_iff {cs : List Char} {s : String} : String.ofList cs = s ↔ cs = s.toList :=
  ⟨fun h => by rw [← h, String.toList_ofList], fun h => by rw [h, String.ofList_toList]⟩

/-- **The reader takes exactly the literals, each as the number it stands for.** -/
theorem read_eq_some_iff {cs : List Char} {x : Binary64} :
    read cs = some x ↔ IsLiteral cs x := by
  constructor
  · intro h
    obtain ⟨sign, hsign, hcs⟩ := isSign_readSign cs
    rw [read] at h
    generalize readSign cs = scanned at h hsign hcs
    obtain ⟨negative, body⟩ := scanned
    dsimp only at h hsign hcs
    subst hcs
    split at h
    case h_1 d hd =>
      obtain ⟨mantissa, mark, whole, fraction, exponent, rfl, hmantissa, hmark, rfl⟩ :=
        Decimal.read_eq_some_iff.mp hd
      cases h
      exact .decimal hsign hmantissa hmark
    case h_2 =>
      simp only [readName, ofList_eq_iff] at h
      split at h
      case isTrue hname =>
        cases h
        exact .infinite hsign hname
      case isFalse =>
        split at h
        case isTrue hname =>
          cases h
          exact .nan hsign hname
        case isFalse => cases h
  · intro h
    cases h with
    | @decimal sign mantissa _ _ mark _ _ signed digits scaled =>
      obtain ⟨c, hhead, hc⟩ := digits.head?_append mark
      have hunsigned : Unsigned (mantissa ++ mark) :=
        unsigned_of_head? fun x hx => Option.some.inj (hhead.symm.trans hx) ▸ hc
      have hread := Decimal.read_eq_some_iff.mpr ⟨_, _, _, _, _, rfl, digits, scaled, rfl⟩
      simp only [read, readSign_of_isSign signed hunsigned, hread]
    | infinite signed named =>
      obtain ⟨c, hhead, hc⟩ := head?_of_named (named.imp_right Or.inl)
      obtain ⟨hunsigned, hnone⟩ := read_of_head?_eq hhead hc
      simp only [read, readSign_of_isSign signed hunsigned, hnone, readName, ofList_eq_iff,
        if_pos named]
    | nan signed named =>
      obtain ⟨c, hhead, hc⟩ := head?_of_named (Or.inr (Or.inr named))
      obtain ⟨hunsigned, hnone⟩ := read_of_head?_eq hhead hc
      simp only [read, readSign_of_isSign signed hunsigned, hnone, readName, ofList_eq_iff, named]
      rfl

end Binary64

/-! ## Written numbers -/

theorem isLiteral_chars {x : Binary64} (hfinite : x.isFinite = true) :
    IsLiteral (x.chars .plain) x :=
  Binary64.read_eq_some_iff.mp (Binary64.read_chars hfinite)

/-- The digits of a whole number stand for it, as long as the format holds it. -/
theorem isLiteral_toDigits {n : Nat} (h : n ≤ 2 ^ (53 : Nat)) :
    IsLiteral (Nat.toDigits 10 n) (.ofNat n) := by
  have hdecimal : IsLiteral ([] ++ (Nat.toDigits 10 n ++ []))
      ((Decimal.ofParts (Nat.toDigits 10 n) [] 0).toBinary64 false) :=
    .decimal .none (.integer Nat.toDigits_ne_nil fun _ => isDigit_of_mem_toDigits) .none
  have hunits : (⟨n, 0⟩ : Decimal).toUnits = n * oneUnits := by
    have hexact := roundUnits_mul (Binary64.isRepresentable_mul_oneUnits h) Nat.one_pos
    rw [Nat.mul_one] at hexact
    simpa [Decimal.toUnits, decimalRatio] using hexact
  have hparts : Decimal.ofParts (Nat.toDigits 10 n) [] 0 = ⟨n, 0⟩ := by
    simp [Decimal.ofParts, Nat.ofDigitChars_ten_toDigits]
  rw [List.nil_append, List.append_nil, hparts,
    Decimal.toBinary64_of_toUnits false (Binary64.isRepresentable_mul_oneUnits h) hunits,
    ← Binary64.ofNat_eq_finite h] at hdecimal
  exact hdecimal

end Charting.Number
