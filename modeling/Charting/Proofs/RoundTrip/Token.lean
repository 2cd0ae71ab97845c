import Charting.Json.Node
import Charting.Json.Writer
import Charting.Proofs.RoundTrip.Number

/-! # The tokens of written values

`Json.tokens` says which tokens a value is written with, whatever the layout.  Main statement: the
scanner finds exactly these in the text of the value (`spells_chars`), as long as what follows
cannot go on with a number.

A string is scanned as pieces, and they have its characters (`pieceText_pieces`); a number is
scanned as a literal, and it has its value (`JsonNumber.ofLiteral?_literal`).
-/
namespace Charting.Json

open Number Text

/-! ## Strings -/

/-- The piece of a string with which a character is written: controls without a short escape are
written as code units. -/
def Piece.ofChar (c : Char) : Piece :=
  if c.toNat < 0x20 ∧ c ∉ ['\x08', '\x0c', '\n', '\r', '\t'] then .unit c.toNat else .char c

/-- The pieces with which a text is written. -/
def pieces (s : String) : List Piece := s.toList.map Piece.ofChar

namespace Token

theorem hexNumber?_control {n : Nat} (h : n < 0x20) :
    hexNumber? (['0', '0'] ++ hexPair n) = some n := by
  revert h
  revert n
  decide

/-- A short escape names its character. -/
theorem scanString_escape {e c : Char} (he : e ≠ 'u') (h : escape? e = some c) (rest : List Char) :
    scanString ('\\' :: e :: rest) =
      (scanString rest).map fun (ps, rest) => (.char c :: ps, rest) := by
  rw [scanString.eq_4 _ _ (by rintro _ _ _ _ _ rfl; exact absurd rfl he), h]
  cases scanString rest <;> rfl

theorem scanString_control {c : Char} (h : c.toNat < 0x20) (rest : List Char) :
    scanString (['\\', 'u', '0', '0'] ++ hexPair c.toNat ++ rest) =
      (scanString rest).map fun (ps, rest) => (.unit c.toNat :: ps, rest) := by
  have hhex := hexNumber?_control h
  simp only [hexPair, List.cons_append, List.nil_append] at hhex ⊢
  rw [scanString, hhex]
  cases scanString rest <;> rfl

theorem scanString_plain {c : Char} (hquote : c ≠ '"') (hescape : c ≠ '\\')
    (hcontrol : ¬c.toNat < 0x20) (rest : List Char) :
    scanString (c :: rest) = (scanString rest).map fun (ps, rest) => (.char c :: ps, rest) := by
  rw [scanString.eq_5 _ _ hquote (by rintro _ _ _ _ _ rfl; exact absurd rfl hescape)
    (by rintro _ _ rfl; exact absurd rfl hescape), if_neg (by simp [hescape, hcontrol])]
  cases scanString rest <;> rfl

/-- A written character is scanned as its piece. -/
theorem scanString_escapedChar (c : Char) (rest : List Char) :
    scanString (escapedChar c ++ rest) =
      (scanString rest).map fun (ps, rest) => (Piece.ofChar c :: ps, rest) := by
  by_cases hshort : c ∈ ['"', '\\', '\x08', '\x0c', '\n', '\r', '\t']
  · simp only [List.mem_cons, List.not_mem_nil, or_false] at hshort
    rcases hshort with rfl | rfl | rfl | rfl | rfl | rfl | rfl <;>
      exact scanString_escape (by decide) rfl rest
  · simp only [List.mem_cons, List.not_mem_nil, or_false, not_or] at hshort
    obtain ⟨h₁, h₂, h₃, h₄, h₅, h₆, h₇⟩ := hshort
    by_cases hcontrol : c.toNat < 0x20
    · have hescaped : escapedChar c = ['\\', 'u', '0', '0'] ++ hexPair c.toNat := by
        simp only [escapedChar, h₁, h₂, h₃, h₄, h₅, h₆, h₇, hcontrol, if_true, if_false]
      have hpiece : Piece.ofChar c = .unit c.toNat := by
        simp [Piece.ofChar, hcontrol, h₃, h₄, h₅, h₆, h₇]
      rw [hescaped, hpiece]
      exact scanString_control hcontrol rest
    · have hescaped : escapedChar c = [c] := by
        simp only [escapedChar, h₁, h₂, h₃, h₄, h₅, h₆, h₇, hcontrol, if_false]
      have hpiece : Piece.ofChar c = .char c := by
        simp [Piece.ofChar, hcontrol]
      rw [hescaped, hpiece]
      exact scanString_plain h₁ h₂ hcontrol rest

theorem scanString_flatMap (cs rest : List Char) :
    scanString (cs.flatMap escapedChar ++ '"' :: rest) = some (cs.map Piece.ofChar, rest) := by
  induction cs with
  | nil => rfl
  | cons c cs ih =>
    rw [List.flatMap_cons, List.append_assoc, scanString_escapedChar, ih]
    rfl

end Token

theorem Node.pieceChars_unit {code : Nat} (h : code < 0xD800) (rest : List Piece) :
    pieceChars (.unit code :: rest) = (pieceChars rest).map (Char.ofNat code :: ·) := by
  have hhigh : isHighSurrogate code = false := by
    simp only [isHighSurrogate, decide_eq_false_iff_not]
    omega
  have hlow : isLowSurrogate code = false := by
    simp only [isLowSurrogate, decide_eq_false_iff_not]
    omega
  -- The reader of a code unit looks for the other half of a pair behind it.
  cases rest with
  | nil => simp [pieceChars, hhigh, hlow]
  | cons p rest => cases p <;> simp [pieceChars, hhigh, hlow]

/-- **A written string has the characters of the text.** -/
theorem pieceText_pieces (s : String) : Node.pieceText (pieces s) = some s := by
  have hchars : ∀ cs : List Char, Node.pieceChars (cs.map Piece.ofChar) = some cs := by
    intro cs
    induction cs with
    | nil => rfl
    | cons c cs ih =>
      by_cases h : c.toNat < 0x20 ∧ c ∉ ['\x08', '\x0c', '\n', '\r', '\t']
      · have hpiece : Piece.ofChar c = .unit c.toNat := if_pos h
        rw [List.map_cons, hpiece, Node.pieceChars_unit (by omega), ih, Option.map_some,
          Char.ofNat_toNat]
      · have hpiece : Piece.ofChar c = .char c := if_neg h
        rw [List.map_cons, hpiece, Node.pieceChars, ih, Option.map_some]
  rw [Node.pieceText, pieces, hchars, Option.map_some, String.ofList_toList]

/-! ## Scanning -/

mutual

/-- The tokens with which a value is written. -/
def tokens : Json → List Token
  | null => [.null]
  | bool b => [.bool b]
  | number n => [.number n.literal]
  | string s => [.string (pieces s)]
  | array [] => [.leftBracket, .rightBracket]
  | array (j :: rest) => .leftBracket :: (tokens j ++ itemTokens rest ++ [.rightBracket])
  | object [] => [.leftBrace, .rightBrace]
  | object ((key, j) :: rest) =>
    .leftBrace :: .string (pieces key) :: .colon :: (tokens j ++ memberTokens rest ++ [.rightBrace])

/-- The tokens of the items behind the first one. -/
def itemTokens : List Json → List Token
  | [] => []
  | j :: rest => .comma :: (tokens j ++ itemTokens rest)

/-- The tokens of the members behind the first one. -/
def memberTokens : List (String × Json) → List Token
  | [] => []
  | (key, j) :: rest =>
    .comma :: .string (pieces key) :: .colon :: (tokens j ++ memberTokens rest)

end

namespace Token

/-- A text consists of some tokens. -/
def Spells (cs : List Char) (ts : List Token) : Prop :=
  ∀ fuel, cs.length ≤ fuel → scan fuel cs = some ts

theorem spells_nil : Spells [] [] := fun _ _ => by rw [scan]; rfl

section Spells

variable {cs rest : List Char} {ts : List Token}

/-- Blanks before a token do not count. -/
theorem Spells.blanks {blanks : List Char} (hblanks : ∀ c ∈ blanks, isBlank c = true)
    (h : Spells rest ts) : Spells (blanks ++ rest) ts := by
  intro fuel hfuel
  rw [List.length_append] at hfuel
  have hrest := h fuel (by omega)
  unfold scan at hrest ⊢
  dsimp only at hrest ⊢
  rwa [List.dropWhile_append_of_pos hblanks]

/-- A token is taken off the front. -/
theorem Spells.token {c : Char} {t : Token} (hblank : isBlank c = false)
    (hscan : scanOne (c :: cs) = some (t, rest)) (hlength : rest.length ≤ cs.length)
    (h : Spells rest ts) : Spells (c :: cs) (t :: ts) := by
  intro fuel hfuel
  cases fuel with
  | zero => cases hfuel
  | succ fuel =>
    rw [List.length_cons] at hfuel
    unfold scan
    dsimp only
    rw [List.dropWhile_cons_of_neg (by simp [hblank])]
    simp only [hscan, h fuel (by omega), Option.bind_eq_bind, Option.bind_some]
    rfl

/-- A token of a single character. -/
theorem Spells.mark {c : Char} {t : Token} (hblank : isBlank c = false)
    (hscan : scanOne (c :: rest) = some (t, rest)) (h : Spells rest ts) :
    Spells (c :: rest) (t :: ts) :=
  h.token hblank hscan (Nat.le_refl _)

theorem Spells.string (h : Spells rest ts) (s : String) :
    Spells (stringChars s ++ rest) (.string (pieces s) :: ts) := by
  have hscan := scanString_flatMap s.toList rest
  simp only [stringChars, List.cons_append, List.append_assoc, List.nil_append]
  refine h.token rfl (by rw [scanOne, hscan]; rfl) ?_
  simp only [List.length_append, List.length_cons]
  omega

/-- The text of a number begins with a digit or a minus. -/
theorem exists_chars_eq_cons (n : JsonNumber) :
    ∃ c cs, n.chars = c :: cs ∧ (c = '-' ∨ c.isDigit = true) := by
  have hscan : scanNumber (n.chars ++ []) = some (n.literal, []) := n.scanNumber_chars nofun
  rw [List.append_nil] at hscan
  cases hchars : n.chars with
  | nil => rw [hchars] at hscan; cases hscan
  | cons c cs =>
    refine ⟨c, cs, rfl, Decidable.byContradiction fun hc => ?_⟩
    rw [not_or] at hc
    have hwhole : scanWhole (c :: cs) = none := by
      rw [scanWhole.eq_3 _ _ (by rintro rfl; exact hc.2 rfl), if_neg hc.2]
    simp [hchars, scanNumber, hc.1, hwhole] at hscan

theorem scanOne_number {c : Char} (hc : c = '-' ∨ c.isDigit = true) (cs : List Char) :
    scanOne (c :: cs) =
      (scanNumber (c :: cs)).map fun (literal, rest) => (number literal, rest) := by
  have hne : ∀ mark : Char, mark ≠ '-' → mark.isDigit = false → c ≠ mark := by
    rintro mark hminus hdigit rfl
    rcases hc with rfl | hc
    · exact hminus rfl
    · rw [hdigit] at hc; cases hc
  rw [scanOne.eq_def]
  split
  all_goals first
    | rfl
    | exact absurd (List.cons.inj ‹_›).1 (hne _ (by decide) (by decide))

theorem Spells.number (h : Spells rest ts) (hrest : EndsNumber rest) (n : JsonNumber) :
    Spells (n.chars ++ rest) (.number n.literal :: ts) := by
  obtain ⟨c, cs, hchars, hc⟩ := exists_chars_eq_cons n
  have hscan := n.scanNumber_chars hrest
  rw [hchars, List.cons_append] at hscan ⊢
  have hblank : isBlank c = false := by
    rcases hc with rfl | hc
    · rfl
    · simp only [isBlank, Bool.or_eq_false_iff, beq_eq_false_iff_ne]
      refine ⟨⟨⟨?_, ?_⟩, ?_⟩, ?_⟩ <;> rintro rfl <;> cases hc
  refine h.token hblank (by rw [scanOne_number hc, hscan]; rfl) ?_
  simp only [List.length_append]
  omega

end Spells

/-! ## The tokens of a value -/

theorem endsNumber_cons {c : Char}
    (hc : c.isDigit = false ∧ c ≠ '.' ∧ c ≠ 'e' ∧ c ≠ 'E') (rest : List Char) :
    EndsNumber (c :: rest) := by
  intro c' hc'
  obtain rfl : c = c' := by simpa using hc'
  exact hc

theorem endsNumber_of_blanks {blanks rest : List Char} (hblanks : ∀ c ∈ blanks, isBlank c = true)
    (hrest : EndsNumber rest) : EndsNumber (blanks ++ rest) := by
  cases blanks with
  | nil => exact hrest
  | cons c blanks =>
    have hblank := hblanks c List.mem_cons_self
    simp only [isBlank, Bool.or_eq_true, beq_iff_eq] at hblank
    rcases hblank with ((rfl | rfl) | rfl) | rfl <;> exact endsNumber_cons (by decide) _

end Token

/-- A layout only puts blanks between tokens. -/
structure Layout.IsBlank (layout : Layout) : Prop where
  gap : ∀ depth, ∀ c ∈ layout.gap depth, Token.isBlank c = true
  colon : ∃ blanks, layout.colon = ':' :: blanks ∧ ∀ c ∈ blanks, Token.isBlank c = true

theorem Layout.isBlank_pretty : Layout.pretty.IsBlank where
  gap depth c hc := by
    simp only [Layout.pretty, List.mem_cons, List.mem_replicate] at hc
    rcases hc with rfl | ⟨-, rfl⟩ <;> rfl
  colon := ⟨[' '], rfl, by simp [Token.isBlank]⟩

theorem Layout.isBlank_compact : Layout.compact.IsBlank where
  gap _ := List.forall_mem_nil _
  colon := ⟨[], rfl, List.forall_mem_nil _⟩

section Layout

open Token

variable {layout : Layout}

theorem endsNumber_itemChars (items : List Json) (depth : Nat) {rest : List Char}
    (hrest : EndsNumber rest) : EndsNumber (itemChars layout depth items ++ rest) := by
  cases items with
  | nil => exact hrest
  | cons j items => exact endsNumber_cons (by decide) _

theorem endsNumber_memberChars (members : List (String × Json)) (depth : Nat) {rest : List Char}
    (hrest : EndsNumber rest) : EndsNumber (memberChars layout depth members ++ rest) := by
  cases members with
  | nil => exact hrest
  | cons m members => exact endsNumber_cons (by decide) _

theorem Layout.IsBlank.spells_colon (h : layout.IsBlank) {rest : List Char} {ts : List Token}
    (hrest : Spells rest ts) : Spells (layout.colon ++ rest) (.colon :: ts) := by
  obtain ⟨blanks, hcolon, hblanks⟩ := h.colon
  rw [hcolon]
  exact (hrest.blanks hblanks).mark rfl rfl

mutual

/-- **The text of a value is scanned as the tokens of the value.** -/
theorem spells_chars (hl : layout.IsBlank) (depth : Nat) :
    ∀ (j : Json) {rest : List Char} {ts : List Token}, EndsNumber rest → Spells rest ts →
      Spells (chars layout depth j ++ rest) (tokens j ++ ts)
  | null, _, _, _, h => h.token rfl rfl (by simp; omega)
  | bool true, _, _, _, h => h.token rfl rfl (by simp; omega)
  | bool false, _, _, _, h => h.token rfl rfl (by simp; omega)
  | number n, _, _, hrest, h => by
    rw [chars, tokens]
    exact h.number hrest n
  | string s, _, _, _, h => by
    rw [chars, tokens]
    exact h.string s
  | array [], _, _, _, h => by
    rw [chars, tokens]
    exact (h.mark rfl rfl).mark rfl rfl
  | array (j :: items), rest, _, _, h => by
    have hclose := (h.mark (c := ']') rfl rfl).blanks (hl.gap depth)
    have hends := endsNumber_of_blanks (hl.gap depth) (endsNumber_cons (c := ']') (by decide) rest)
    have hitems := spells_itemChars hl (depth + 1) items hends hclose
    have hj := spells_chars hl (depth + 1) j (endsNumber_itemChars items _ hends) hitems
    simpa [chars, tokens] using (hj.blanks (hl.gap (depth + 1))).mark (c := '[') rfl rfl
  | object [], _, _, _, h => by
    rw [chars, tokens]
    exact (h.mark rfl rfl).mark rfl rfl
  | object ((key, j) :: members), rest, _, _, h => by
    have hclose := (h.mark (c := '}') rfl rfl).blanks (hl.gap depth)
    have hends := endsNumber_of_blanks (hl.gap depth) (endsNumber_cons (c := '}') (by decide) rest)
    have hmembers := spells_memberChars hl (depth + 1) members hends hclose
    have hj := spells_chars hl (depth + 1) j (endsNumber_memberChars members _ hends) hmembers
    have hkey := (hl.spells_colon hj).string key
    simpa [chars, tokens] using (hkey.blanks (hl.gap (depth + 1))).mark (c := '{') rfl rfl

theorem spells_itemChars (hl : layout.IsBlank) (depth : Nat) :
    ∀ (items : List Json) {rest : List Char} {ts : List Token}, EndsNumber rest → Spells rest ts →
      Spells (itemChars layout depth items ++ rest) (itemTokens items ++ ts)
  | [], _, _, _, h => h
  | j :: items, _, _, hrest, h => by
    have hitems := spells_itemChars hl depth items hrest h
    have hj := spells_chars hl depth j (endsNumber_itemChars items _ hrest) hitems
    simpa [itemChars, itemTokens] using (hj.blanks (hl.gap depth)).mark (c := ',') rfl rfl

theorem spells_memberChars (hl : layout.IsBlank) (depth : Nat) :
    ∀ (members : List (String × Json)) {rest : List Char} {ts : List Token}, EndsNumber rest →
      Spells rest ts →
        Spells (memberChars layout depth members ++ rest) (memberTokens members ++ ts)
  | [], _, _, _, h => h
  | (key, j) :: members, _, _, hrest, h => by
    have hmembers := spells_memberChars hl depth members hrest h
    have hj := spells_chars hl depth j (endsNumber_memberChars members _ hrest) hmembers
    have hkey := (hl.spells_colon hj).string key
    simpa [memberChars, memberTokens] using (hkey.blanks (hl.gap depth)).mark (c := ',') rfl rfl

end

/-- The tokens of a text do not depend on its layout. -/
theorem ofChars_chars (hl : layout.IsBlank) (j : Json) :
    Token.ofChars (chars layout 0 j) = some (tokens j) := by
  have h : Spells (chars layout 0 j ++ []) (tokens j ++ []) := spells_chars hl 0 j nofun spells_nil
  rw [List.append_nil, List.append_nil] at h
  exact h _ (Nat.le_refl _)

end Layout

end Charting.Json
