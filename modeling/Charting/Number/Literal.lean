import Charting.Number.Shortest

/-! # Reading number literals

A *literal* is an optional sign followed by decimal digits, with at most one point
among, before or behind them, and an optional exponent; or one of the names `inf`,
`infinity` and `nan` in any letter case.  It stands for the binary64 number nearest to
the decimal it spells: too large a decimal reads as infinity, too small a one as zero.

The scanners for digits and exponents are shared with the stricter number syntax of
JSON.
-/
namespace Charting.Number

/-- A leading sign, `true` for minus, and the text behind it. -/
def readSign : List Char → Bool × List Char
  | '-' :: rest => (true, rest)
  | '+' :: rest => (false, rest)
  | rest => (false, rest)

/-- The exponent at the front of a text, `0` if there is none, and the text behind it.
An exponent mark without a digit is an error. -/
def scanExponent : List Char → Option (Int × List Char)
  | [] => some (0, [])
  | c :: rest =>
    if c = 'e' ∨ c = 'E' then
      let (negative, body) := readSign rest
      let digits := body.takeWhile Char.isDigit
      if digits.isEmpty then none
      else
        some (Binary64.signed negative (Nat.ofDigitChars 10 digits 0), body.dropWhile Char.isDigit)
    else some (0, c :: rest)

namespace Decimal

/-- The decimal spelled by the digits before and behind a point and an exponent. -/
def ofParts (whole fraction : List Char) (exponent : Int) : Decimal :=
  ⟨Nat.ofDigitChars 10 (whole ++ fraction) 0, exponent - fraction.length⟩

/-- The binary64 number nearest to a decimal.  A decimal of at least `10 ^ 310` is
beyond the format and one below `10 ^ (-330)` is nearest to zero, whatever their digits. -/
def toBinary64 (negative : Bool) (d : Decimal) : Binary64 :=
  let top := decimalLength d.digits + d.exponent
  if d.digits = 0 ∨ top < -330 then .zero negative
  else if 310 < top then .infinite negative
  else .ofDecimal negative d.digits d.exponent

/-- Reads unsigned digits with an optional point and exponent; all of the text is used. -/
def read (cs : List Char) : Option Decimal :=
  let whole := cs.takeWhile Char.isDigit
  let (fraction, rest) :=
    match cs.dropWhile Char.isDigit with
    | '.' :: behind => (behind.takeWhile Char.isDigit, behind.dropWhile Char.isDigit)
    | rest => ([], rest)
  if whole.isEmpty && fraction.isEmpty then none
  else
    match scanExponent rest with
    | some (exponent, []) => some (ofParts whole fraction exponent)
    | _ => none

end Decimal

namespace Binary64

/-- The values that are written by name. -/
def readName (negative : Bool) (cs : List Char) : Option Binary64 :=
  let name := String.ofList (cs.map Char.toLower)
  if name = "inf" ∨ name = "infinity" then some (infinite negative)
  else if name = "nan" then some nan
  else none

/-- The number that a whole text spells. -/
def read (cs : List Char) : Option Binary64 :=
  let (negative, body) := readSign cs
  match Decimal.read body with
  | some d => some (d.toBinary64 negative)
  | none => readName negative body

example : read ['-', '.', '5'] = some (-0.5) := by decide +kernel
example : read ['+', '1', '2', '.', 'e', '-', '1'] = some 1.2 := by decide +kernel
example : read ['1', 'e', '9', '9', '9'] = some (infinite false) := by decide +kernel
example : read ['.'] = none ∧ read ['1', 'e'] = none ∧ read [] = none := by decide +kernel

end Binary64
end Charting.Number
