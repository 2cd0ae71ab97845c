import Charting.Number.Shortest

/-! # Written numbers

Numbers are written in two styles, both from the shortest decimal that reads back.
The *plain* style serves CSS lengths, colour alphas and messages: it never uses an
exponent, whole numbers have no point, and an infinity and a NaN have names.  The
*JSON* style keeps a point in every number, so that a reader sees a fractional type,
and turns to an exponent for very small and very large numbers.
-/
namespace Charting.Number

/-- The decisions of a way to write numbers. -/
structure Style where
  /-- The candidate taken of two equally near ones. -/
  tie : Tie
  /-- Whether a leading digit of this decimal exponent is written without an exponent. -/
  positional : Int → Bool
  /-- What follows a whole number that is written without an exponent. -/
  wholeMark : List Char

namespace Style

/-- No exponent, no mark on whole numbers. -/
def plain : Style where
  tie := .up
  positional _ := true
  wholeMark := []

/-- No exponent from `0.00001` up to, but not including, `10 ^ 16`. -/
def json : Style where
  tie := .even
  positional exponent := decide (-5 ≤ exponent ∧ exponent ≤ 15)
  wholeMark := ['.', '0']

end Style

namespace Decimal

/-- The digits before the point and those behind it, with at least one before. -/
def pointSplit (d : Decimal) : List Char × List Char :=
  match d.exponent with
  | .ofNat zeros => (Nat.toDigits 10 d.digits ++ List.replicate zeros '0', [])
  | .negSucc n =>
    let padded := (Nat.toDigits 10 d.digits).leftpad (n + 2) '0'
    padded.splitAt (padded.length - (n + 1))

/-- Digits around a point; a whole number is followed by the mark instead. -/
def positionalText (wholeMark : List Char) (d : Decimal) : List Char :=
  let (whole, fraction) := d.pointSplit
  whole ++ if fraction.isEmpty then wholeMark else '.' :: fraction

/-- The exponent of ten of the leading digit. -/
def leading (d : Decimal) : Int := (Nat.toDigits 10 d.digits).length - 1 + d.exponent

/-- One digit, the rest behind a point, and a signed exponent. -/
def scientificText (d : Decimal) : List Char :=
  let digits := Nat.toDigits 10 d.digits
  let rest := digits.drop 1
  digits.take 1 ++ (if rest.isEmpty then [] else '.' :: rest) ++
    'e' :: (if d.leading < 0 then '-' else '+') :: Nat.toDigits 10 d.leading.natAbs

/-- The text of a decimal in a style. -/
def text (style : Style) (d : Decimal) : List Char :=
  if style.positional d.leading then d.positionalText style.wholeMark else d.scientificText

end Decimal

namespace Binary64

/-- The text of a magnitude; zero is the decimal `0`. -/
def magnitudeText (style : Style) (units : Nat) : List Char :=
  (if units = 0 then ⟨0, 0⟩ else shortest style.tie units : Decimal).text style

/-- The characters of a number in a style. -/
def chars (style : Style) : Binary64 → List Char
  | nan => ['N', 'a', 'N']
  | infinite negative => (if negative then ['-'] else []) ++ ['i', 'n', 'f']
  | finite negative units _ => (if negative then ['-'] else []) ++ magnitudeText style units

/-- The text in the plain style: `5`, `-0.5`, `0.000000001`, `NaN`, `-inf`. -/
def plain (x : Binary64) : String := String.ofList (x.chars .plain)

instance : ToString Binary64 := ⟨plain⟩

instance : Repr Binary64 := ⟨fun x _ => x.plain⟩

example : (1e21 : Binary64).plain = "1000000000000000000000" := by decide +kernel
example : (-1e-9 : Binary64).plain = "-0.000000001" := by decide +kernel
example : (-0 : Binary64).plain = "-0" := by decide +kernel
example : String.ofList ((1e16 : Binary64).chars .json) = "1e+16" := by decide +kernel
example : String.ofList ((1.234e-6 : Binary64).chars .json) = "1.234e-6" := by decide +kernel
example : String.ofList ((1e15 : Binary64).chars .json) = "1000000000000000.0" := by decide +kernel

end Binary64
end Charting.Number
