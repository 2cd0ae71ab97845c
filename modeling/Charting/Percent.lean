import Charting.Number.Text

/-! # Percent labels

The share of a value in a total is written with one decimal, `25.0%`.  The share is
computed in binary64, held as a decimal and rounded to one place, a half away from
zero.  A total that is zero or not finite, and a value that is not finite, give `0.0%`.

What a label asks of decimals is a `DecimalArithmetic`; `DecimalArithmetic.standard`, with
28 digits, is the one in use.  That a share is rounded twice, to a decimal and to one place,
shows only in the sign of zero: a negative share that rounds to `0.0%` has a minus if the
decimal is a zero already.

Slices of both signs may nearly cancel; shares of such a small total stop at
`largestShare` in either direction.
-/
namespace Charting.Percent

open Number

-- Powers of naturals are the built-in ones, also beside other instances of powers.
attribute [local instance (1100)] instPowNat

/-- The largest magnitude of a share, in percent. -/
def largestShare : Binary64 := 1e15

/-- The share of a value in a total, in percent. -/
def share (value total : Binary64) : Binary64 :=
  (value / total * 100).clamp (-largestShare) largestShare

/-! ## Decimals -/

/-- A decimal with so many of its digits behind the point.  A zero may have a sign, too. -/
structure FixedDecimal where
  negative : Bool
  digits : Nat
  places : Nat
  deriving DecidableEq

/-- The characters of a decimal, with a digit for each place. -/
def FixedDecimal.chars (d : FixedDecimal) : List Char :=
  (if d.negative then ['-'] else []) ++ (⟨d.digits, -d.places⟩ : Decimal).text .plain

/-- What labels need of decimals. -/
structure DecimalArithmetic where
  /-- The decimal that stands for a number, if there is one. -/
  ofBinary64 : Binary64 → Option FixedDecimal
  /-- A decimal rounded to a number of places. -/
  roundTo : Nat → FixedDecimal → FixedDecimal

/-- Whether nothing is left of a magnitude in 28 decimal places.  The places behind the 29th
are rounded away one at a time, half up, beginning with the last, and the magnitude is kept
only if this carries into the 28th: `0.9445` of a unit there becomes `0.945`, then `0.95`,
then one unit, but `0.9444` ends as `0.9`, which is nothing.  So a magnitude vanishes exactly
below `0.9444…`, that is 17/18, of such a unit. -/
def vanishes (units : Nat) : Bool := decide (18 * units * 10 ^ (28 : Nat) < 17 * oneUnits)

/-- The places that are left of 28 digits behind those before the point. -/
def heldPlaces (units : Nat) : Nat := 28 - decimalLength (units / oneUnits)

/-- The digits of a magnitude in these places. -/
def heldDigits (units : Nat) : Nat :=
  if vanishes units then 0 else roundHalfUp (units * 10 ^ heldPlaces units) oneUnits

namespace DecimalArithmetic

/-- Decimals of 28 digits and at most 28 places.  A zero keeps its sign when it is rounded,
and what is rounded to zero loses it. -/
def standard : DecimalArithmetic where
  ofBinary64
    | .finite negative units _ =>
      if units < 2 ^ (96 : Nat) * oneUnits then
        some ⟨negative, heldDigits units, heldPlaces units⟩
      else none
    | _ => none
  roundTo places d :=
    let digits := roundHalfUp (d.digits * 10 ^ places) (10 ^ d.places)
    ⟨d.negative && (d.digits == 0 || digits != 0), digits, places⟩

/-- The percent label of a value in a total; a share that no decimal stands for counts as
zero. -/
def label (arithmetic : DecimalArithmetic) (value total : Binary64) : String :=
  if total == 0 || !total.isFinite || !value.isFinite then "0.0%"
  else
    match arithmetic.ofBinary64 (share value total) with
    | none => "0.0%"
    | some held => String.ofList ((arithmetic.roundTo 1 held).chars ++ ['%'])

end DecimalArithmetic

/-- The percent label of a value in a total, by the decimals in use. -/
def label (value total : Binary64) : String := DecimalArithmetic.standard.label value total

/-- The sum of the finite values. -/
def finiteTotal (values : List Binary64) : Binary64 :=
  (values.filter Binary64.isFinite).foldl (· + ·) 0

/-- The percent label of every value in the finite total. -/
def labels (values : List Binary64) : List String :=
  let total := finiteTotal values
  values.map fun value => label value total

example : label 1 3 = "33.3%" ∧ label 2 3 = "66.7%" ∧ label 1 8 = "12.5%" := by decide +kernel
example : label (-1) 1e-300 = "-1000000000000000.0%" := by decide +kernel
example : label (-1e-5) 1 = "0.0%" ∧ label (-0) 1 = "-0.0%" := by decide +kernel
example : label (-9.4444444445e-31) 1 = "0.0%" ∧ label (-9.4444444444e-31) 1 = "-0.0%" := by
  decide +kernel

end Charting.Percent
