import Charting.Number.Text
import Charting.Number.Literal

/-! # Numbers in JSON values

A number written without point and exponent is an integer as long as it fits 64 bits,
signed or unsigned; every other number is a finite binary64 number.  The two kinds stay
apart: the integer `1` and the number `1.0` are written differently and differ.
-/
namespace Charting

open Number

/-- Fits a signed or an unsigned 64-bit integer. -/
def FitsWord (i : Int) : Prop := -9223372036854775808 ≤ i ∧ i < 18446744073709551616

instance (i : Int) : Decidable (FitsWord i) := inferInstanceAs (Decidable (_ ∧ _))

/-- A number of a JSON value. -/
inductive JsonNumber where
  | integer (value : Int) (fits : FitsWord value)
  | real (value : Binary64) (finite : value.isFinite = true)
  deriving DecidableEq

namespace JsonNumber

/-- Integers are compared with integers, reals with reals. -/
instance : BEq JsonNumber where
  beq
    | integer a _, integer b _ => a == b
    | real a _, real b _ => a == b
    | _, _ => false

/-- The binary64 number nearest to the number. -/
def toBinary64 : JsonNumber → Binary64
  | integer value _ => .ofUnits false (value * oneUnits)
  | real value _ => value

/-- The number itself if it is a whole number that is not negative and below a bound. -/
def toNat? (bound : Nat) : JsonNumber → Option Nat
  | integer value _ => if 0 ≤ value ∧ value < bound then some value.toNat else none
  | real _ _ => none

/-- The digits of an integer behind its sign. -/
def integerChars (value : Int) : List Char :=
  (if value < 0 then ['-'] else []) ++ Nat.toDigits 10 value.natAbs

/-- The characters of a number. -/
def chars : JsonNumber → List Char
  | integer value _ => integerChars value
  | real value _ => value.chars .json

/-- A number as it stands in a JSON text: its sign, its decimal, and whether it is written
without point and exponent. -/
structure Literal where
  negative : Bool
  decimal : Decimal
  whole : Bool
  deriving DecidableEq

/-- The signed whole number of a literal without point and exponent; minus zero has none. -/
def Literal.integer? (l : Literal) : Option Int :=
  if l.whole && !(l.negative && l.decimal.digits == 0) then
    some (Binary64.signed l.negative l.decimal.digits)
  else none

/-- The value of a literal; one that is too large for the format has none. -/
def ofLiteral? (l : Literal) : Option JsonNumber :=
  let real? : Option JsonNumber :=
    let x := l.decimal.toBinary64 l.negative
    if h : x.isFinite = true then some (real x h) else none
  match l.integer? with
  | some i => if h : FitsWord i then some (integer i h) else real?
  | none => real?

end JsonNumber
end Charting
