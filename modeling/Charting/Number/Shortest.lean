import Charting.Number.Binary64

/-! # The shortest decimal that reads back

Among the decimals that read back as a given number, written text uses one with
the fewest digits, and of those the nearest to the number.  For a count of digits
only two candidates matter: the two neighbours of the number on the grid of
decimals with that many significant digits.  `shortest` tries 1, 2, … 17 digits
and takes the first grid with a hit.

Every result reads back, by construction (`toUnits_shortest`): a candidate is
taken only when it does, and past 17 digits the exact expansion stands in.
-/
namespace Charting.Number

-- Powers of naturals are the built-in ones, also beside other instances of powers.
attribute [local instance (1100)] instPowNat

/-- The number `digits * 10 ^ exponent`. -/
structure Decimal where
  digits : Nat
  exponent : Int
  deriving DecidableEq, Repr

namespace Decimal

/-- The units of the binary64 number that the decimal reads as. -/
def toUnits (d : Decimal) : Nat :=
  roundUnits (decimalRatio d.digits d.exponent).1 (decimalRatio d.digits d.exponent).2

/-- All digits of a count of units: one unit is `5 ^ 1074 / 10 ^ 1074`. -/
def exact (units : Nat) : Decimal := ⟨units * 5 ^ unitExponent, -unitExponent⟩

end Decimal

/-- Which candidate is taken when two are equally near. -/
inductive Tie where
  | up
  | even
  deriving DecidableEq

/-- The number of decimal digits; zero has none. -/
def decimalLength (n : Nat) : Nat := if n = 0 then 0 else (Nat.toDigits 10 n).length

/-- The `e` with `10 ^ e ≤ value < 10 ^ (e + 1)`, for a positive number of units. -/
def leadingExponent (units : Nat) : Int :=
  if oneUnits ≤ units then (decimalLength (units / oneUnits) : Int) - 1
  else -(decimalLength ((oneUnits - 1) / units) : Int)

/-- The value of some units times `10 ^ shift`, as an exact quotient. -/
def scaledRatio (units : Nat) : (shift : Int) → Nat × Nat
  | .ofNat places => (units * 10 ^ places, oneUnits)
  | .negSucc places => (units, oneUnits * 10 ^ (places + 1))

/-- The neighbour of a number with `count` significant digits that reads back, the
nearer one if both do. -/
def onGrid (tie : Tie) (units : Nat) (leading : Int) (count : Nat) : Option Decimal :=
  let shift := (count : Int) - 1 - leading
  let num := (scaledRatio units shift).1
  let den := (scaledRatio units shift).2
  let low := num / den
  let below : Decimal := ⟨low, -shift⟩
  let above : Decimal := if low + 1 = 10 ^ count then ⟨1, count - shift⟩ else ⟨low + 1, -shift⟩
  let nearer : Decimal :=
    if 2 * (num % den) < den then below
    else if den < 2 * (num % den) then above
    else if tie = .even ∧ low % 2 = 0 then below else above
  [nearer, below, above].find? (fun d => d.toUnits == units)

/-- The shortest decimal that reads back as a positive number of units. -/
def shortest (tie : Tie) (units : Nat) : Decimal :=
  let leading := leadingExponent units
  ((List.range' 1 17).findSome? (onGrid tie units leading)).getD (Decimal.exact units)

/-- A candidate is taken only if it reads back. -/
theorem toUnits_of_onGrid {tie : Tie} {units : Nat} {leading : Int} {count : Nat} {d : Decimal}
    (h : onGrid tie units leading count = some d) : d.toUnits = units := by
  simpa using List.find?_some h

/-- The expansion with all digits reads back. -/
theorem Decimal.toUnits_exact {units : Nat} (h : IsRepresentable units) :
    (Decimal.exact units).toUnits = units := by
  have hten : (10 : Nat) ^ unitExponent = 5 ^ unitExponent * oneUnits := by
    rw [oneUnits, ← Nat.mul_pow]
  simp only [Decimal.toUnits, Decimal.exact]
  rw [decimalRatio_neg _ (show 0 < unitExponent by decide)]
  rw [hten, Nat.mul_assoc]
  exact roundUnits_mul h (Nat.mul_pos (Nat.pow_pos (by decide)) (Nat.two_pow_pos _))

/-- **The shortest decimal of a binary64 number reads back as that number.** -/
theorem toUnits_shortest (tie : Tie) {units : Nat} (h : IsRepresentable units) :
    (shortest tie units).toUnits = units := by
  unfold shortest
  dsimp only
  cases hfound : (List.range' 1 17).findSome? (onGrid tie units (leadingExponent units)) with
  | none => exact Decimal.toUnits_exact h
  | some d =>
    obtain ⟨count, -, hcount⟩ := List.exists_of_findSome?_eq_some hfound
    exact toUnits_of_onGrid hcount

end Charting.Number
