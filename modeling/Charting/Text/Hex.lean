/-! # Hexadecimal digits

Sixteen digit characters, letters of either case on reading and lower case on writing.
-/
namespace Charting.Text

/-- The value of a hexadecimal digit. -/
def hexValue? (c : Char) : Option Nat :=
  if '0' ≤ c ∧ c ≤ '9' then some (c.toNat - '0'.toNat)
  else if 'a' ≤ c ∧ c ≤ 'f' then some (c.toNat - 'a'.toNat + 10)
  else if 'A' ≤ c ∧ c ≤ 'F' then some (c.toNat - 'A'.toNat + 10)
  else none

/-- The number that a run of hexadecimal digits spells, the first digit highest. -/
def hexNumber? (cs : List Char) : Option Nat :=
  cs.foldlM (fun n c => (hexValue? c).map (16 * n + ·)) 0

/-- The last two hexadecimal digits of a number. -/
def hexPair (n : Nat) : List Char := [Nat.digitChar (n / 16 % 16), Nat.digitChar (n % 16)]

/-- A digit that was written reads back. -/
theorem hexValue?_digitChar {n : Nat} (h : n < 16) : hexValue? (Nat.digitChar n) = some n := by
  revert h
  revert n
  decide

example : hexNumber? ['f', 'F', '0'] = some 0xFF0 ∧ hexNumber? ['g'] = none := by decide
example : hexPair 10 = ['0', 'a'] := by decide

end Charting.Text
