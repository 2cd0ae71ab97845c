import Charting.Number.Text
import Charting.Number.Literal
import Charting.Text.Blank

/-! # Dimensions

A length is given in pixels or as a percentage of its container.  Its CSS form carries
the unit, `320px` or `50%`; a text without a unit means pixels.  A length read from text
is finite and not negative.
-/
namespace Charting

open Number Text

/-- A length. -/
inductive Dimension where
  | px (length : Binary64)
  | percent (share : Binary64)
  deriving DecidableEq

namespace Dimension

/-- Why a text is not a length; each names the text. -/
inductive Fault where
  | unreadable (text : String)
  | outOfRange (text : String)
  deriving DecidableEq

/-- The text of a fault. -/
def Fault.message : Fault → String
  | unreadable text => s!"invalid dimension literal: `{text}`"
  | outOfRange text => s!"dimension must be finite and >= 0: `{text}`"

/-- The number of a length, whatever its unit. -/
def number : Dimension → Binary64
  | px length => length
  | percent share => share

/-- The unit of a length in CSS. -/
def unit : Dimension → List Char
  | px _ => ['p', 'x']
  | percent _ => ['%']

/-- The CSS form of a length. -/
def css (d : Dimension) : String := String.ofList (d.number.chars .plain ++ d.unit)

instance : BEq Dimension where
  beq
    | px a, px b => a == b
    | percent a, percent b => a == b
    | _, _ => false

/-- The kind of length that a trimmed text ends with, and the text before its unit. -/
def splitUnit (cs : List Char) : (Binary64 → Dimension) × List Char :=
  match dropEnd? ['%'] cs with
  | some number => (percent, number)
  | none => (px, (dropEnd? ['p', 'x'] cs).getD cs)

/-- Reads a CSS length; blanks around it and before its unit do not matter. -/
def parse (text : String) : Except Fault Dimension :=
  let (build, number) := splitUnit (trim text.toList)
  match Binary64.read (trim number) with
  | none => .error (.unreadable text)
  | some x => if x.isFinite && decide (0 ≤ x) then .ok (build x) else .error (.outOfRange text)

/-- The length in pixels inside a container of a given length; never negative. -/
def resolve (d : Dimension) (container : Binary64) : Binary64 :=
  match d with
  | px length => length.max 0
  | percent share => (container * share / 100).max 0

end Dimension
end Charting
