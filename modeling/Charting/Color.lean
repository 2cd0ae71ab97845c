import Charting.Number.Text
import Charting.Number.Literal
import Charting.Text.Blank
import Charting.Text.Hex
import Charting.Text.Split

/-! # Colours

A colour has four channels, each meant to lie between 0 and 1.  It is read from the
CSS forms `#rgb`, `#rgba`, `#rrggbb`, `#rrggbbaa`, `rgb(…)` and `rgba(…)`, and written
as `#rrggbb` or `rgba(r, g, b, a)` with 8-bit colour channels.

Charts also carry colours that this reader does not know (names, other functions).
`alphaVariant` leaves those as they are, unless they have to vanish.
-/
namespace Charting

open Number Text

/-- A colour by its channels. -/
structure Color where
  red : Binary64
  green : Binary64
  blue : Binary64
  alpha : Binary64
  deriving DecidableEq

namespace Color

/-- The channels of a colour. -/
inductive Channel where
  | red
  | green
  | blue
  | alpha
  deriving DecidableEq

/-- The name of a channel in messages. -/
def Channel.name : Channel → String
  | red => "red"
  | green => "green"
  | blue => "blue"
  | alpha => "alpha"

/-- Why a colour is refused. -/
inductive Fault where
  /-- The channel is not a number from 0 to 1. -/
  | outOfRange (channel : Channel)
  /-- The text has none of the known forms. -/
  | unreadable (text : String)
  deriving DecidableEq

/-- The text of a fault. -/
def Fault.message : Fault → String
  | outOfRange channel => s!"color channel `{channel.name}` must be finite and in [0, 1]"
  | unreadable text => s!"unsupported color literal: `{text}`"

/-- The value of a channel. -/
def get (c : Color) : Channel → Binary64
  | .red => c.red
  | .green => c.green
  | .blue => c.blue
  | .alpha => c.alpha

/-- Whether a channel holds a number from 0 to 1. -/
def inRange (x : Binary64) : Bool := x.isFinite && decide (0 ≤ x) && decide (x ≤ 1)

/-- The colour itself, unless a channel is out of range; the first such channel is named. -/
def validate (c : Color) : Except Fault Unit :=
  match [Channel.red, .green, .blue, .alpha].find? (fun channel => !inRange (c.get channel)) with
  | some channel => .error (.outOfRange channel)
  | none => .ok ()

/-- A colour without transparency. -/
def rgb (red green blue : Binary64) : Color := ⟨red, green, blue, 1⟩

/-- The same hue with another alpha, brought between 0 and 1. -/
def withAlpha (c : Color) (alpha : Binary64) : Color := { c with alpha := alpha.clamp 0 1 }

/-! ## Writing -/

/-- A channel on the scale from 0 to 255, rounded half up. -/
def byte (channel : Binary64) : Nat := (channel.clamp 0 1 * 255).nearestNat

/-- An alpha with at most three decimals. -/
def alphaText (alpha : Binary64) : List Char :=
  if alpha.isNaN then Binary64.nan.chars .plain
  else (.ofNat (alpha.clamp 0 1 * 1000).nearestNat / 1000 : Binary64).chars .plain

/-- The three colour channels, in the order in which they are written. -/
def bytes (c : Color) : List Nat := [byte c.red, byte c.green, byte c.blue]

/-- The CSS form `rgba(r, g, b, a)`. -/
def css (c : Color) : String :=
  String.ofList ("rgba(".toList ++
    [',', ' '].intercalate (c.bytes.map (Nat.toDigits 10) ++ [alphaText c.alpha]) ++ [')'])

/-- The CSS form `#rrggbb`, which drops the alpha. -/
def hex (c : Color) : String := String.ofList ('#' :: c.bytes.flatMap hexPair)

/-! ## Reading -/

/-- A pair of hexadecimal digits as a channel. -/
def hexChannel (pair : List Char) : Option Binary64 :=
  (hexNumber? pair).map fun n => .ofNat n / 255

/-- The colour of the digits behind `#`: a short form stands for each digit doubled. -/
def ofHex (digits : List Char) : Option Color := do
  let long ←
    if digits.length = 3 ∨ digits.length = 4 then some (digits.flatMap fun c => [c, c])
    else if digits.length = 6 ∨ digits.length = 8 then some digits
    else none
  let red ← hexChannel (long.take 2)
  let green ← hexChannel ((long.drop 2).take 2)
  let blue ← hexChannel ((long.drop 4).take 2)
  let alpha ← if long.length = 8 then hexChannel (long.drop 6) else some 1
  return ⟨red, green, blue, alpha⟩

/-- A colour part of a function: a number from 0 to 255. -/
def partChannel (part : List Char) : Option Binary64 :=
  match Binary64.read part with
  | some x => if 0 ≤ x ∧ x ≤ 255 then some (x / 255) else none
  | none => none

/-- The text between the parentheses behind a function name in any letter case. -/
def argument? (name cs : List Char) : Option (List Char) :=
  if (cs.take name.length).map Char.toLower = name then
    (dropStart? ['('] (trimStart (cs.drop name.length))).bind (dropEnd? [')'])
  else none

/-- The colour of the arguments of `rgb`, or of `rgba` with an alpha. -/
def ofParts (withAlpha : Bool) (body : List Char) : Option Color :=
  match withAlpha, (split ',' body).map trim with
  | false, [r, g, b] => do
    return rgb (← partChannel r) (← partChannel g) (← partChannel b)
  | true, [r, g, b, a] => do
    return ⟨← partChannel r, ← partChannel g, ← partChannel b, ← Binary64.read a⟩
  | _, _ => none

/-- The colour of a trimmed text, its alpha yet unchecked. -/
def ofChars (cs : List Char) : Option Color :=
  match cs with
  | '#' :: digits => ofHex digits
  | _ =>
    match argument? "rgba".toList cs with
    | some body => ofParts true body
    | none => (argument? "rgb".toList cs).bind (ofParts false)

/-- Reads a colour; blanks around it do not matter. -/
def parse (text : String) : Except Fault Color := do
  match ofChars (trim text.toList) with
  | none => .error (.unreadable text)
  | some c =>
    c.validate
    return c

/-! ## Variants of a CSS colour -/

/-- The CSS colour with another alpha.  A colour that cannot be read vanishes for an
alpha of zero or less and stays as it is for any other. -/
def alphaVariant (text : String) (alpha : Binary64) : String :=
  match parse text with
  | .ok c => (c.withAlpha alpha).css
  | .error _ => if alpha ≤ 0 then "transparent" else text

/-- The fully transparent variant of a CSS colour. -/
def transparentVariant (text : String) : String := alphaVariant text 0

end Color
end Charting
