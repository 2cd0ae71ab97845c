import Charting.Json.Number
import Charting.Text.Hex

/-! # Tokens of JSON texts

A JSON text is a row of tokens with blanks between them.  Strings are kept as they are
written: an escaped code unit is a piece of its own, since two of them may name one
character and a lone half of such a pair names none.  Only the shape of a token is checked
here; whether a string or a number has a value is decided where the value is needed.
-/
namespace Charting.Json

open Number Text

/-- A part of a written string. -/
inductive Piece where
  | char (c : Char)
  /-- A UTF-16 code unit, written with four hexadecimal digits. -/
  | unit (code : Nat)
  deriving DecidableEq

/-- A token of a JSON text. -/
inductive Token where
  | leftBracket
  | rightBracket
  | leftBrace
  | rightBrace
  | colon
  | comma
  | null
  | bool (b : Bool)
  | number (literal : JsonNumber.Literal)
  | string (pieces : List Piece)
  deriving DecidableEq

namespace Token

/-- The four characters that may stand between tokens. -/
def isBlank (c : Char) : Bool := c == ' ' || c == '\t' || c == '\n' || c == '\r'

/-- The character of a one-letter escape. -/
def escape? : Char → Option Char
  | '"' => some '"'
  | '\\' => some '\\'
  | '/' => some '/'
  | 'b' => some '\x08'
  | 'f' => some '\x0c'
  | 'n' => some '\n'
  | 'r' => some '\r'
  | 't' => some '\t'
  | _ => none

/-- The pieces up to the closing quote, and the text behind it. -/
def scanString : List Char → Option (List Piece × List Char)
  | [] => none
  | '"' :: rest => some ([], rest)
  | '\\' :: 'u' :: a :: b :: c :: d :: rest => do
    let code ← hexNumber? [a, b, c, d]
    let (pieces, rest) ← scanString rest
    return (.unit code :: pieces, rest)
  | '\\' :: e :: rest => do
    let c ← escape? e
    let (pieces, rest) ← scanString rest
    return (.char c :: pieces, rest)
  | c :: rest =>
    if c = '\\' ∨ c.toNat < 0x20 then none
    else do
      let (pieces, rest) ← scanString rest
      return (.char c :: pieces, rest)

/-- The digits before the point, without superfluous zeros in front. -/
def scanWhole : List Char → Option (List Char × List Char)
  | [] => none
  | '0' :: rest => some (['0'], rest)
  | c :: rest =>
    if c.isDigit then some (c :: rest.takeWhile Char.isDigit, rest.dropWhile Char.isDigit)
    else none

/-- The digits behind a point, if there is one, and whether there is. -/
def scanFraction : List Char → Option (List Char × Bool × List Char)
  | '.' :: rest =>
    let digits := rest.takeWhile Char.isDigit
    if digits.isEmpty then none else some (digits, true, rest.dropWhile Char.isDigit)
  | rest => some ([], false, rest)

/-- The number at the front of a text. -/
def scanNumber (cs : List Char) : Option (JsonNumber.Literal × List Char) := do
  let (negative, cs) := match cs with
    | '-' :: rest => (true, rest)
    | rest => (false, rest)
  let (whole, cs) ← scanWhole cs
  let (fraction, hasPoint, cs) ← scanFraction cs
  let (exponent, rest) ← scanExponent cs
  let hasExponent := decide (rest.length < cs.length)
  return (⟨negative, .ofParts whole fraction exponent, !hasPoint && !hasExponent⟩, rest)

/-- The token at the front of a text that does not start with a blank. -/
def scanOne : List Char → Option (Token × List Char)
  | '[' :: rest => some (leftBracket, rest)
  | ']' :: rest => some (rightBracket, rest)
  | '{' :: rest => some (leftBrace, rest)
  | '}' :: rest => some (rightBrace, rest)
  | ':' :: rest => some (colon, rest)
  | ',' :: rest => some (comma, rest)
  | 'n' :: 'u' :: 'l' :: 'l' :: rest => some (null, rest)
  | 't' :: 'r' :: 'u' :: 'e' :: rest => some (bool true, rest)
  | 'f' :: 'a' :: 'l' :: 's' :: 'e' :: rest => some (bool false, rest)
  | '"' :: rest => (scanString rest).map fun (pieces, rest) => (string pieces, rest)
  | cs => (scanNumber cs).map fun (literal, rest) => (number literal, rest)

/-- The tokens of a text, of which there are at most `fuel`. -/
def scan : (fuel : Nat) → List Char → Option (List Token)
  | fuel, cs =>
    match cs.dropWhile isBlank, fuel with
    | [], _ => some []
    | _ :: _, 0 => none
    | c :: cs, fuel + 1 => do
      let (token, rest) ← scanOne (c :: cs)
      return token :: (← scan fuel rest)

/-- The tokens of a text; a token has at least one character. -/
def ofChars (cs : List Char) : Option (List Token) := scan cs.length cs

end Token
end Charting.Json
