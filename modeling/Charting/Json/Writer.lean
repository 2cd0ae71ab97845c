import Charting.Json.Basic
import Charting.Text.Hex

/-! # Writing JSON

A value is written compactly, without any blank, or laid out over lines with two blanks
per level.  Strings keep all characters except quotes, backslashes and controls, which are
escaped.
-/
namespace Charting.Json

open Text

/-- A character inside a string. -/
def escapedChar (c : Char) : List Char :=
  if c = '"' then ['\\', '"']
  else if c = '\\' then ['\\', '\\']
  else if c = '\x08' then ['\\', 'b']
  else if c = '\x0c' then ['\\', 'f']
  else if c = '\n' then ['\\', 'n']
  else if c = '\r' then ['\\', 'r']
  else if c = '\t' then ['\\', 't']
  else if c.toNat < 0x20 then ['\\', 'u', '0', '0'] ++ hexPair c.toNat
  else [c]

/-- A string in quotes. -/
def stringChars (s : String) : List Char := '"' :: s.toList.flatMap escapedChar ++ ['"']

/-- The word of a boolean. -/
def boolChars (b : Bool) : List Char :=
  if b then ['t', 'r', 'u', 'e'] else ['f', 'a', 'l', 's', 'e']

/-- A way to lay out the parts of arrays and objects. -/
structure Layout where
  /-- What stands before a part, or before the closing bracket, at some depth. -/
  gap : Nat → List Char
  /-- What stands between a key and its value. -/
  colon : List Char

/-- Everything on one line, without blanks. -/
def Layout.compact : Layout where
  gap _ := []
  colon := [':']

/-- Each part on a line of its own, two blanks in for every level. -/
def Layout.pretty : Layout where
  gap depth := '\n' :: List.replicate (2 * depth) ' '
  colon := [':', ' ']

mutual

/-- The characters of a value at some depth. -/
def chars (layout : Layout) (depth : Nat) : Json → List Char
  | null => ['n', 'u', 'l', 'l']
  | bool b => boolChars b
  | number n => n.chars
  | string s => stringChars s
  | array [] => ['[', ']']
  | array (j :: rest) =>
    '[' :: layout.gap (depth + 1) ++ chars layout (depth + 1) j ++
      itemChars layout (depth + 1) rest ++ layout.gap depth ++ [']']
  | object [] => ['{', '}']
  | object ((key, j) :: rest) =>
    '{' :: layout.gap (depth + 1) ++ stringChars key ++ layout.colon ++
      chars layout (depth + 1) j ++ memberChars layout (depth + 1) rest ++
      layout.gap depth ++ ['}']

/-- The items behind the first one, each after a comma. -/
def itemChars (layout : Layout) (depth : Nat) : List Json → List Char
  | [] => []
  | j :: rest =>
    ',' :: layout.gap depth ++ chars layout depth j ++ itemChars layout depth rest

/-- The members behind the first one, each after a comma. -/
def memberChars (layout : Layout) (depth : Nat) : List (String × Json) → List Char
  | [] => []
  | (key, j) :: rest =>
    ',' :: layout.gap depth ++ stringChars key ++ layout.colon ++ chars layout depth j ++
      memberChars layout depth rest

end

/-- The text of a value on one line. -/
def compact (j : Json) : String := String.ofList (chars .compact 0 j)

/-- The text of a value over lines. -/
def pretty (j : Json) : String := String.ofList (chars .pretty 0 j)

end Charting.Json
