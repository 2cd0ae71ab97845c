import Charting.Json.Basic
import Charting.Json.Token

/-! # JSON texts as trees

A *node* is a JSON text that is grammatically right, with all that the text says: repeated
keys, the spelling of strings and the digits of numbers.  A node need not have a value: a
string may hold half of a surrogate pair, a number may be too large, and arrays and objects
may be nested too deeply.  `Json.parse` goes all the way from a text to its value.
-/
namespace Charting.Json

open Number

/-- A JSON text, read but not yet evaluated. -/
inductive Node where
  | null
  | bool (b : Bool)
  | number (literal : JsonNumber.Literal)
  | string (pieces : List Piece)
  | array (items : List Node)
  | object (members : List (List Piece × Node))

namespace Node

/-! ## From tokens to nodes

The grammar, top down.  Every function takes the tokens from where its part starts and
returns those behind it; `fuel` bounds the number of calls along one path. -/

mutual

/-- One value. -/
def value : (fuel : Nat) → List Token → Option (Node × List Token)
  | 0, _ => none
  | fuel + 1, tokens =>
    match tokens with
    | .null :: rest => some (null, rest)
    | .bool b :: rest => some (bool b, rest)
    | .number literal :: rest => some (number literal, rest)
    | .string pieces :: rest => some (string pieces, rest)
    | .leftBracket :: .rightBracket :: rest => some (array [], rest)
    | .leftBracket :: rest => (items fuel rest).map fun (items, rest) => (array items, rest)
    | .leftBrace :: .rightBrace :: rest => some (object [], rest)
    | .leftBrace :: rest => (members fuel rest).map fun (members, rest) => (object members, rest)
    | _ => none

/-- At least one item, up to the closing bracket. -/
def items : (fuel : Nat) → List Token → Option (List Node × List Token)
  | 0, _ => none
  | fuel + 1, tokens => do
    let (node, rest) ← value fuel tokens
    match rest with
    | .rightBracket :: rest => return ([node], rest)
    | .comma :: rest =>
      let (nodes, rest) ← items fuel rest
      return (node :: nodes, rest)
    | _ => none

/-- At least one member, up to the closing brace. -/
def members : (fuel : Nat) → List Token → Option (List (List Piece × Node) × List Token)
  | 0, _ => none
  | fuel + 1, tokens =>
    match tokens with
    | .string key :: .colon :: rest => do
      let (node, rest) ← value fuel rest
      match rest with
      | .rightBrace :: rest => return ([(key, node)], rest)
      | .comma :: rest =>
        let (nodes, rest) ← members fuel rest
        return ((key, node) :: nodes, rest)
      | _ => none
    | _ => none

end

/-- The node that a row of tokens spells.  A path of the grammar makes at most two calls
per token. -/
def ofTokens (tokens : List Token) : Option Node :=
  match value (2 * tokens.length + 1) tokens with
  | some (node, []) => some node
  | _ => none

/-- The node of a text. -/
def parse (text : String) : Option Node := (Token.ofChars text.toList).bind ofTokens

/-! ## From nodes to values -/

/-- The first half of a surrogate pair. -/
def isHighSurrogate (code : Nat) : Bool := decide (0xD800 ≤ code ∧ code < 0xDC00)

/-- The second half of a surrogate pair. -/
def isLowSurrogate (code : Nat) : Bool := decide (0xDC00 ≤ code ∧ code < 0xE000)

/-- The characters of a written string; a half of a surrogate pair has to have its other
half beside it. -/
def pieceChars : List Piece → Option (List Char)
  | [] => some []
  | .char c :: rest => (pieceChars rest).map (c :: ·)
  | .unit high :: .unit low :: rest =>
    if isHighSurrogate high then
      if isLowSurrogate low then
        (pieceChars rest).map
          (Char.ofNat (0x10000 + (high - 0xD800) * 0x400 + (low - 0xDC00)) :: ·)
      else none
    else if isLowSurrogate high then none
    else (pieceChars (.unit low :: rest)).map (Char.ofNat high :: ·)
  | .unit code :: rest =>
    if isHighSurrogate code || isLowSurrogate code then none
    else (pieceChars rest).map (Char.ofNat code :: ·)

/-- The text of a written string. -/
def pieceText (pieces : List Piece) : Option String := (pieceChars pieces).map String.ofList

mutual

/-- The value of a node with at most `depth` nested arrays and objects.  Members are sorted
by key, and of repeated keys the last one counts. -/
def toJson (depth : Nat) : Node → Option Json
  | null => some .null
  | bool b => some (.bool b)
  | number literal => (JsonNumber.ofLiteral? literal).map .number
  | string pieces => (pieceText pieces).map .string
  | array items => if depth = 0 then none else (itemsToJson (depth - 1) items).map .array
  | object members =>
    if depth = 0 then none else (membersToJson (depth - 1) members []).map .object

/-- The values of items. -/
def itemsToJson (depth : Nat) : List Node → Option (List Json)
  | [] => some []
  | node :: rest => do return (← toJson depth node) :: (← itemsToJson depth rest)

/-- Members entered one by one into sorted ones. -/
def membersToJson (depth : Nat) :
    List (List Piece × Node) → List (String × Json) → Option (List (String × Json))
  | [], sorted => some sorted
  | (key, node) :: rest, sorted => do
    membersToJson depth rest (insertMember (← pieceText key) (← toJson depth node) sorted)

end

end Node

/-- How deeply arrays and objects of a text may be nested. -/
def depthLimit : Nat := 127

/-- The value of a JSON text. -/
def parse (text : String) : Option Json := (Node.parse text).bind (Node.toJson depthLimit)

end Charting.Json
