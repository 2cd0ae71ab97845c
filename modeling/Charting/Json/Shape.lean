import Charting.Json.Node

/-! # Reading a text while skipping what is not asked for

A *shape* says which members of the objects in a text are wanted.  Reading along a shape
evaluates only those: members that are not wanted are skipped unread, so that inside them
strings and numbers without a value and any depth of nesting do no harm.  A wanted member
must not be repeated.
-/
namespace Charting.Json

/-- What is wanted of a JSON text. -/
inductive Shape where
  /-- All of it. -/
  | whole
  /-- An array, and of each item what the shape says. -/
  | items (shape : Shape)
  /-- An object, or an array, of the fields listed. -/
  | fields (members : List (String × Shape))

namespace Shape

/-- Whether no key occurs twice. -/
def distinctKeys (members : List (List Piece × Node)) : Bool :=
  let keys := members.map fun m => Node.pieceText m.1
  decide keys.Nodup

/-- All of a node, whose members must not repeat a key if it is an object. -/
def readWhole (depth : Nat) (node : Node) : Option Json :=
  match node with
  | .object members => if distinctKeys members then node.toJson depth else none
  | _ => node.toJson depth

mutual

/-- The wanted part of a node with at most `depth` levels of nesting. -/
def read (depth : Nat) : Shape → Node → Option Json
  | whole, node => readWhole depth node
  | items shape, node =>
    match node with
    | .array nodes => if depth = 0 then none else (nodes.mapM (read (depth - 1) shape)).map .array
    | _ => node.toJson depth
  | fields wanted, node =>
    match node with
    | .object members =>
      if depth = 0 then none
      else (members.foldlM (readMember (depth - 1) wanted) []).map .object
    | .array nodes => if depth = 0 then none else (readFields (depth - 1) wanted nodes).map .array
    | _ => node.toJson depth

/-- Enters a member into sorted ones if it is wanted. -/
def readMember (depth : Nat) : List (String × Shape) → List (String × Json) →
    List Piece × Node → Option (List (String × Json))
  | [], sorted, (key, _) => (Node.pieceText key).map fun _ => sorted
  | (wanted, shape) :: rest, sorted, (key, node) =>
    if Node.pieceText key = some wanted then
      if sorted.any (fun m => m.1 == wanted) then none
      else (read depth shape node).map fun j => insertMember wanted j sorted
    else readMember depth rest sorted (key, node)

/-- The items of an array that stands for fields; there must not be more of them. -/
def readFields (depth : Nat) : List (String × Shape) → List Node → Option (List Json)
  | _, [] => some []
  | [], _ :: _ => none
  | (_, shape) :: rest, node :: nodes => do
    return (← read depth shape node) :: (← readFields depth rest nodes)

end

end Shape

/-- The wanted part of the value of a text. -/
def parseAlong (shape : Shape) (text : String) : Option Json :=
  (Node.parse text).bind (shape.read depthLimit)

end Charting.Json
