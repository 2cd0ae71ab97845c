import Charting.Json.Number

/-! # JSON values

A value keeps the order of its object members, since written text shows it.  Values that
were read from text have their members sorted by key, each key once; `sortMembers` brings
any value into this form.  Keys are ordered by code points.
-/
namespace Charting

open Number

/-- A JSON value. -/
inductive Json where
  | null
  | bool (b : Bool)
  | number (n : JsonNumber)
  | string (s : String)
  | array (items : List Json)
  | object (members : List (String × Json))
  deriving Inhabited

namespace Json

/-! ## Building values -/

/-- A number, or `null` for one that JSON cannot write. -/
def ofBinary64 (x : Binary64) : Json :=
  if h : x.isFinite = true then number (.real x h) else null

/-- A natural number; one beyond 64 bits becomes a real. -/
def ofNat (n : Nat) : Json :=
  if h : FitsWord n then number (.integer n h) else ofBinary64 (.ofNat n)

/-- An array of texts. -/
def ofStrings (texts : List String) : Json := array (texts.map string)

/-- An object of the members that are present. -/
def ofMembers (members : List (Option (String × Json))) : Json := object (members.filterMap id)

/-- A member of an object that is always present. -/
def member (key : String) (value : Json) : Option (String × Json) := some (key, value)

/-- A member of an object that is left out when there is no value. -/
def memberIf {α : Type} (key : String) (value : Option α) (encode : α → Json) :
    Option (String × Json) :=
  value.map fun a => (key, encode a)

/-! ## Members -/

/-- The value under a key of an object; the last one if the key is repeated. -/
def lookup (key : String) (members : List (String × Json)) : Option Json :=
  (members.reverse.find? (fun m => m.1 == key)).map (·.2)

/-- The value under a key; only objects have any. -/
def get? (key : String) : Json → Option Json
  | object members => lookup key members
  | _ => none

/-- Puts a member into its place among sorted ones, over a member of the same key. -/
def insertMember {α : Type} (key : String) (value : α) :
    List (String × α) → List (String × α)
  | [] => [(key, value)]
  | (k, v) :: rest =>
    if key = k then (key, value) :: rest
    else if key < k then (key, value) :: (k, v) :: rest
    else (k, v) :: insertMember key value rest

mutual

/-- The value with the members of every object sorted by key; of repeated keys the last
one stays. -/
def sortMembers : Json → Json
  | array items => array (sortItems items)
  | object members => object (sortMemberList members [])
  | j => j

/-- Each item with its members sorted. -/
def sortItems : List Json → List Json
  | [] => []
  | j :: rest => sortMembers j :: sortItems rest

/-- Members inserted one by one into sorted ones. -/
def sortMemberList : List (String × Json) → List (String × Json) → List (String × Json)
  | [], sorted => sorted
  | (key, j) :: rest, sorted => sortMemberList rest (insertMember key (sortMembers j) sorted)

end

/-! ## Equality -/

mutual

/-- Equality of values whose members are sorted; numbers are compared as numbers. -/
def same : Json → Json → Bool
  | null, null => true
  | bool a, bool b => a == b
  | number a, number b => a == b
  | string a, string b => a == b
  | array a, array b => sameItems a b
  | object a, object b => sameMembers a b
  | _, _ => false

/-- Equality of items, place by place. -/
def sameItems : List Json → List Json → Bool
  | [], [] => true
  | a :: as, b :: bs => same a b && sameItems as bs
  | _, _ => false

/-- Equality of members, place by place, with their keys. -/
def sameMembers : List (String × Json) → List (String × Json) → Bool
  | [], [] => true
  | (k, a) :: as, (l, b) :: bs => k == l && same a b && sameMembers as bs
  | _, _ => false

end

instance : BEq Json := ⟨same⟩

end Json
end Charting
