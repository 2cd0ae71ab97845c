import Charting.Json.Basic
import Charting.Dimension
import Charting.Palette

/-! # Formats: domain values as JSON

A *format* says how the values of a type are written as JSON and read from it.  Formats are
values that compose: of optional values, of lists, of named choices, and of records, which
are lists of fields.

A record is written as an object with its fields in order.  It is read from an object, whose
members may come in any order, or from an array of its fields in order.  Fields that are
missing keep the values of a starting record, and unknown members are ignored.  When several
members are wrong, the first one in the order of reading is reported.
-/
namespace Charting

open Number

/-- Why a JSON value is not read as a value of the domain. -/
inductive DecodeFault where
  /-- The JSON value has a shape of another type. -/
  | mismatch
  /-- A text is not a length. -/
  | dimension (fault : Dimension.Fault)
  /-- A text is not the name of a colour scheme. -/
  | scheme (name : String)
  deriving DecidableEq

/-- A way to write the values of a type as JSON and to read them. -/
structure Format (α : Type) where
  encode : α → Json
  decode : Json → Except DecodeFault α

namespace Format

variable {α β : Type}

/-- Reading what was written gives the value back.  What is read from a text is sorted. -/
def RoundTrips (f : Format α) (a : α) : Prop := f.decode (f.encode a).sortMembers = .ok a

/-- A free JSON value stands for itself. -/
def json : Format Json := ⟨id, .ok⟩

/-- Booleans stand for themselves. -/
def bool : Format Bool where
  encode := .bool
  decode
    | .bool b => .ok b
    | _ => .error .mismatch

/-- Texts stand for themselves. -/
def text : Format String where
  encode := .string
  decode
    | .string s => .ok s
    | _ => .error .mismatch

/-- Any number is read as a binary64 number; one that is not finite is written as `null`. -/
def real : Format Binary64 where
  encode := .ofBinary64
  decode
    | .number n => .ok n.toBinary64
    | _ => .error .mismatch

/-- Whole numbers below `2 ^ 32`, written without a point. -/
def count : Format UInt32 where
  encode n := .ofNat n.toNat
  decode
    | .number n =>
      match n.toNat? UInt32.size with
      | some k => .ok (.ofNat k)
      | none => .error .mismatch
    | _ => .error .mismatch

/-- A value that may be missing, which `null` stands for. -/
def optional (f : Format α) : Format (Option α) where
  encode
    | some a => f.encode a
    | none => .null
  decode
    | .null => .ok none
    | j => (f.decode j).map some

/-- Lists are arrays, item by item. -/
def list (f : Format α) : Format (List α) where
  encode as := .array (as.map f.encode)
  decode
    | .array items => items.mapM f.decode
    | _ => .error .mismatch

/-- One of some named values.  A name may also be the only key of an object, with `null`. -/
def named (all : List α) (name : α → String) : Format α where
  encode a := .string (name a)
  decode j :=
    let found? (s : String) : Except DecodeFault α :=
      match all.find? (fun a => name a == s) with
      | some a => .ok a
      | none => .error .mismatch
    match j with
    | .string s => found? s
    | .object [(s, .null)] => found? s
    | _ => .error .mismatch

/-- The same format with every fault reported as a mismatch: what a value that has several
possible shapes reports when none of them fits. -/
def hidingFaults (f : Format α) : Format α where
  encode := f.encode
  decode j := (f.decode j).mapError fun _ => .mismatch

/-- The same JSON for the values of another type. -/
def iso (f : Format α) (pack : α → β) (unpack : β → α) : Format β where
  encode b := f.encode (unpack b)
  decode j := (f.decode j).map pack

/-- Lengths: a number of pixels, which is not checked, or a CSS length. -/
def dimension : Format Dimension where
  encode
    | .px length => .ofBinary64 length
    | d => .string d.css
  decode
    | .number n => .ok (.px n.toBinary64)
    | .string s => (Dimension.parse s).mapError .dimension
    | _ => .error .mismatch

/-- One colour, or a list of colours. -/
def coloring : Format Coloring where
  encode
    | .single color => .string color
    | .each colors => .ofStrings colors
  decode
    | .string color => .ok (.single color)
    | j => ((list text).hidingFaults.decode j).map .each

/-- Colour schemes by name. -/
def scheme : Format Scheme where
  encode s := .string s.name
  decode
    | .string s =>
      match Scheme.ofName? s with
      | some scheme => .ok scheme
      | none => .error (.scheme s)
    | _ => .error .mismatch

end Format

/-! ## Records -/

/-- A field of a record: its key, its place in the record, and how its value is read and, if it
is, written. -/
structure Field (σ : Type) where
  key : String
  Value : Type
  get : σ → Value
  set : Value → σ → σ
  decode : Json → Except DecodeFault Value
  /-- There is none for a value that is left out. -/
  encode : Value → Option Json

namespace Field

variable {σ α : Type}

/-- A field that is always written. -/
def always (key : String) (f : Format α) (get : σ → α) (set : α → σ → σ) : Field σ where
  key := key
  Value := α
  get := get
  set := set
  decode := f.decode
  encode a := some (f.encode a)

/-- A field that is left out when it has no value. -/
def omittable (key : String) (f : Format α) (get : σ → Option α) (set : Option α → σ → σ) :
    Field σ where
  key := key
  Value := Option α
  get := get
  set := set
  decode := f.optional.decode
  encode a := a.map f.encode

/-- Enters the value of the field into a record. -/
def read (f : Field σ) (j : Json) (s : σ) : Except DecodeFault σ :=
  (f.decode j).map fun a => f.set a s

/-- The value of the field in a record as it is written. -/
def write (f : Field σ) (s : σ) : Option Json := f.encode (f.get s)

end Field

/-- The description of a record type. -/
structure Record (σ : Type) where
  /-- The record in which all fields are missing. -/
  start : σ
  /-- The fields, in the order in which they are written. -/
  fields : List (Field σ)
  /-- How many of the first fields have to be there. -/
  needed : Nat

namespace Record

variable {σ : Type}

/-- Enters one member of an object; unknown keys are ignored. -/
def readMember (r : Record σ) (s : σ) (m : String × Json) : Except DecodeFault σ :=
  match r.fields.find? (fun f => f.key == m.1) with
  | some f => f.read m.2 s
  | none => .ok s

/-- Enters items into fields one by one; there must not be more items than fields. -/
def readItems : List (Field σ) → List Json → σ → Except DecodeFault σ
  | _, [], s => .ok s
  | [], _ :: _, _ => .error .mismatch
  | f :: fs, j :: js, s => do readItems fs js (← f.read j s)

/-- Whether an object has all keys that have to be there. -/
def hasNeeded (r : Record σ) (members : List (String × Json)) : Bool :=
  (r.fields.take r.needed).all fun f => members.any fun m => m.1 == f.key

/-- The record in an object or array. -/
def decode (r : Record σ) : Json → Except DecodeFault σ
  | .object members => do
    let s ← members.foldlM r.readMember r.start
    if r.hasNeeded members then .ok s else .error .mismatch
  | .array items => do
    let s ← readItems r.fields items r.start
    if r.needed ≤ items.length then .ok s else .error .mismatch
  | _ => .error .mismatch

/-- The object of a record. -/
def encode (r : Record σ) (s : σ) : Json :=
  .object (r.fields.filterMap fun f => (f.write s).map fun j => (f.key, j))

/-- The format of a record type. -/
def format (r : Record σ) : Format σ := ⟨r.encode, r.decode⟩

end Record
end Charting
