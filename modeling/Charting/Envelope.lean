import Charting.ChartOption
import Charting.Json.Node

/-! # Envelopes

An option that is sent across a boundary is put into an envelope that names the version of
its schema.  A reader takes an envelope of the version it knows, or an option without an
envelope.
-/
namespace Charting.Envelope

open Json (member)

/-- The version of the schema. -/
def version : Nat := 1

/-- An option in its envelope. -/
def toJson (o : ChartOption) : Json :=
  .ofMembers [member "schemaVersion" (.ofNat version), member "option" o.toJson]

/-- The text of an option in its envelope. -/
def pretty (o : ChartOption) : String := (toJson o).pretty

/-- Why there is no option in a text. -/
inductive Fault where
  | unreadable
  /-- The envelope has another version. -/
  | unknownVersion (found : Json)
  | noOption

/-- The text of a fault. -/
def Fault.message : Fault → String
  | unreadable => "failed to parse option json payload"
  | unknownVersion found => s!"unsupported option schema version: {found.compact}"
  | noOption => "option contract is missing `option`"

/-- Whether a value is the version of the schema, as an integer. -/
def isVersion : Json → Bool
  | .number (.integer n _) => n == version
  | _ => false

/-- The option in a value: without an envelope it is the value itself. -/
def unwrap (j : Json) : Except Fault Json :=
  match j.get? "schemaVersion" with
  | none => .ok j
  | some found =>
    if isVersion found then
      match j.get? "option" with
      | some o => .ok o
      | none => .error .noOption
    else .error (.unknownVersion found)

/-- The option in a text. -/
def read (text : String) : Except Fault Json :=
  match Json.parse text with
  | some j => unwrap j
  | none => .error .unreadable

end Charting.Envelope
