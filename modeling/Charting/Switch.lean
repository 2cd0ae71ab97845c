import Charting.Format

/-! # Switches

A part of a chart that can be turned off, turned on with its default settings, or turned on
with settings of its own.
-/
namespace Charting

/-- A part of a chart with settings of type `α`. -/
inductive Switch (α : Type) where
  | off
  | on
  | custom (settings : α)
  deriving BEq, DecidableEq

namespace Switch

variable {α : Type}

/-- The settings of the part, unless it is off. -/
def resolve (default : α) : Switch α → Option α
  | off => none
  | on => some default
  | custom settings => some settings

/-- A part that is turned on or off. -/
def ofBool : Bool → Switch α
  | false => off
  | true => on

/-- On and off are booleans; everything else has to be settings. -/
def format (f : Format α) : Format (Switch α) where
  encode
    | off => .bool false
    | on => .bool true
    | custom settings => f.encode settings
  decode
    | .bool b => .ok (ofBool b)
    | j => (f.hidingFaults.decode j).map custom

end Switch
end Charting
