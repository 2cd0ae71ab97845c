import Charting.Color
import Charting.Envelope
import Charting.Props.Format
import Charting.Props.Validation

/-! # Errors

Everything that can go wrong, by cause.  The kind of an error tells a host how to react, and
its message tells a reader what happened.
-/
namespace Charting

/-- The kinds of errors. -/
inductive ErrorKind where
  | invalidScheme
  | unsupportedChartType
  | invalidViewport
  | invalidData
  | serialization
  deriving DecidableEq

/-- What went wrong. -/
inductive ChartError where
  | unknownScheme (name : String)
  | unknownFamily (name : String)
  | viewport (fault : InvalidViewport)
  | color (fault : Color.Fault)
  | dimension (fault : Dimension.Fault)
  | props (fault : Props.Fault)
  /-- A text is not the JSON of properties. -/
  | unreadableProps (fault : DecodeFault)
  | option (fault : ChartOption.Fault)
  | envelope (fault : Envelope.Fault)
  /-- A renderer could not pass an option on. -/
  | serialization (reason : String)

namespace ChartError

/-- The kind of an error. -/
def kind : ChartError → ErrorKind
  | unknownScheme _ => .invalidScheme
  | unknownFamily _ => .unsupportedChartType
  | viewport _ => .invalidViewport
  | serialization _ => .serialization
  | color _ | dimension _ | props _ | unreadableProps _ | option _ | envelope _ => .invalidData

/-- The message of a name that no colour scheme has. -/
def unknownSchemeMessage (name : String) : String := s!"unknown color scheme: `{name}`"

/-- The message of wrong data. -/
def invalidDataMessage (what : String) : String := s!"invalid data: {what}"

/-- What is said about a value that cannot be read, if there is anything to say. -/
def decodeDetail : DecodeFault → String
  | .mismatch => ""
  | .dimension fault => ": " ++ invalidDataMessage fault.message
  | .scheme name => ": " ++ unknownSchemeMessage name

/-- The message of an error. -/
def message : ChartError → String
  | unknownScheme name => unknownSchemeMessage name
  | unknownFamily name => s!"unsupported chart type: `{name}`"
  | viewport v => s!"invalid viewport size: width={v.width.plain}, height={v.height.plain}"
  | color fault => invalidDataMessage fault.message
  | dimension fault => invalidDataMessage fault.message
  | props fault => invalidDataMessage fault.message
  | unreadableProps fault =>
    invalidDataMessage ("failed to parse chart props" ++ decodeDetail fault)
  | option fault => invalidDataMessage fault.message
  | envelope fault => invalidDataMessage fault.message
  | serialization reason => s!"serialization failed: {reason}"

end ChartError

namespace Props

/-- Reads properties from a JSON text and checks them.  The colour scheme of an object is
looked at first. -/
def parse (text : String) : Except ChartError Props :=
  match Json.parse text with
  | none => .error (.unreadableProps .mismatch)
  | some j => do
    match j.get? "colorScheme" with
    | some (.string name) =>
      if (Scheme.ofName? name).isNone then throw (.unknownScheme name)
    | _ => pure ()
    let p ← (format.decode j).mapError .unreadableProps
    p.validate.mapError .props
    return p

/-- The text of properties. -/
def pretty (p : Props) : String := (format.encode p).pretty

end Props
end Charting
