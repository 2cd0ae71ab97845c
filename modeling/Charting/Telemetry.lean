/-! # Telemetry

The library reports nothing by itself, so there is no subscriber to install.
-/
namespace Charting.Telemetry

/-- Whether a default subscriber for reports was installed. -/
def installDefault : Bool := false

end Charting.Telemetry
