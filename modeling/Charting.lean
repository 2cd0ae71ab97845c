import Charting.Controller
import Charting.Data.Format
import Charting.Proofs.AreaFills
import Charting.Proofs.Axes
import Charting.Proofs.AxisSettings
import Charting.Proofs.BarDirection
import Charting.Proofs.BeyondLabels
import Charting.Proofs.Color.Alpha
import Charting.Proofs.FailedUpdates
import Charting.Proofs.Fallbacks
import Charting.Proofs.FamilyProps
import Charting.Proofs.FilledLines
import Charting.Proofs.Finite.Compile
import Charting.Proofs.GaugeStops
import Charting.Proofs.LegendEntries
import Charting.Proofs.MobileSizes
import Charting.Proofs.Percent.Canonical
import Charting.Proofs.Percent.Undisturbed
import Charting.Proofs.Percent.Whole
import Charting.Proofs.PieHoles
import Charting.Proofs.PieSlices
import Charting.Proofs.Presentation
import Charting.Proofs.Repeats
import Charting.Proofs.RoundTrip.Data
import Charting.Proofs.RoundTrip.Envelope
import Charting.Proofs.WrittenLengths
import Charting.Telemetry
