import Charting.Data
import Charting.Format
import Charting.Json.Shape

/-! # Chart data as JSON

Attributes that a dataset does not have are left out, and only its label has to be there.
-/
namespace Charting

/-- Datasets as records. -/
def Dataset.record : Record Dataset where
  start := { label := "" }
  needed := 1
  fields := [
    .always "label" .text (·.label) fun x d => { d with label := x },
    .always "data" (.list .real) (·.data) fun x d => { d with data := x },
    .omittable "type" (.named DatasetKind.all DatasetKind.name) (·.kind)
      fun x d => { d with kind := x },
    .omittable "color" .text (·.color) fun x d => { d with color := x },
    .omittable "borderColor" .text (·.borderColor) fun x d => { d with borderColor := x },
    .omittable "backgroundColor" .coloring (·.backgroundColor)
      fun x d => { d with backgroundColor := x },
    .omittable "borderWidth" .real (·.borderWidth) fun x d => { d with borderWidth := x },
    .omittable "fill" .bool (·.fill) fun x d => { d with fill := x },
    .omittable "smooth" .bool (·.smooth) fun x d => { d with smooth := x }]

/-- Chart data as records. -/
def Data.record : Record Data where
  start := {}
  needed := 0
  fields := [
    .always "labels" (.list .text) (·.labels) fun x d => { d with labels := x },
    .always "datasets" (.list Dataset.record.format) (·.datasets)
      fun x d => { d with datasets := x }]

namespace Data

/-- The JSON of chart data. -/
def format : Format Data := record.format

/-- The members of a JSON text that chart data consist of. -/
def shape : Json.Shape :=
  .fields [
    ("labels", .whole),
    ("datasets", .items (.fields (Dataset.record.fields.map fun f => (f.key, .whole))))]

/-- Reads chart data from a JSON text. -/
def parse (text : String) : Except DecodeFault Data :=
  match Json.parseAlong shape text with
  | some j => format.decode j
  | none => .error .mismatch

end Data
end Charting
