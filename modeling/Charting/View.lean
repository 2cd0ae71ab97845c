import Charting.ChartOption

/-! # What a host shows -/
namespace Charting

/-- What a host shows in the place of a chart. -/
inductive View where
  | loading
  | empty (text : String)
  | ready (option : ChartOption)

/-- While loading nothing else is shown; a chart without an option shows a text instead,
which must not be empty. -/
def View.resolve (loading : Bool) (option : Option ChartOption) (emptyText : Option String) :
    View :=
  if loading then .loading
  else
    match option with
    | some o => .ready o
    | none => .empty ((emptyText.filter (· != "")).getD defaultEmptyText)

end Charting
