import Charting.Compile.Cartesian
import Charting.Compile.Gauge
import Charting.Compile.Pie
import Charting.Compile.Radar
import Charting.Error

/-! # Compiling charts

From a family, data and properties to an option.  The properties are checked first.  A chart
without anything to plot has no option, except a gauge, which plots no data.
-/
namespace Charting

namespace Compile

/-- The option of data that is not empty. -/
def plot (family : Family) (d : Data) (p : Props) (ctx : Context) : Option ChartOption :=
  match family with
  | .line | .bar | .area | .scatter | .mixed => some (cartesian family d p ctx)
  | .pie | .donut => pie family d p ctx
  | .radar => some (radar d p ctx)
  | .gauge => some (gauge p ctx)

/-- The option of properties that passed their checks. -/
def checked (family : Family) (data : Option Data) (p : Props) : Option ChartOption :=
  if family = .gauge then some (gauge p p.context)
  else
    match data with
    | some d => if d.isEmpty then none else plot family d p p.context
    | none => none

end Compile

/-- The option of a chart, or none if there is nothing to plot. -/
def compile (family : Family) (data : Option Data) (p : Props) :
    Except ChartError (Option ChartOption) :=
  match p.validate with
  | .error fault => .error (.props fault)
  | .ok () => .ok (Compile.checked family data p)

/-- The family of a name. -/
def Family.ofName (name : String) : Except ChartError Family :=
  match ofName? name with
  | some family => .ok family
  | none => .error (.unknownFamily name)

/-- The option of a chart whose family is given by name. -/
def compileNamed (name : String) (data : Option Data) (p : Props) :
    Except ChartError (Option ChartOption) := do
  compile (← Family.ofName name) data p

end Charting
