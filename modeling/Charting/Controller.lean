import Charting.Compile
import Charting.Renderer
import Charting.View

/-! # Controllers

A controller keeps a renderer up to date.  It compiles a chart again only when its inputs
have changed, and an update that fails leaves the inputs and the option as they were.
-/
namespace Charting

/-- The inputs of a chart. -/
structure Inputs where
  family : Family
  data : Option Data
  props : Props

namespace Inputs

/-- Whether data are both missing or the same, two NaNs being equal. -/
def sameData : Option Data → Option Data → Bool
  | some a, some b => a.sameAs b
  | none, none => true
  | _, _ => false

/-- Whether inputs give no reason to compile again.  Properties are compared as numbers, so
that properties with a NaN always give one. -/
def unchanged (a b : Inputs) : Bool :=
  a.family == b.family && sameData a.data b.data && a.props == b.props

end Inputs

/-- A controller of a renderer with states in `σ`. -/
structure Controller (σ : Type) where
  /-- The state of the renderer. -/
  renderer : σ
  /-- The inputs of the last update that succeeded. -/
  inputs : Option Inputs := none
  /-- The option of the last update that succeeded. -/
  option : Option ChartOption := none
  loading : Bool := false
  /-- How often a chart has been compiled. -/
  compileCount : Nat := 0

namespace Controller

variable {σ : Type}

/-- Whether new inputs are those of the last update. -/
def isCurrent (c : Controller σ) (inputs : Inputs) : Bool :=
  match c.inputs with
  | some current => current.unchanged inputs
  | none => false

/-- Hands an option, or its absence, to the renderer. -/
def render (r : Renderer σ) (option : Option ChartOption) (s : σ) : Except ChartError Unit × σ :=
  match option with
  | some o => r.setOption o s
  | none => (.ok (), r.clear s)

/-- Takes new inputs.  The answer is whether a chart has been compiled. -/
def update (r : Renderer σ) (c : Controller σ) (inputs : Inputs) :
    Except ChartError Bool × Controller σ :=
  if c.isCurrent inputs then (.ok false, c)
  else
    match compile inputs.family inputs.data inputs.props with
    | .error e => (.error e, c)
    | .ok option =>
      match render r option c.renderer with
      | (.error e, s) => (.error e, { c with renderer := s, compileCount := c.compileCount + 1 })
      | (.ok (), s) =>
        (.ok true, { c with
          renderer := s
          compileCount := c.compileCount + 1
          option := option
          inputs := some inputs })

/-- Sets whether the chart is loading. -/
def setLoading (c : Controller σ) (loading : Bool) : Controller σ := { c with loading := loading }

/-- What the host shows. -/
def view (c : Controller σ) : View :=
  View.resolve c.loading c.option (c.inputs.map (·.props.emptyText))

/-! ## Runs -/

/-- What a host tells a controller. -/
inductive Action where
  | update (inputs : Inputs)
  | setLoading (loading : Bool)

/-- The controller after an action; the answer of an update is dropped. -/
def act (r : Renderer σ) (c : Controller σ) : Action → Controller σ
  | .update inputs => (c.update r inputs).2
  | .setLoading loading => c.setLoading loading

/-- The controller after actions, one after the other. -/
def run (r : Renderer σ) (c : Controller σ) : List Action → Controller σ
  | [] => c
  | action :: rest => run r (c.act r action) rest

end Controller
end Charting
