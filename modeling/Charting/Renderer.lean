import Charting.Error

/-! # Renderers

A renderer is what a host draws options with.  It keeps a state of its own, may refuse an
option, and can be cleared.  The recorder is a renderer that draws nothing and remembers
what it was told.
-/
namespace Charting

/-- A renderer with states in `σ`. -/
structure Renderer (σ : Type) where
  /-- Draws an option.  Even a renderer that refuses may change its state. -/
  setOption : ChartOption → σ → Except ChartError Unit × σ
  /-- Takes away what is drawn. -/
  clear : σ → σ

/-- What a recorder remembers. -/
structure Recording where
  lastSeriesCount : Nat := 0
  setCalls : Nat := 0
  clearCalls : Nat := 0
  lastOption : Option ChartOption := none

namespace Recording

/-- Remembers an option that could be drawn. -/
def setOption (o : ChartOption) (r : Recording) : Except ChartError Unit × Recording :=
  match o.validate with
  | .error fault => (.error (.option fault), r)
  | .ok () =>
    (.ok (), { r with
      lastSeriesCount := o.series.length
      setCalls := r.setCalls + 1
      lastOption := some o })

/-- Forgets the option. -/
def clear (r : Recording) : Recording :=
  { r with lastSeriesCount := 0, clearCalls := r.clearCalls + 1, lastOption := none }

end Recording

/-- The renderer that only remembers. -/
def recorder : Renderer Recording := ⟨Recording.setOption, Recording.clear⟩

end Charting
