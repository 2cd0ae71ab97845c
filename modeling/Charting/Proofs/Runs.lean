import Charting.Controller
import Charting.Proofs.Blocks

/-! # Runs of a controller

An update ends in one of four ways, and `Step` says of each when it occurs, what is answered
and what the controller is afterwards; that is all that the other facts about updates need.

What a run leaves behind does not depend on all that happened in it.  It is determined by the
updates that were answered `true` (`accepted`) and by the last word on loading
(`loadingAfter`): `InStep` says how, an action preserves it, and so a run of a fresh controller
ends in it.  A run that is cut short is a run, so this holds after every action.

The renderer of these runs is the recorder, which refuses what a renderer has to refuse.  It
refuses nothing that was compiled, and without this the count of compiled charts and the counts
of the recorder would drift apart.
-/
namespace Charting.Controller

variable {σ : Type}

/-! ## The ways in which an update ends -/

/-- An update of a controller with its answer and the controller afterwards. -/
inductive Step (r : Renderer σ) (c : Controller σ) (inputs : Inputs) :
    Except ChartError Bool → Controller σ → Prop
  /-- The inputs are those of the last update. -/
  | skipped (current : c.isCurrent inputs = true) : Step r c inputs (.ok false) c
  /-- There is a fault in the properties. -/
  | faulty {e} (changed : c.isCurrent inputs = false)
    (compiled : compile inputs.family inputs.data inputs.props = .error e) :
    Step r c inputs (.error e) c
  /-- The renderer refuses the option. -/
  | refused {option e s} (changed : c.isCurrent inputs = false)
    (compiled : compile inputs.family inputs.data inputs.props = .ok option)
    (rendered : render r option c.renderer = (.error e, s)) :
    Step r c inputs (.error e) { c with renderer := s, compileCount := c.compileCount + 1 }
  /-- The chart is compiled and drawn. -/
  | drawn {option s} (changed : c.isCurrent inputs = false)
    (compiled : compile inputs.family inputs.data inputs.props = .ok option)
    (rendered : render r option c.renderer = (.ok (), s)) :
    Step r c inputs (.ok true)
      { c with
        renderer := s
        compileCount := c.compileCount + 1
        option := option
        inputs := some inputs }

/-- Every update ends in one of the four ways. -/
theorem step_update (r : Renderer σ) (c : Controller σ) (inputs : Inputs) :
    Step r c inputs (c.update r inputs).1 (c.update r inputs).2 := by
  unfold update
  cases hcurrent : c.isCurrent inputs with
  | true => exact .skipped hcurrent
  | false =>
    cases hcompiled : compile inputs.family inputs.data inputs.props with
    | error e => exact .faulty hcurrent hcompiled
    | ok option =>
      rcases hrendered : render r option c.renderer with ⟨e | ⟨⟩, s⟩
      · simpa [hrendered] using Step.refused hcurrent hcompiled hrendered
      · simpa [hrendered] using Step.drawn hcurrent hcompiled hrendered

/-- An update is answered `false` exactly if its inputs are those of the last one. -/
theorem fst_update_eq_ok_false_iff {r : Renderer σ} {c : Controller σ} {inputs : Inputs} :
    (c.update r inputs).1 = .ok false ↔ c.isCurrent inputs = true := by
  have hstep := step_update r c inputs
  generalize (c.update r inputs).1 = answer at hstep ⊢
  generalize (c.update r inputs).2 = after at hstep
  cases hstep with
  | skipped current => exact iff_of_true rfl current
  | faulty changed | refused changed | drawn changed => simp [changed]

/-! ## What happened in a run -/

/-- The inputs that an action brings into effect: those of an update that is answered `true`. -/
def taken (r : Renderer σ) (c : Controller σ) : Action → Option Inputs
  | .update inputs =>
    match (c.update r inputs).1 with
    | .ok true => some inputs
    | .ok false | .error _ => none
  | .setLoading _ => none

/-- The inputs of the updates of a run that are answered `true`, in order. -/
def accepted (r : Renderer σ) (c : Controller σ) : List Action → List Inputs
  | [] => []
  | action :: rest => (c.taken r action).toList ++ accepted r (c.act r action) rest

/-- What was last said about loading, after it was said before. -/
def loadingAfter (before : Bool) : List Action → Bool
  | [] => before
  | .update _ :: rest => loadingAfter before rest
  | .setLoading loading :: rest => loadingAfter loading rest

/-- The controller of a recorder before the first action. -/
def fresh : Controller Recording where
  renderer := {}

/-- The text that stands for a chart without an option, after some accepted inputs. -/
def emptyTextAfter (past : List Inputs) : String :=
  match past.getLast? with
  | some last => if last.props.emptyText = "" then defaultEmptyText else last.props.emptyText
  | none => defaultEmptyText

/-- The option is the one that the inputs call for; before there are any there is none. -/
def IsOptionOf (option : Option ChartOption) : Option Inputs → Prop
  | some inputs => compile inputs.family inputs.data inputs.props = .ok option
  | none => option = none

/-- The controller and its recorder are in step with the accepted inputs and the last word on
loading. -/
structure InStep (c : Controller Recording) (past : List Inputs) (loading : Bool) : Prop where
  inputs : c.inputs = past.getLast?
  option : IsOptionOf c.option past.getLast?
  lastOption : c.renderer.lastOption = c.option
  lastSeriesCount :
    c.renderer.lastSeriesCount = (c.option.map fun o => o.series.length).getD 0
  calls : c.compileCount = c.renderer.setCalls + c.renderer.clearCalls
  compileCount : c.compileCount = past.length
  loading : c.loading = loading

/-! ## The recorder -/

/-- What the recorder remembers once it was handed an option, or its absence. -/
def recording (option : Option ChartOption) (r : Recording) : Recording :=
  match option with
  | some o =>
    { r with lastSeriesCount := o.series.length, setCalls := r.setCalls + 1, lastOption := some o }
  | none => r.clear

/-- The recorder accepts whatever comes out of compiling. -/
theorem render_recorder {inputs : Inputs} {option : Option ChartOption}
    (h : compile inputs.family inputs.data inputs.props = .ok option) (r : Recording) :
    render recorder option r = (.ok (), recording option r) := by
  cases option with
  | none => rfl
  | some o =>
    have hvalid := (compile_eq_some_iff.mp h).2.validate_eq_ok
    simp only [render, recorder, Recording.setOption, hvalid, recording]

/-! ## One action, and a run -/

theorem inStep_fresh : InStep fresh [] false := ⟨rfl, rfl, rfl, rfl, rfl, rfl, rfl⟩

variable {c : Controller Recording} {past : List Inputs} {loading : Bool}

/-- A chart that was compiled and recorded puts its inputs at the end of the accepted ones. -/
theorem InStep.drawn (h : InStep c past loading) {new : Inputs} {option : Option ChartOption}
    (hcompiled : compile new.family new.data new.props = .ok option) :
    InStep
      { c with
        renderer := recording option c.renderer
        compileCount := c.compileCount + 1
        option := option
        inputs := some new }
      (past ++ [new]) loading := by
  have hlast : (past ++ [new]).getLast? = some new := by simp
  refine ⟨hlast.symm, ?_, ?_, ?_, ?_, ?_, h.loading⟩
  · rw [hlast]; exact hcompiled
  · cases option <;> rfl
  · cases option <;> rfl
  · have hcalls := h.calls
    cases option <;> simp only [recording, Recording.clear] <;> omega
  · simp [h.compileCount]

/-- **An action keeps the controller in step.** -/
theorem InStep.act (h : InStep c past loading) (action : Action) :
    InStep (c.act recorder action) (past ++ (c.taken recorder action).toList)
      (loadingAfter loading [action]) := by
  cases action with
  | setLoading new =>
    simp only [taken, Option.toList_none, List.append_nil]
    exact ⟨h.inputs, h.option, h.lastOption, h.lastSeriesCount, h.calls, h.compileCount, rfl⟩
  | update new =>
    have hstep := step_update recorder c new
    simp only [Controller.act, taken, loadingAfter]
    generalize (c.update recorder new).1 = answer at hstep ⊢
    generalize (c.update recorder new).2 = after at hstep ⊢
    cases hstep with
    | skipped | faulty => simpa using h
    | refused _ hcompiled hrendered =>
      -- The recorder accepts what was compiled, so this does not occur.
      rw [render_recorder hcompiled] at hrendered
      cases hrendered
    | drawn _ hcompiled hrendered =>
      rw [render_recorder hcompiled] at hrendered
      cases hrendered
      exact h.drawn hcompiled

theorem loadingAfter_cons (before : Bool) (action : Action) (rest : List Action) :
    loadingAfter before (action :: rest) = loadingAfter (loadingAfter before [action]) rest := by
  cases action <;> rfl

/-- **A run keeps the controller in step.** -/
theorem InStep.run (h : InStep c past loading) (actions : List Action) :
    InStep (run recorder c actions) (past ++ accepted recorder c actions)
      (loadingAfter loading actions) := by
  induction actions generalizing c past loading with
  | nil => simpa [accepted, Controller.run, loadingAfter] using h
  | cons action rest ih =>
    rw [loadingAfter_cons, accepted, ← List.append_assoc]
    exact ih (h.act action)

theorem inStep_run_fresh (actions : List Action) :
    InStep (run recorder fresh actions) (accepted recorder fresh actions)
      (loadingAfter false actions) :=
  inStep_fresh.run actions

/-- What a host shows is decided by loading first, then by the option, then by the text. -/
theorem InStep.view_eq (h : InStep c past loading) :
    c.view =
      if loading then .loading
      else
        match c.option with
        | some o => .ready o
        | none => .empty (emptyTextAfter past) := by
  unfold view View.resolve
  rw [h.loading, h.inputs]
  cases loading with
  | true => rfl
  | false =>
    cases c.option with
    | some o => rfl
    | none =>
      cases hlast : past.getLast? with
      | none => simp [emptyTextAfter, hlast]
      | some last =>
        by_cases hempty : last.props.emptyText = "" <;>
          simp [emptyTextAfter, hlast, hempty, Option.filter]

/-- **Every run of a fresh controller of the recorder.**  The option is the one that the last
accepted inputs call for, the recorder has that option and its number of series, every accepted
update is one compiled chart and one call of the recorder, and what the host shows follows from
the last word on loading, the option and the text of the last accepted inputs. -/
theorem run_fresh_follows_accepted (actions : List Action) :
    let c := run recorder fresh actions
    let past := accepted recorder fresh actions
    IsOptionOf c.option past.getLast? ∧
    (c.renderer.lastOption = c.option ∧
      c.renderer.lastSeriesCount = (c.option.map fun o => o.series.length).getD 0) ∧
    (c.compileCount = c.renderer.setCalls + c.renderer.clearCalls ∧
      c.compileCount = past.length) ∧
    c.view =
      if loadingAfter false actions then .loading
      else
        match c.option with
        | some o => .ready o
        | none => .empty (emptyTextAfter past) := by
  have h := inStep_run_fresh actions
  exact ⟨h.option, ⟨h.lastOption, h.lastSeriesCount⟩, ⟨h.calls, h.compileCount⟩, h.view_eq⟩

end Charting.Controller
