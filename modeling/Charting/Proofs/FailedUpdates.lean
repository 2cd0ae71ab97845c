import Charting.Proofs.Runs

/-! # Updates that fail

An update can fail at two points.  Properties with a fault end it before anything has happened.
A renderer that refuses ends it later, when a chart has been compiled and counted and the renderer
has been told of it.  Neither leaves a trace in what a host asks the controller for, and neither
lets the same inputs pass as known the next time.

What a renderer is told cannot be read off a controller, since any renderer is allowed, one that
forgets everything included.  So updates are run once more with a renderer that keeps a log and
does all else as before (`Renderer.logged`); `Controller.Tells` compares the two.
-/
namespace Charting

variable {σ : Type}

/-! ## Logs -/

/-- What a renderer is told. -/
inductive Renderer.Call where
  | setOption (o : ChartOption)
  | clear

/-- A renderer with a log of what it is told, in order. -/
def Renderer.logged (r : Renderer σ) : Renderer (σ × List Call) where
  setOption o s := ((r.setOption o s.1).1, (r.setOption o s.1).2, s.2 ++ [.setOption o])
  clear s := (r.clear s.1, s.2 ++ [.clear])

namespace Controller

variable {r : Renderer σ} {c after : Controller σ} {inputs : Inputs} {e : ChartError}

/-- The controller with a log beside its renderer. -/
def withLog (c : Controller σ) (log : List Renderer.Call) :
    Controller (σ × List Renderer.Call) :=
  { c with renderer := (c.renderer, log) }

/-- The calls that an update makes: with a log it ends as it ends without, and these calls are
what is new in the log. -/
def Tells (r : Renderer σ) (c : Controller σ) (inputs : Inputs) (calls : List Renderer.Call) :
    Prop :=
  ∀ log, (c.withLog log).update r.logged inputs =
    ((c.update r inputs).1, (c.update r inputs).2.withLog (log ++ calls))

theorem render_logged (r : Renderer σ) (o : ChartOption) (s : σ) (log : List Renderer.Call) :
    render r.logged (some o) (s, log) =
      ((render r (some o) s).1, (render r (some o) s).2, log ++ [.setOption o]) := rfl

theorem tells_of_faulty (changed : c.isCurrent inputs = false)
    (compiled : compile inputs.family inputs.data inputs.props = .error e) :
    c.Tells r inputs [] := by
  intro log
  have hlogged : (c.withLog log).isCurrent inputs = false := changed
  simp [update, changed, hlogged, compiled]

theorem tells_of_refused {o : ChartOption} {s : σ} (changed : c.isCurrent inputs = false)
    (compiled : compile inputs.family inputs.data inputs.props = .ok (some o))
    (rendered : render r (some o) c.renderer = (.error e, s)) :
    c.Tells r inputs [.setOption o] := by
  intro log
  have hlogged : (c.withLog log).isCurrent inputs = false := changed
  have hrendered : render r.logged (some o) (c.withLog log).renderer =
      (.error e, s, log ++ [.setOption o]) := by
    rw [withLog, render_logged, rendered]
  simp only [update, changed, hlogged, compiled, rendered, hrendered, Bool.false_eq_true, if_false]
  rfl

/-! ## What a failed update leaves -/

/-- Everything that a host asks a controller for is the same, apart from the count. -/
structure SameForHost (before after : Controller σ) : Prop where
  inputs : after.inputs = before.inputs
  option : after.option = before.option
  loading : after.loading = before.loading
  view : after.view = before.view

/-- The same inputs are current for controllers with the same inputs, so an answer `false` now
would have been the answer before. -/
theorem fst_update_ne_ok_false (hinputs : after.inputs = c.inputs)
    (changed : c.isCurrent inputs = false) : (after.update r inputs).1 ≠ .ok false := by
  intro hskipped
  have hcurrent := fst_update_eq_ok_false_iff.mp hskipped
  rw [isCurrent, hinputs] at hcurrent
  cases changed.symm.trans hcurrent

/-- **Failed updates are atomic.**  What a host asks for is the same as before, and the same update
once more is not taken for a repetition.  If the properties have a fault, the renderer was told
nothing and nothing at all has changed; else the renderer was told once, of the option that was
compiled, it answered with the error, and one more chart is counted. -/
theorem update_error_atomic (h : c.update r inputs = (.error e, after)) :
    SameForHost c after ∧
    ((∃ fault, inputs.props.validate = .error fault ∧
        compile inputs.family inputs.data inputs.props = .error e ∧ e = .props fault ∧
        c.Tells r inputs [] ∧ after = c) ∨
      (inputs.props.validate = .ok () ∧
        ∃ o, compile inputs.family inputs.data inputs.props = .ok (some o) ∧
          r.setOption o c.renderer = (.error e, after.renderer) ∧
          c.Tells r inputs [.setOption o] ∧ after.compileCount = c.compileCount + 1)) ∧
    (after.update r inputs).1 ≠ .ok false := by
  have hstep := step_update r c inputs
  rw [h] at hstep
  cases hstep with
  | faulty changed compiled =>
    refine ⟨⟨rfl, rfl, rfl, rfl⟩, .inl ?_, fst_update_ne_ok_false rfl changed⟩
    have hfault := compile_eq_error_iff.mp compiled
    cases hvalidate : inputs.props.validate with
    | ok =>
      rw [hvalidate] at hfault
      cases hfault
    | error fault =>
      rw [hvalidate] at hfault
      have he : ChartError.props fault = e := Except.error.inj hfault
      exact ⟨fault, rfl, compiled, he.symm, tells_of_faulty changed compiled, rfl⟩
  | @refused option _ s changed compiled rendered =>
    refine ⟨⟨rfl, rfl, rfl, rfl⟩, .inr ?_, fst_update_ne_ok_false rfl changed⟩
    cases option with
    | none =>
      -- A renderer that is only cleared cannot refuse.
      cases rendered
    | some o =>
      exact ⟨(compile_eq_ok_iff.mp compiled).1, o, compiled, rendered,
        tells_of_refused changed compiled rendered, rfl⟩

/-- A renderer that takes one option and refuses all others; it counts what it is handed. -/
def takingOne : Renderer Nat where
  setOption _ handed := (if handed = 0 then .ok () else .error (.serialization "full"), handed + 1)
  clear handed := handed

/-- A gauge, with data that it does not plot. -/
def gaugeOf (data : Option Data) : Inputs := ⟨.gauge, data, {}⟩

theorem compile_gaugeOf (data : Option Data) :
    compile (gaugeOf data).family (gaugeOf data).data (gaugeOf data).props =
      .ok (some (Compile.gauge {} ({} : Props).context)) :=
  compile_eq_some_iff.mpr ⟨Props.validate_eq_ok_iff.mpr Props.isValid_default, .gauge⟩

/-- A loading controller whose renderer has taken the option of a gauge. -/
def full : Controller Nat :=
  run takingOne { renderer := 0 } [.update (gaugeOf none), .setLoading true]

theorem full_eq :
    full = ⟨1, some (gaugeOf none), some (Compile.gauge {} ({} : Props).context), true, 1⟩ := by
  simp [full, run, act, update, isCurrent, compile_gaugeOf, render, takingOne, setLoading]

theorem update_error_atomic_full :
    ∃ after o, full.option = some o ∧
      full.update takingOne (gaugeOf (some {})) = (.error (.serialization "full"), after) ∧
      SameForHost full after ∧ full.Tells takingOne (gaugeOf (some {})) [.setOption o] ∧
      after.compileCount = 2 := by
  have hchanged : (gaugeOf none).unchanged (gaugeOf (some {})) = false := rfl
  have hupdate : full.update takingOne (gaugeOf (some {})) =
      (.error (.serialization "full"), { full with renderer := 2, compileCount := 2 }) := by
    rw [full_eq]
    simp [update, isCurrent, hchanged, compile_gaugeOf, render, takingOne]
  obtain ⟨hsame, hcause, -⟩ := update_error_atomic hupdate
  rcases hcause with ⟨fault, -, -, hfault, -⟩ | ⟨-, o, ho, -, htells, -⟩
  · cases hfault
  · have hoption : full.option = some o := by
      rw [full_eq]
      exact Except.ok.inj ((compile_gaugeOf _).symm.trans ho)
    exact ⟨_, o, hoption, hupdate, hsame, htells, rfl⟩

end Controller
end Charting
