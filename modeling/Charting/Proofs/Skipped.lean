import Charting.Proofs.Runs
import Charting.Proofs.ZeroSign.Compile

/-! # Updates that are skipped

An update is skipped if its inputs give no reason to compile again.  The option that the host
keeps was compiled from earlier inputs, and these need not be the same: samples and properties
are compared as numbers, for which the two zeros are equal, and extensions are compared as a set.

So a skipped update need not leave the very option that its inputs call for, and even the text may
be another one.  But what it leaves differs from that option in the signs of zeros and the order of
extensions and in nothing else, and not at all if the inputs have no zero with a sign and their
extensions come in one order (`Inputs.eq_of_unchanged`).
-/
namespace Charting

open Number
open Json (unsignMember)

/-! ## Inputs that are compared exactly -/

/-- Distinct keys that come in one order leave no choice in the order of members. -/
theorem eq_of_perm_of_keys {as bs : List (String × Json)} (hperm : as.Perm bs)
    (hdistinct : (bs.map (·.1)).Nodup) (hkeys : as.map (·.1) = bs.map (·.1)) : as = bs := by
  refine List.ext_getElem hperm.length_eq fun i ha hb => ?_
  have hmem : as[i] ∈ bs := hperm.subset (List.getElem_mem ha)
  have hkey : as[i].1 = bs[i].1 := by
    have hi := List.getElem_of_eq hkeys (show i < (as.map (·.1)).length by simpa using ha)
    simpa using hi
  exact List.inj_on_of_nodup_map hdistinct hmem (List.getElem_mem hb) hkey

namespace Inputs

/-- No zero in the inputs has a sign, neither as a number nor, in extensions, at the end of a
text. -/
structure SignsNoZero (i : Inputs) : Prop where
  data : i.data.map Data.unsignZeros = i.data
  props : { i.props.unsignZeros with extensions := i.props.extensions } = i.props
  extensions : i.props.extensions.entries.map unsignMember = i.props.extensions.entries

/-- The keys of the extensions, in order. -/
def extensionKeys (i : Inputs) : List String := i.props.extensions.entries.map (·.1)

/-- Without signs on zeros, and with extensions in one order, inputs that give no reason to compile
again are the same. -/
theorem eq_of_unchanged {a b : Inputs} (h : a.unchanged b = true) (ha : a.SignsNoZero)
    (hb : b.SignsNoZero) (hkeys : a.extensionKeys = b.extensionKeys) : a = b := by
  obtain ⟨hfamily, hdata, hprops, hextensions⟩ := unsignZeros_eq_of_unchanged h
  have hsame : a.props.extensions = b.props.extensions := by
    have hperm := Extensions.perm_of_beq hextensions
    rw [ha.extensions, hb.extensions] at hperm
    exact Extensions.eq_of_entries
      (eq_of_perm_of_keys hperm b.props.extensions.distinct hkeys)
  have hprops : a.props = b.props :=
    calc
      a.props = { a.props.unsignZeros with extensions := a.props.extensions } := ha.props.symm
      _ = { b.props.unsignZeros with extensions := b.props.extensions } := by rw [hprops, hsame]
      _ = b.props := hb.props
  have hdata : a.data = b.data := ha.data.symm.trans (hdata.trans hb.data)
  cases a
  cases b
  rw [Inputs.mk.injEq]
  exact ⟨hfamily, hdata, hprops⟩

end Inputs

/-! ## What a skipped update leaves -/

namespace Controller

theorem isCurrent_eq_true_iff {σ : Type} {c : Controller σ} {inputs : Inputs} :
    c.isCurrent inputs = true ↔
      ∃ current, c.inputs = some current ∧ current.unchanged inputs = true := by
  unfold isCurrent
  cases c.inputs <;> simp

/-- A fresh controller takes inputs that compile, and skips others that give no reason to compile
again. -/
theorem update_run_of_unchanged {past inputs : Inputs} {option : Option ChartOption}
    (hcompiled : compile past.family past.data past.props = .ok option)
    (hunchanged : past.unchanged inputs = true) :
    (run recorder fresh [.update past]).option = option ∧
      (run recorder fresh [.update past]).update recorder inputs =
        (.ok false, run recorder fresh [.update past]) := by
  have hfresh : fresh.isCurrent past = false := rfl
  have hafter : (run recorder fresh [.update past]).inputs = some past ∧
      (run recorder fresh [.update past]).option = option := by
    simp [run, act, update, hfresh, hcompiled, render_recorder hcompiled]
  refine ⟨hafter.2, ?_⟩
  rw [update, if_pos (isCurrent_eq_true_iff.mpr ⟨past, hafter.1, hunchanged⟩)]

/-- **The controller agrees with one that compiles at every update.**  If an update succeeds, its
inputs compile, and the controller has the option that comes out up to the signs of zeros and the
order of extensions; it lacks an option exactly if none comes out.  The option is the very one that
comes out if the update is answered `true`, and also if neither its inputs nor those in effect have
a zero with a sign and the extensions of both come in one order. -/
theorem update_agrees_with_compile (actions : List Action) (inputs : Inputs) {answer : Bool}
    {after : Controller Recording}
    (h : (run recorder fresh actions).update recorder inputs = (.ok answer, after)) :
    ∃ result, compile inputs.family inputs.data inputs.props = .ok result ∧
      SameOutcome after.option result ∧
      (answer = true → after.option = result) ∧
      ∀ current, after.inputs = some current → current.SignsNoZero → inputs.SignsNoZero →
        current.extensionKeys = inputs.extensionKeys → after.option = result := by
  have hinStep := inStep_run_fresh actions
  have hstep := step_update recorder (run recorder fresh actions) inputs
  rw [h] at hstep
  cases hstep with
  | drawn _ hcompiled _ =>
    exact ⟨_, hcompiled, .refl _, fun _ => rfl, fun _ _ _ _ _ => rfl⟩
  | skipped hcurrent =>
    obtain ⟨current, hinputs, hunchanged⟩ := isCurrent_eq_true_iff.mp hcurrent
    have hoption := hinStep.option
    rw [← hinStep.inputs, hinputs] at hoption
    obtain ⟨result, hresult, hsame⟩ := compile_unchanged hunchanged hoption
    refine ⟨result, hresult, hsame, fun h => Bool.noConfusion h, ?_⟩
    intro current' hinputs' hcurrent' hnew hkeys
    obtain rfl : current' = current := Option.some.inj (hinputs'.symm.trans hinputs)
    -- Inputs that are the same compile to the same.
    obtain rfl := Inputs.eq_of_unchanged hunchanged hcurrent' hnew hkeys
    exact Except.ok.inj (hoption.symm.trans hresult)

/-- A pie of two slices, the first of them with a given value. -/
def twoSlices (first : Binary64) : Inputs where
  family := .pie
  data := some ⟨["a", "b"], [{ label := "shares", data := [first, 1] }]⟩
  props := {}

theorem compile_twoSlices (first : Binary64) :
    compile (twoSlices first).family (twoSlices first).data (twoSlices first).props =
      .ok (some (Compile.pieOf .pie ["a", "b"] { label := "shares", data := [first, 1] } {}
        (Props.context {}))) :=
  compile_eq_some_iff.mpr
    ⟨Props.validate_eq_ok_iff.mpr Props.isValid_default, .pieOf (Or.inl rfl) rfl (by simp)⟩

/-- The two zeros are equal as samples. -/
theorem twoSlices_unchanged : (twoSlices 0).unchanged (twoSlices (-0)) = true := by decide +kernel

theorem update_agrees_with_compile_twoSlices :
    (run recorder fresh [.update (twoSlices 0)]).update recorder (twoSlices (-0)) =
        (.ok false, run recorder fresh [.update (twoSlices 0)]) ∧
      ∃ result,
        compile (twoSlices (-0)).family (twoSlices (-0)).data (twoSlices (-0)).props =
          .ok result ∧
        SameOutcome (run recorder fresh [.update (twoSlices 0)]).option result := by
  have hskipped := (update_run_of_unchanged (compile_twoSlices 0) twoSlices_unchanged).2
  obtain ⟨result, hresult, hsame, -⟩ := update_agrees_with_compile _ _ hskipped
  exact ⟨hskipped, result, hresult, hsame⟩

/-! ## Updates that leave another text -/

/-- After an update to `past`, an update to `inputs` is skipped and leaves an option with another
text than that of the option that `inputs` call for. -/
def LeavesOtherText (past inputs : Inputs) : Prop :=
  (run recorder fresh [.update past]).update recorder inputs =
      (.ok false, run recorder fresh [.update past]) ∧
    ∃ o o', (run recorder fresh [.update past]).option = some o ∧
      compile inputs.family inputs.data inputs.props = .ok (some o') ∧ o.pretty ≠ o'.pretty

theorem leavesOtherText_of_unchanged {past inputs : Inputs} {o o' : ChartOption}
    (hpast : compile past.family past.data past.props = .ok (some o))
    (hinputs : compile inputs.family inputs.data inputs.props = .ok (some o'))
    (hunchanged : past.unchanged inputs = true)
    (htext : o.toJson.chars .pretty 0 ≠ o'.toJson.chars .pretty 0) :
    LeavesOtherText past inputs := by
  obtain ⟨hoption, hskipped⟩ := update_run_of_unchanged hpast hunchanged
  exact ⟨hskipped, o, o', hoption, hinputs, fun h => htext (String.ofList_injective h)⟩

/-- A gauge with two extensions in a given order. -/
def twoExtensions (first second : String) : Inputs where
  family := .gauge
  data := none
  props := { extensions := .ofMembers [(first, .null), (second, .null)] }

theorem compile_twoExtensions {first second : String}
    (h : (twoExtensions first second).props.IsValid) :
    compile (twoExtensions first second).family (twoExtensions first second).data
        (twoExtensions first second).props =
      .ok (some (Compile.gauge (twoExtensions first second).props
        (twoExtensions first second).props.context)) :=
  compile_eq_some_iff.mpr ⟨Props.validate_eq_ok_iff.mpr h, .gauge⟩

/-- The sign of a zero sample stays what it was, in a number and in the share of a slice, and so
does the order of extensions. -/
theorem skipped_text_ne :
    LeavesOtherText (twoSlices 0) (twoSlices (-0)) ∧
      LeavesOtherText (twoExtensions "a" "b") (twoExtensions "b" "a") := by
  constructor
  · refine leavesOtherText_of_unchanged (compile_twoSlices 0) (compile_twoSlices (-0))
      twoSlices_unchanged ?_
    decide +kernel
  · refine leavesOtherText_of_unchanged (compile_twoExtensions (by decide +kernel))
      (compile_twoExtensions (by decide +kernel)) (by decide +kernel) ?_
    decide +kernel

end Controller
end Charting
