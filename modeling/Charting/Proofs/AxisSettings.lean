import Charting.Proofs.Axes

/-! # Settings of an axis

An axis is built plain and set afterwards: it gets a name, room at its ends, lines across the plot,
each of them any number of times and in any order.

`Axis.settled` is an axis with what is asked for in each of the three respects.  A setting is a case
of it that asks for one thing (`set_eq`).  One after the other makes one again, in which the later
one has the first say (`settled_settled`), and so a run of settings is a case of it, too
(`setAll_eq`), and settings that ask for different things may change places (`set_comm`).

`Json.IsAxisAfter` says what a renderer reads afterwards: parts that belong together,
as a name and its place, or the turn of labels and their interval, are there together or not at all.
-/
namespace Charting

open Number

/-- What is set of an axis after it is built. -/
inductive AxisSetter where
  | name
  | boundaryGap
  | splitLines
  deriving DecidableEq

/-- A setting of an axis. -/
inductive AxisSetting where
  | name (name : Option String)
  | boundaryGap (gap : Bool)
  | splitLines (lines : Bool)

namespace AxisSetting

/-- What is set. -/
def setter : AxisSetting → AxisSetter
  | name _ => .name
  | boundaryGap _ => .boundaryGap
  | splitLines _ => .splitLines

/-- The name that is asked for; a missing or empty one asks for nothing. -/
def name? : AxisSetting → Option String
  | name text => text.filter (· ≠ "")
  | boundaryGap _ | splitLines _ => none

/-- The room at the ends that is asked for. -/
def gap? : AxisSetting → Option Bool
  | boundaryGap gap => some gap
  | name _ | splitLines _ => none

/-- The lines across the plot that are asked for. -/
def lines? : AxisSetting → Option Bool
  | splitLines lines => some lines
  | name _ | boundaryGap _ => none

/-- What is asked for last in some respect. -/
def last {α : Type} (asked : AxisSetting → Option α) (settings : List AxisSetting) : Option α :=
  (settings.filterMap asked).getLast?

/-- The members of an axis that settings have a say in. -/
def keys : List String :=
  ["name", "nameLocation", "nameGap", "nameTextStyle", "boundaryGap", "splitLine"]

/-- A name that is not empty is asked for. -/
theorem name?_some (text : String) :
    name? (.name (some text)) = if text = "" then none else some text := by
  by_cases hempty : text = "" <;> simp [name?, Option.filter, hempty]

/-- A setting counts if nothing of the kind follows. -/
theorem last_cons {α : Type} (asked : AxisSetting → Option α) (s : AxisSetting)
    (rest : List AxisSetting) :
    last asked (s :: rest) = (last asked rest).or (asked s) := by
  unfold last
  cases hs : asked s with
  | none => rw [List.filterMap_cons_none hs, Option.or_none]
  | some a =>
    rw [List.filterMap_cons_some hs, List.getLast?_cons]
    cases (rest.filterMap asked).getLast? <;> rfl

end AxisSetting

open AxisSetting (last name? gap? lines?)

/-- Whether an axis has more labels than the target bears. -/
def AxisScale.IsCrowded (profile : Profile) : AxisScale → Prop
  | category labels => profile.rotationThreshold < labels.length
  | value => False

instance (profile : Profile) : DecidablePred (AxisScale.IsCrowded profile)
  | .category labels => inferInstanceAs (Decidable (profile.rotationThreshold < labels.length))
  | .value => inferInstanceAs (Decidable False)

/-- The name of an axis with some text. -/
def AxisScale.titled (scale : AxisScale) (ctx : Context) (text : String) : AxisName :=
  ⟨text, if scale.isValue then 45 else 30, ⟨ctx.theme.axisLabel, ctx.profile.fontSize, false⟩⟩

/-- Parts that are there together or not at all: all that belongs to a name, and the turn of labels
with their interval. -/
structure Json.HasWholeParts (j : Json) (title : Option AxisName) (turn : Option Binary64) :
    Prop where
  name : j.at? ["name"] = title.map fun n => .string n.text
  nameLocation : j.at? ["nameLocation"] = title.map fun _ => .string "middle"
  nameGap : j.at? ["nameGap"] = title.map fun n => .ofBinary64 n.gap
  nameTextStyle : j.at? ["nameTextStyle"] = title.map fun n => n.style.toJson
  rotate : j.at? ["axisLabel", "rotate"] = turn.map .ofBinary64
  interval : j.at? ["axisLabel", "interval"] = turn.map fun _ => .ofNat 0

/-- An axis after settings as a renderer reads it. -/
structure Json.IsAxisAfter (j : Json) (scale : AxisScale) (ctx : Context)
    (settings : List AxisSetting) : Prop where
  /-- A value axis has lines across the plot unless they are turned off, and others have none. -/
  axis : j.IsAxis scale (last name? settings) (last gap? settings)
    (scale.isValue && (last lines? settings).getD true)
  /-- Labels are turned by what the axis is built with, whatever is set. -/
  parts : j.HasWholeParts ((last name? settings).map (scale.titled ctx))
    (if scale.IsCrowded ctx.profile then some ctx.profile.rotationDegrees else none)
  /-- All else is as the axis is built. -/
  kept : ∀ key, key ∉ AxisSetting.keys → j.at? [key] = (Axis.build scale ctx).toJson.at? [key]

namespace Axis

/-- The axis after one setting. -/
def set (a : Axis) (ctx : Context) : AxisSetting → Axis
  | .name name => a.withName name ctx
  | .boundaryGap gap => a.withBoundaryGap gap
  | .splitLines lines => a.withSplitLines lines

/-- The axis after settings, one after the other. -/
def setAll (a : Axis) (ctx : Context) (settings : List AxisSetting) : Axis :=
  settings.foldl (fun a s => a.set ctx s) a

/-- The axis with what is asked for, and with what it has where nothing is. -/
def settled (a : Axis) (ctx : Context) (name : Option String) (gap lines : Option Bool) : Axis :=
  { a with
    name := (name.map (a.scale.titled ctx)).or a.name
    boundaryGap := gap.or a.boundaryGap
    splitLines := (lines.map (· && a.scale.isValue)).getD a.splitLines }

variable (a : Axis) (ctx : Context)

section Settled

variable (name : Option String) (gap lines : Option Bool)

@[simp] theorem scale_settled : (a.settled ctx name gap lines).scale = a.scale := rfl

@[simp] theorem lineColor_settled : (a.settled ctx name gap lines).lineColor = a.lineColor := rfl

@[simp] theorem labelJson_settled : (a.settled ctx name gap lines).labelJson = a.labelJson := rfl

end Settled

/-! ## What settings do -/

/-- What is asked for again takes the place of what was asked for before. -/
theorem settled_settled (name name' : Option String) (gap gap' lines lines' : Option Bool) :
    (a.settled ctx name gap lines).settled ctx name' gap' lines' =
      a.settled ctx (name'.or name) (gap'.or gap) (lines'.or lines) := by
  cases name' <;> cases gap' <;> cases lines' <;> rfl

/-- A setting asks for one thing. -/
theorem set_eq (s : AxisSetting) : a.set ctx s = a.settled ctx s.name? s.gap? s.lines? := by
  cases s with
  | boundaryGap gap | splitLines lines => rfl
  | name text =>
    cases text with
    | none => rfl
    | some text =>
      rw [AxisSetting.name?_some, set, withName]
      split <;> rfl

/-- **Of a run of settings only the last of each kind counts.** -/
theorem setAll_eq (settings : List AxisSetting) :
    a.setAll ctx settings =
      a.settled ctx (last name? settings) (last gap? settings) (last lines? settings) := by
  -- The axis is generalised: the rest of the settings starts from what the first one leaves.
  induction settings generalizing a with
  | nil => rfl
  | cons s rest ih =>
    have hrun : a.setAll ctx (s :: rest) = (a.set ctx s).setAll ctx rest := rfl
    rw [hrun, ih, set_eq, settled_settled, AxisSetting.last_cons, AxisSetting.last_cons,
      AxisSetting.last_cons]

/-- An axis that was just built has only what was asked for, and lines by its scale. -/
theorem setAll_build (scale : AxisScale) (settings : List AxisSetting) :
    (build scale ctx).setAll ctx settings =
      { build scale ctx with
        name := (last name? settings).map (scale.titled ctx)
        boundaryGap := last gap? settings
        splitLines := scale.isValue && (last lines? settings).getD true } := by
  rw [setAll_eq]
  cases last lines? settings with
  | none => simp [settled, build]
  | some lines => simp [settled, build, Bool.and_comm]

/-- Settings of different kinds do not get in each other's way. -/
theorem set_comm {s t : AxisSetting} (h : s.setter ≠ t.setter) :
    (a.set ctx s).set ctx t = (a.set ctx t).set ctx s := by
  rw [set_eq, set_eq, settled_settled, set_eq a, set_eq, settled_settled]
  revert h
  cases s <;> cases t <;> simp [AxisSetting.setter, name?, gap?, lines?]

theorem setAll_swap (settings rest : List AxisSetting) {s t : AxisSetting}
    (h : s.setter ≠ t.setter) :
    a.setAll ctx (settings ++ s :: t :: rest) = a.setAll ctx (settings ++ t :: s :: rest) := by
  simp only [setAll, List.foldl_append, List.foldl_cons, set_comm _ ctx h]

/-! ## What a renderer reads -/

theorem rotationFor_eq (profile : Profile) (scale : AxisScale) :
    rotationFor profile scale =
      if scale.IsCrowded profile then some profile.rotationDegrees else none := by
  cases scale with
  | category labels => rfl
  | value => rfl

theorem hasWholeParts_toJson : a.toJson.HasWholeParts a.name a.rotation := by
  constructor <;> simp [toJson, labelJson]

/-- Settings leave the members alone that they have no say in. -/
theorem at?_toJson_setAll (settings : List AxisSetting) {key : String}
    (h : key ∉ AxisSetting.keys) :
    (a.setAll ctx settings).toJson.at? [key] = a.toJson.at? [key] := by
  simp only [AxisSetting.keys, List.mem_cons, not_or] at h
  obtain ⟨hname, hlocation, hgap, hstyle, hboundary, hlines, -⟩ := h
  rw [setAll_eq, toJson, toJson, scale_settled, lineColor_settled, labelJson_settled]
  simp [Ne.symm hname, Ne.symm hlocation, Ne.symm hgap, Ne.symm hstyle, Ne.symm hboundary,
    Ne.symm hlines]

theorem isAxisAfter_setAll (scale : AxisScale) (settings : List AxisSetting) :
    ((build scale ctx).setAll ctx settings).toJson.IsAxisAfter scale ctx settings := by
  constructor
  case axis =>
    have h := ((build scale ctx).setAll ctx settings).isAxis_toJson
    have htext : ∀ name : Option String,
        (name.map (scale.titled ctx)).map (·.text) = name := by
      intro name
      cases name <;> rfl
    rw [setAll_build] at h ⊢
    rwa [htext] at h
  case parts =>
    rw [setAll_build, ← rotationFor_eq]
    exact hasWholeParts_toJson _
  case kept => exact fun key hkey => at?_toJson_setAll _ ctx settings hkey

end Axis
end Charting
