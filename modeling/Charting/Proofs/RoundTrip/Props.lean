import Charting.Error
import Charting.Proofs.RoundTrip.Parts
import Charting.Proofs.Validation

/-! # Properties that were read can be written and read again

Properties that come from a text are taken from a value that is sorted and not nested too deeply.
They are written in the same depth and keep their values, so that their text is read as the same
properties (`Props.IsRead.parse_pretty`).  A second reading also looks up the colour scheme and
checks the properties once more, with the same outcome.

Equality of properties compares numbers as numbers, and so a NaN would make properties differ from
themselves; but all numbers that are read are finite.
-/
namespace Charting

open Number

/-- Properties that were read, without a fault. -/
structure Props.IsRead (p : Props) : Prop where
  taken : Props.format.Takes Json.depthLimit p
  valid : p.validate = .ok ()

/-! ## Equality of values that were read -/

namespace Format

variable {α : Type}

/-- Every value that is read equals itself. -/
def Reflexive [BEq α] (f : Format α) : Prop := ∀ {depth a}, f.Takes depth a → (a == a) = true

theorem real_reflexive : real.Reflexive := fun taken =>
  Binary64.beq_self_of_isFinite (real_takes_iff.mp taken)

theorem dimension_reflexive : dimension.Reflexive := by
  intro depth d taken
  have hfinite := (isReadable_of_takes taken).finite
  cases d with
  | px length => exact Binary64.beq_self_of_isFinite hfinite
  | percent share => exact Binary64.beq_self_of_isFinite hfinite

theorem optional_reflexive [BEq α] {f : Format α} (hf : f.Reflexive) : f.optional.Reflexive := by
  intro depth a? taken
  cases a? with
  | none => rfl
  | some a => exact hf (takes_of_optional_takes taken)

theorem list_reflexive [BEq α] {f : Format α} (hf : f.Reflexive) : f.list.Reflexive := by
  intro depth as taken
  exact list_beq_self fun a ha => hf (takes_of_list_takes (taken.mono (Nat.le_succ depth)) a ha)

end Format

theorem Switch.format_reflexive {α : Type} [BEq α] {f : Format α} (hf : f.Reflexive) :
    (Switch.format f).Reflexive := by
  intro depth s taken
  cases s with
  | off | on => rfl
  | custom a => exact hf (takes_of_format_takes taken)

section Parts

open Charting.Field Charting.Format

theorem Zone.format_reflexive : Zone.record.format.Reflexive := by
  intro depth z taken
  have h := Zone.record_lawful.taken_of_format_takes Zone.taken_start
    (taken.mono depth.le_succ)
  simp only [Record.Taken, record, List.forall_mem_cons, always_takes_iff] at h
  obtain ⟨hupTo, -⟩ := h
  exact Zone.beq_iff.mpr ⟨real_reflexive hupTo, rfl⟩

theorem GridSettings.format_reflexive : GridSettings.record.format.Reflexive := by
  intro depth s taken
  have h := GridSettings.record_lawful.taken_of_format_takes GridSettings.taken_start
    (taken.mono depth.le_succ)
  simp only [Record.Taken, record, List.forall_mem_cons, always_takes_iff] at h
  obtain ⟨hleft, hright, htop, hbottom, -⟩ := h
  exact GridSettings.beq_iff.mpr ⟨optional_reflexive dimension_reflexive hleft,
    optional_reflexive dimension_reflexive hright, optional_reflexive dimension_reflexive htop,
    optional_reflexive dimension_reflexive hbottom, rfl⟩

theorem BarProps.format_reflexive : BarProps.record.format.Reflexive := by
  intro depth b taken
  have h := BarProps.record_lawful.taken_of_format_takes BarProps.taken_start
    (taken.mono depth.le_succ)
  simp only [Record.Taken, record, List.forall_mem_cons, always_takes_iff] at h
  obtain ⟨-, hwidth, hradius, -⟩ := h
  exact BarProps.beq_iff.mpr
    ⟨rfl, optional_reflexive real_reflexive hwidth, real_reflexive hradius, rfl, rfl⟩

theorem AreaProps.format_reflexive : AreaProps.record.format.Reflexive := by
  intro depth a taken
  have h := AreaProps.record_lawful.taken_of_format_takes AreaProps.taken_start
    (taken.mono depth.le_succ)
  simp only [Record.Taken, record, List.forall_mem_cons, always_takes_iff] at h
  obtain ⟨hopacity, -⟩ := h
  exact AreaProps.beq_iff.mpr ⟨optional_reflexive real_reflexive hopacity, rfl⟩

theorem PieProps.format_reflexive : PieProps.record.format.Reflexive := by
  intro depth p taken
  have h := PieProps.record_lawful.taken_of_format_takes PieProps.taken_start
    (taken.mono depth.le_succ)
  simp only [Record.Taken, record, List.forall_mem_cons, always_takes_iff] at h
  obtain ⟨hinner, houter, -⟩ := h
  exact PieProps.beq_iff.mpr ⟨optional_reflexive dimension_reflexive hinner,
    optional_reflexive dimension_reflexive houter, rfl, rfl, rfl, rfl, rfl⟩

theorem RadarProps.format_reflexive : RadarProps.record.format.Reflexive := by
  intro depth r taken
  have h := RadarProps.record_lawful.taken_of_format_takes RadarProps.taken_start
    (taken.mono depth.le_succ)
  simp only [Record.Taken, record, List.forall_mem_cons, always_takes_iff] at h
  obtain ⟨hmax, -, hopacity, -⟩ := h
  exact RadarProps.beq_iff.mpr
    ⟨optional_reflexive real_reflexive hmax, rfl, optional_reflexive real_reflexive hopacity⟩

theorem ScatterProps.format_reflexive : ScatterProps.record.format.Reflexive := by
  intro depth s taken
  have h := ScatterProps.record_lawful.taken_of_format_takes ScatterProps.taken_start
    (taken.mono depth.le_succ)
  simp only [Record.Taken, record, List.forall_mem_cons, always_takes_iff] at h
  obtain ⟨hsize, -⟩ := h
  exact ScatterProps.beq_iff.mpr (optional_reflexive real_reflexive hsize)

theorem GaugeProps.format_reflexive : GaugeProps.record.format.Reflexive := by
  intro depth g taken
  have h := GaugeProps.record_lawful.taken_of_format_takes GaugeProps.taken_start
    (taken.mono (Nat.le_add_right depth 3))
  simp only [Record.Taken, record, List.forall_mem_cons, always_takes_iff] at h
  obtain ⟨hvalue, hmin, hmax, -, -, hzones, -, -, -, hstart, hend, hwidth, -⟩ := h
  exact GaugeProps.beq_iff.mpr ⟨optional_reflexive real_reflexive hvalue, real_reflexive hmin,
    real_reflexive hmax, rfl, rfl, list_reflexive Zone.format_reflexive hzones, rfl, rfl, rfl,
    real_reflexive hstart, real_reflexive hend, real_reflexive hwidth, rfl, rfl⟩

end Parts

namespace Props

open Charting.Field Charting.Format

variable {text : String} {p : Props}

theorem format_reflexive : format.Reflexive := by
  intro depth p taken
  have h := record_lawful.taken_of_format_takes taken_start (taken.mono (Nat.le_add_right depth 4))
  simp only [Record.Taken, record, List.forall_mem_cons, always_takes_iff] at h
  obtain ⟨-, -, -, -, -, -, hgrid, -, -, -, -, -, -, -, -, -, hwidth, hheight, -, hbar,
    harea, hpie, hradar, hscatter, hgauge, -⟩ := h
  exact beq_iff.mpr ⟨rfl, rfl, rfl, rfl, rfl, rfl,
    Switch.format_reflexive GridSettings.format_reflexive hgrid, rfl, rfl, rfl, rfl, rfl, rfl, rfl,
    rfl, rfl, optional_reflexive dimension_reflexive hwidth,
    optional_reflexive dimension_reflexive hheight, rfl, BarProps.format_reflexive hbar,
    AreaProps.format_reflexive harea, PieProps.format_reflexive hpie,
    RadarProps.format_reflexive hradar, ScatterProps.format_reflexive hscatter,
    GaugeProps.format_reflexive hgauge, p.extensions.beq_refl⟩

/-! ## Reading properties -/

/-- Whether a value is an object that asks for a colour scheme that there is not. -/
def AsksForUnknownScheme (j : Json) : Prop :=
  ∃ name, j.get? "colorScheme" = some (.string name) ∧ Scheme.ofName? name = none

theorem checked_eq_ok_iff {j : Json} :
    (do
      let p ← (format.decode j).mapError ChartError.unreadableProps
      p.validate.mapError ChartError.props
      return p) = .ok p ↔ format.decode j = .ok p ∧ p.validate = .ok () := by
  simp only [bind_eq_ok_iff, mapError_eq_ok_iff]
  constructor
  · rintro ⟨q, hq, _, hvalid, h⟩
    cases h
    exact ⟨hq, hvalid⟩
  · rintro ⟨hp, hvalid⟩
    exact ⟨p, hp, (), hvalid, rfl⟩

/-- Properties are read from the value of a text and pass their checks. -/
theorem parse_eq_ok_iff : parse text = .ok p ↔
    ∃ j, Json.parse text = some j ∧ ¬AsksForUnknownScheme j ∧ format.decode j = .ok p ∧
      p.validate = .ok () := by
  unfold parse
  cases Json.parse text with
  | none => simp
  | some j =>
    simp only [Option.some.injEq, exists_eq_left']
    by_cases hscheme : AsksForUnknownScheme j
    · obtain ⟨name, hname, hnone⟩ := id hscheme
      simp [hscheme, hname, hnone, throw, throwThe, MonadExceptOf.throw, bind, Except.bind]
    · simp only [hscheme, not_false_eq_true, true_and, ← checked_eq_ok_iff]
      cases hget : j.get? "colorScheme" with
      | none => rfl
      | some v =>
        cases v with
        | string name =>
          have hfound : (Scheme.ofName? name).isNone = false := by
            rw [Option.isNone_eq_false_iff, Option.isSome_iff_ne_none]
            exact fun hnone => hscheme ⟨name, hget, hnone⟩
          simp only [hfound, Bool.false_eq_true, if_false]
        | null | bool | number | array | object => rfl

theorem isRead_of_parse (h : parse text = .ok p) : p.IsRead := by
  obtain ⟨j, hj, -, hdecode, hvalid⟩ := parse_eq_ok_iff.mp h
  exact ⟨⟨j, Json.isRead_of_parse hj, hdecode⟩, hvalid⟩

/-- What is written names the scheme of the properties. -/
theorem get?_colorScheme (p : Props) :
    (format.encode p).sortMembers.get? "colorScheme" = some (.string p.scheme.name) := by
  have hkeys : ((record.written p).map (·.1)).Nodup := record_lawful.keys_nodup
  have hwritten : ("colorScheme", Json.string p.scheme.name) ∈ record.written p :=
    List.mem_cons_of_mem _ List.mem_cons_self
  change (Json.object (record.written p)).sortMembers.get? "colorScheme" = _
  rw [Json.get?_sortMembers hkeys, (Json.lookup_eq_some_iff hkeys).mpr hwritten]
  rfl

/-- **Properties that were read are read again from their text.** -/
theorem IsRead.parse_pretty (h : p.IsRead) : parse p.pretty = .ok p := by
  have hreproduces : format.Reproduces Json.depthLimit := format_reproduces
  have hnesting : (format.encode p).nesting ≤ Json.depthLimit := hreproduces.nesting h.taken
  refine parse_eq_ok_iff.mpr ⟨_, Json.parse_pretty hnesting, ?_, ?_, h.valid⟩
  · rintro ⟨name, hname, hnone⟩
    rw [get?_colorScheme, Option.some.injEq, Json.string.injEq] at hname
    rw [← hname, Scheme.ofName?_name] at hnone
    cases hnone
  · exact hreproduces.roundTrips h.taken

/-- **Properties survive a round trip through their text.**  Whatever text they were read from, the
text that is written is read as the same properties; and since no number is a NaN, these are equal
to the first ones also where numbers are compared as numbers. -/
theorem parse_pretty_of_parse (h : parse text = .ok p) :
    parse p.pretty = .ok p ∧ (p == p) = true :=
  ⟨(isRead_of_parse h).parse_pretty, format_reflexive (isRead_of_parse h).taken⟩

/-- A text with a length, a switch, a part given as an array, one of several shapes of a colour, and
free values of which one is nested and one is a negative zero. -/
def mixedText : String :=
  "\x7b\"width\": \"50%\", \"grid\": false, \"bar\": [true, 24], " ++
    "\"gauge\": \x7b\"color\": [\"red\", \"blue\"]\x7d, " ++
    "\"extraOptions\": \x7b\"b\": [1, 1.0, \x7b\"c\": null\x7d], \"a\": -0.0\x7d\x7d"

theorem parse_pretty_of_parse_mixedText :
    ∃ p, parse mixedText = .ok p ∧ parse p.pretty = .ok p ∧ (p == p) = true := by
  have hread : (parse mixedText).toOption.isSome = true := by decide +kernel
  cases h : parse mixedText with
  | error e => rw [h] at hread; cases hread
  | ok p => exact ⟨p, rfl, parse_pretty_of_parse h⟩

end Props
end Charting
