import Charting.ChartOption
import Charting.Proofs.RoundTrip.Format

/-! # How deeply options are nested

The blocks and series of an option are nested in few levels, whatever their values are; how many is
counted part by part.  So it is only the extensions that can make an option deep
(`ChartOption.nesting_toJson_le`).
-/
namespace Charting

open Number

/-! ## Members of objects -/

namespace Json

/-- A member, if it is there, has a value that is nested in some depth. -/
def MemberIn (n : Nat) (m : Option (String × Json)) : Prop := ∀ v ∈ m, v.2.nesting ≤ n

variable {n : Nat} {key : String}

@[simp] theorem memberIn_none : MemberIn n none := nofun

@[simp] theorem memberIn_member {j : Json} : MemberIn n (member key j) ↔ j.nesting ≤ n :=
  forall_mem_member

@[simp] theorem memberIn_memberIf {α : Type} {a? : Option α} {encode : α → Json} :
    MemberIn n (memberIf key a? encode) ↔ ∀ a ∈ a?, (encode a).nesting ≤ n :=
  forall_mem_memberIf

@[simp] theorem memberIn_ite {c : Prop} [Decidable c] {m : Option (String × Json)} :
    MemberIn n (if c then m else none) ↔ (c → MemberIn n m) := by
  split <;> simp [*]

theorem nesting_ofMembers_le_iff {members : List (Option (String × Json))} :
    (ofMembers members).nesting ≤ n + 1 ↔ ∀ m ∈ members, MemberIn n m := by
  rw [ofMembers, nesting_object_le_iff]
  simp only [List.mem_filterMap, id_eq, MemberIn, Option.mem_def]
  constructor
  · exact fun h m hm v hv => h v ⟨m, hm, hv⟩
  · rintro h v ⟨m, hm, hv⟩
    exact h m hm v hv

@[simp] theorem nesting_bool (b : Bool) : (bool b).nesting = 0 := rfl

@[simp] theorem nesting_string (s : String) : (string s).nesting = 0 := rfl

@[simp] theorem nesting_ofNat (m : Nat) : (ofNat m).nesting = 0 := by
  unfold ofNat
  split
  · rfl
  · exact Format.nesting_ofBinary64 _

end Json

attribute [simp] Format.nesting_ofBinary64

@[simp] theorem Format.nesting_dimension (d : Dimension) : (dimension.encode d).nesting = 0 := by
  cases d with
  | px length => exact nesting_ofBinary64 length
  | percent share => rw [dimension_encode_percent, Json.nesting_string]

section Blocks

open Json

variable {n : Nat}

@[simp] theorem Json.nesting_ofStrings (texts : List String) :
    (ofStrings texts).nesting ≤ n + 1 := by
  simp [ofStrings, nesting_array_le_iff]

@[simp] theorem TextStyle.nesting_toJson (s : TextStyle) : s.toJson.nesting ≤ n + 1 := by
  simp [toJson, nesting_ofMembers_le_iff]

@[simp] theorem LineStyle.nesting_toJson (s : LineStyle) : s.toJson.nesting ≤ n + 1 := by
  simp [toJson, nesting_ofMembers_le_iff]

@[simp] theorem Json.nesting_shown (visible : Bool) : (shown visible).nesting ≤ n + 1 := by
  simp [shown, nesting_ofMembers_le_iff]

@[simp] theorem Json.nesting_shownLine (visible : Bool) (style : LineStyle) :
    (shownLine visible style).nesting ≤ n + 2 := by
  simp [shownLine, nesting_ofMembers_le_iff]

@[simp] theorem Title.nesting_toJson (t : Title) : t.toJson.nesting ≤ n + 2 := by
  simp [toJson, nesting_ofMembers_le_iff]

@[simp] theorem Tooltip.nesting_toJson (t : Tooltip) : t.toJson.nesting ≤ n + 2 := by
  simp [toJson, nesting_ofMembers_le_iff]

@[simp] theorem Legend.nesting_toJson (l : Legend) : l.toJson.nesting ≤ n + 2 := by
  simp [toJson, nesting_ofMembers_le_iff]

@[simp] theorem Grid.nesting_toJson (g : Grid) : g.toJson.nesting ≤ n + 1 := by
  simp [toJson, nesting_ofMembers_le_iff]

@[simp] theorem Axis.nesting_toJson (a : Axis) : a.toJson.nesting ≤ n + 3 := by
  simp [toJson, labelJson, nesting_ofMembers_le_iff]

@[simp] theorem RadarFrame.nesting_toJson (f : RadarFrame) : f.toJson.nesting ≤ n + 3 := by
  simp [toJson, Indicator.toJson, nesting_ofMembers_le_iff, nesting_array_le_iff]

@[simp] theorem DataZoom.nesting_toJson (z : DataZoom) : z.toJson.nesting ≤ n + 1 := by
  simp [toJson, nesting_ofMembers_le_iff]

@[simp] theorem Gradient.nesting_toJson (g : Gradient) : g.toJson.nesting ≤ n + 3 := by
  simp [toJson, ColorStop.toJson, nesting_ofMembers_le_iff, nesting_array_le_iff]

@[simp] theorem Fill.nesting_toJson (f : Fill) : f.toJson.nesting ≤ n + 3 := by
  cases f <;> simp [toJson]

end Blocks

/-! ## Series -/

section Series

open Json

variable {n : Nat}

@[simp] theorem Fill.nesting_itemJson (f : Fill) : f.itemJson.nesting ≤ n + 4 := by
  simp [itemJson, nesting_ofMembers_le_iff]

@[simp] theorem AreaStyle.nesting_toJson (a : AreaStyle) : a.toJson.nesting ≤ n + 4 := by
  simp [toJson, nesting_ofMembers_le_iff]

@[simp] theorem Json.nesting_emphasis (focus : String) : (emphasis focus).nesting ≤ n + 1 := by
  simp [emphasis, nesting_ofMembers_le_iff]

theorem LineSeries.memberIn_members (s : LineSeries) : ∀ m ∈ s.members, MemberIn (n + 4) m := by
  simp [members, nesting_array_le_iff]

theorem BarSeries.memberIn_members (s : BarSeries) : ∀ m ∈ s.members, MemberIn (n + 4) m := by
  simp [members, ValueLabel.toJson, Corners.toJson, nesting_array_le_iff, nesting_ofMembers_le_iff]

theorem ScatterSeries.memberIn_members (s : ScatterSeries) :
    ∀ m ∈ s.members, MemberIn (n + 4) m := by
  simp [members, Point.toJson, nesting_array_le_iff]

theorem PieSeries.memberIn_members (s : PieSeries) : ∀ m ∈ s.members, MemberIn (n + 6) m := by
  simp [members, Slice.toJson, SliceLabel.toJson, nesting_array_le_iff, nesting_ofMembers_le_iff]

theorem RadarSeries.memberIn_members (s : RadarSeries) : ∀ m ∈ s.members, MemberIn (n + 6) m := by
  simp [members, itemJson, nesting_array_le_iff, nesting_ofMembers_le_iff]

theorem GaugeSeries.memberIn_members (s : GaugeSeries) : ∀ m ∈ s.members, MemberIn (n + 5) m := by
  simp [members, below, ArcStop.toJson, nesting_array_le_iff, nesting_ofMembers_le_iff]

@[simp] theorem Series.nesting_toJson (s : Series) : s.toJson.nesting ≤ n + 7 := by
  rw [toJson, nesting_ofMembers_le_iff, List.forall_mem_cons]
  refine ⟨by simp, ?_⟩
  cases s with
  | line s => exact s.memberIn_members
  | bar s => exact s.memberIn_members
  | scatter s => exact s.memberIn_members
  | pie s => exact s.memberIn_members
  | radar s => exact s.memberIn_members
  | gauge s => exact s.memberIn_members

end Series

/-! ## Options -/

namespace ChartOption

open Json

/-- **Only the extensions can make an option deep.** -/
theorem nesting_toJson_le {o : ChartOption} {n : Nat}
    (h : ∀ m ∈ o.extensions.entries, m.2.nesting ≤ n + 8) : o.toJson.nesting ≤ n + 9 := by
  have hmembers : ∀ m ∈ o.members, MemberIn (n + 8) m := by
    simp [members, nesting_array_le_iff]
  rw [toJson, nesting_object_le_iff, List.forall_mem_append]
  exact ⟨nesting_object_le_iff.mp (nesting_ofMembers_le_iff.mpr hmembers), h⟩

end ChartOption
end Charting
