import Charting.Proofs.Finite.Json

/-! # The numbers of an option

`ChartOption.numbers` lists the numbers that an option holds, block by block and series by series.
They are the only ones that could fail to be written: every other number is the same in all options,
and finite.  So an option with finite numbers is written without `null`, its extensions aside
(`ChartOption.memberNullFree_members`).
-/
namespace Charting

open Number
open Json (MemberNullFree)

namespace Number

/-! ## Finite numbers -/

/-- None of the numbers is infinite or a NaN. -/
def AllFinite (xs : List Binary64) : Prop := ∀ x ∈ xs, x.isFinite = true

section

variable {α : Type} {x : Binary64} {x? : Option Binary64} {xs ys : List Binary64}
  {as : List α}

@[simp] theorem allFinite_nil : AllFinite [] := List.forall_mem_nil _

@[simp] theorem allFinite_cons : AllFinite (x :: xs) ↔ x.isFinite = true ∧ AllFinite xs :=
  List.forall_mem_cons

@[simp] theorem allFinite_append : AllFinite (xs ++ ys) ↔ AllFinite xs ∧ AllFinite ys :=
  List.forall_mem_append

@[simp] theorem allFinite_toList : AllFinite x?.toList ↔ ∀ x ∈ x?, x.isFinite = true := by
  simp [AllFinite]

@[simp] theorem allFinite_map {f : α → Binary64} :
    AllFinite (as.map f) ↔ ∀ a ∈ as, (f a).isFinite = true :=
  List.forall_mem_map

@[simp] theorem allFinite_flatMap {f : α → List Binary64} :
    AllFinite (as.flatMap f) ↔ ∀ a ∈ as, AllFinite (f a) := by
  simp only [AllFinite, List.mem_flatMap, forall_exists_index, and_imp]
  exact forall_comm.trans (forall_congr' fun a => forall_comm)

end

end Number

/-! ## Blocks -/

def TextStyle.numbers (s : TextStyle) : List Binary64 := [s.fontSize]

def LineStyle.numbers (s : LineStyle) : List Binary64 := s.width.toList

def Title.numbers (t : Title) : List Binary64 := t.textStyle.numbers

def Tooltip.numbers (t : Tooltip) : List Binary64 := t.textStyle.numbers

def Legend.numbers (l : Legend) : List Binary64 := l.itemGap :: l.textStyle.numbers

def Grid.numbers (g : Grid) : List Binary64 :=
  [g.left, g.right, g.top, g.bottom].map Dimension.number

def AxisName.numbers (n : AxisName) : List Binary64 := n.gap :: n.style.numbers

def Axis.numbers (a : Axis) : List Binary64 :=
  a.name.toList.flatMap AxisName.numbers ++ a.labelStyle.numbers ++ a.rotation.toList

def RadarFrame.numbers (f : RadarFrame) : List Binary64 :=
  f.indicators.map (·.max) ++ f.nameStyle.numbers

@[simp] theorem TextStyle.nullFree_toJson_iff {s : TextStyle} :
    s.toJson.NullFree ↔ AllFinite s.numbers := by
  simp [toJson, numbers]

@[simp] theorem LineStyle.nullFree_toJson_iff {s : LineStyle} :
    s.toJson.NullFree ↔ AllFinite s.numbers := by
  simp [toJson, numbers]

@[simp] theorem Json.nullFree_shown (visible : Bool) : (shown visible).NullFree := by
  simp [shown]

@[simp] theorem Json.nullFree_shownLine_iff {visible : Bool} {style : LineStyle} :
    (shownLine visible style).NullFree ↔ AllFinite style.numbers := by
  simp [shownLine]

@[simp] theorem Title.nullFree_toJson_iff {t : Title} :
    t.toJson.NullFree ↔ AllFinite t.numbers := by
  simp [toJson, numbers]

@[simp] theorem Tooltip.nullFree_toJson_iff {t : Tooltip} :
    t.toJson.NullFree ↔ AllFinite t.numbers := by
  simp (disch := decide) [toJson, numbers]

@[simp] theorem Legend.nullFree_toJson_iff {l : Legend} :
    l.toJson.NullFree ↔ AllFinite l.numbers := by
  simp (disch := decide) [toJson, numbers, and_comm]

/-- A share is written with its unit, as a text; only a length in pixels is written as a number. -/
theorem Format.nullFree_dimension {d : Dimension} (h : d.number.isFinite = true) :
    (dimension.encode d).NullFree := by
  cases d with
  | px length => exact Json.nullFree_ofBinary64_iff.mpr h
  | percent share =>
    rw [dimension_encode_percent]
    exact .string _

theorem Grid.nullFree_toJson {g : Grid} (h : AllFinite g.numbers) : g.toJson.NullFree := by
  simp only [numbers, List.map_cons, List.map_nil, allFinite_cons] at h
  obtain ⟨hleft, hright, htop, hbottom, -⟩ := h
  simp [toJson, Format.nullFree_dimension hleft, Format.nullFree_dimension hright,
    Format.nullFree_dimension htop, Format.nullFree_dimension hbottom]

@[simp] theorem Axis.nullFree_toJson_iff {a : Axis} : a.toJson.NullFree ↔ AllFinite a.numbers := by
  have hzero : (Json.ofNat 0).NullFree := Json.nullFree_ofNat (by decide)
  simp [toJson, labelJson, numbers, AxisName.numbers, TextStyle.numbers, LineStyle.numbers, hzero,
    imp_and, forall_and, and_assoc]

@[simp] theorem DataZoom.nullFree_toJson (z : DataZoom) : z.toJson.NullFree := by
  have hzero : (Json.ofNat 0).NullFree := Json.nullFree_ofNat (by decide)
  simp (disch := decide) [toJson, hzero]

@[simp] theorem RadarFrame.nullFree_toJson_iff {f : RadarFrame} :
    f.toJson.NullFree ↔ AllFinite f.numbers := by
  have hradius : (Format.dimension.encode radius).NullFree :=
    Format.nullFree_dimension (Binary64.isFinite_literal 65 (by decide))
  simp [toJson, numbers, Indicator.toJson, LineStyle.numbers, hradius]

@[simp] theorem Gradient.nullFree_toJson (g : Gradient) : g.toJson.NullFree := by
  cases hdirection : g.direction <;>
    simp (disch := decide) [toJson, ColorStop.toJson, stops, corner, hdirection]

@[simp] theorem Fill.nullFree_toJson (f : Fill) : f.toJson.NullFree := by
  cases f <;> simp [toJson]

/-! ## Series -/

def AreaStyle.numbers (a : AreaStyle) : List Binary64 := [a.opacity]

def Corners.numbers (c : Corners) : List Binary64 :=
  [c.topLeft, c.topRight, c.bottomRight, c.bottomLeft]

def LineSeries.numbers (s : LineSeries) : List Binary64 :=
  s.data ++ [s.symbolSize, s.width] ++ s.area.toList.flatMap AreaStyle.numbers

def BarSeries.numbers (s : BarSeries) : List Binary64 :=
  s.data ++ [s.maxWidth] ++ s.corners.numbers ++ s.label.toList.map (·.fontSize)

def ScatterSeries.numbers (s : ScatterSeries) : List Binary64 :=
  s.data.flatMap (fun p => [p.x, p.y]) ++ [s.symbolSize]

def PieSeries.numbers (s : PieSeries) : List Binary64 :=
  [s.innerRadius, s.outerRadius].map Dimension.number ++ s.slices.map (·.value) ++
    s.labelStyle.numbers

def RadarSeries.numbers (s : RadarSeries) : List Binary64 :=
  s.values ++ [s.symbolSize, s.width, s.opacity]

/-- The scale is labelled at some distance from the arc, which is a number of its own. -/
def GaugeSeries.numbers (s : GaugeSeries) : List Binary64 :=
  [s.min, s.max, s.startAngle, s.endAngle, s.value, s.arcWidth, s.arcWidth + 8] ++
    s.stops.map (·.offset) ++ s.scaleStyle.numbers ++ s.valueStyle.numbers

def Series.numbers : Series → List Binary64
  | line s => s.numbers
  | bar s => s.numbers
  | scatter s => s.numbers
  | pie s => s.numbers
  | radar s => s.numbers
  | gauge s => s.numbers

@[simp] theorem Fill.nullFree_itemJson (f : Fill) : f.itemJson.NullFree := by
  simp [itemJson]

@[simp] theorem Json.nullFree_emphasis (focus : String) : (emphasis focus).NullFree := by
  simp [emphasis]

@[simp] theorem AreaStyle.nullFree_toJson_iff {a : AreaStyle} :
    a.toJson.NullFree ↔ AllFinite a.numbers := by
  simp [toJson, numbers]

@[simp] theorem Corners.nullFree_toJson_iff {c : Corners} :
    c.toJson.NullFree ↔ AllFinite c.numbers := by
  simp [toJson, numbers]

/-- Samples are written one by one. -/
theorem Json.nullFree_samples {samples : List Binary64} (h : AllFinite samples) :
    (array (samples.map ofBinary64)).NullFree :=
  .array (List.forall_mem_map.mpr fun x hx => nullFree_ofBinary64_iff.mpr (h x hx))

theorem LineSeries.memberNullFree_members {s : LineSeries} (h : AllFinite s.numbers) :
    ∀ m ∈ s.members, MemberNullFree m := by
  simp only [numbers, allFinite_append, allFinite_cons] at h
  obtain ⟨⟨hdata, hsize, hwidth, -⟩, harea⟩ := h
  have hline : AllFinite (LineStyle.numbers { color := s.color, width := some s.width }) := by
    simpa [LineStyle.numbers] using hwidth
  simpa [members, Json.nullFree_samples hdata, hsize, hline] using harea

theorem BarSeries.memberNullFree_members {s : BarSeries} (h : AllFinite s.numbers) :
    ∀ m ∈ s.members, MemberNullFree m := by
  simp only [numbers, allFinite_append, allFinite_cons] at h
  obtain ⟨⟨⟨hdata, hwidth, -⟩, hcorners⟩, hlabel⟩ := h
  simpa [members, Json.nullFree_samples hdata, hwidth, hcorners, ValueLabel.toJson] using hlabel

theorem ScatterSeries.memberNullFree_members {s : ScatterSeries} (h : AllFinite s.numbers) :
    ∀ m ∈ s.members, MemberNullFree m := by
  simp only [numbers, allFinite_append, allFinite_cons] at h
  obtain ⟨hpoints, hsize, -⟩ := h
  simpa [members, Point.toJson, hsize] using hpoints

theorem PieSeries.memberNullFree_members {s : PieSeries} (h : AllFinite s.numbers) :
    ∀ m ∈ s.members, MemberNullFree m := by
  simp only [numbers, allFinite_append, List.map_cons, allFinite_cons, List.map_nil,
    TextStyle.numbers] at h
  obtain ⟨⟨⟨hinner, houter, -⟩, hvalues⟩, hlabel, -⟩ := h
  have hcenter : (Format.dimension.encode (.percent 50)).NullFree :=
    Format.nullFree_dimension (Binary64.isFinite_literal 50 (by decide))
  have hslices : ∀ slice ∈ s.slices, slice.toJson.NullFree := by
    intro slice hslice
    simp [Slice.toJson, SliceLabel.toJson, allFinite_map.mp hvalues slice hslice]
  simpa (disch := decide) [members, center, hcenter, hlabel, Format.nullFree_dimension hinner,
    Format.nullFree_dimension houter] using hslices

theorem RadarSeries.memberNullFree_members {s : RadarSeries} (h : AllFinite s.numbers) :
    ∀ m ∈ s.members, MemberNullFree m := by
  simp only [numbers, allFinite_append, allFinite_cons] at h
  obtain ⟨hvalues, hsize, hwidth, hopacity, -⟩ := h
  have hline : AllFinite (LineStyle.numbers { color := s.color, width := some s.width }) := by
    simpa [LineStyle.numbers] using hwidth
  simp [members, itemJson, Json.nullFree_samples hvalues, hsize, hline, AreaStyle.numbers, hopacity]

theorem GaugeSeries.nullFree_below {percent : Binary64} (h : percent.isFinite = true) :
    (below percent).NullFree := by
  have hzero : (Format.dimension.encode (.percent 0)).NullFree :=
    Format.nullFree_dimension (Binary64.isFinite_literal 0 (by decide))
  have hpercent : (Format.dimension.encode (.percent percent)).NullFree :=
    Format.nullFree_dimension h
  simp [below, hzero, hpercent]

theorem GaugeSeries.memberNullFree_members {s : GaugeSeries} (h : AllFinite s.numbers) :
    ∀ m ∈ s.members, MemberNullFree m := by
  simp only [numbers, allFinite_append, allFinite_cons] at h
  obtain ⟨⟨⟨⟨hmin, hmax, hstart, hend, hvalue, hwidth, hdistance, -⟩, hstops⟩, hscale⟩, hstyle⟩ := h
  have hcount : (Json.ofNat s.splitNumber.toNat).NullFree := by
    have hlt := s.splitNumber.toNat_lt
    exact Json.nullFree_ofNat ⟨by omega, by omega⟩
  have hlength : (Format.dimension.encode (.percent 60)).NullFree :=
    Format.nullFree_dimension (Binary64.isFinite_literal 60 (by decide))
  have hvaluePlace : (below 40).NullFree :=
    nullFree_below (Binary64.isFinite_literal 40 (by decide))
  have hnamePlace : (below 70).NullFree :=
    nullFree_below (Binary64.isFinite_literal 70 (by decide))
  have harc : ∀ stop ∈ s.stops, stop.toJson.NullFree := by
    intro stop hstop
    simp [ArcStop.toJson, allFinite_map.mp hstops stop hstop]
  simp only [TextStyle.numbers, allFinite_cons, allFinite_nil, and_true] at hscale hstyle
  simpa (disch := decide) [members, hmin, hmax, hstart, hend, hvalue, hwidth, hdistance, hscale,
    hstyle, hcount, hlength, hvaluePlace, hnamePlace, TextStyle.numbers] using harc

theorem Series.nullFree_toJson {s : Series} (h : AllFinite s.numbers) : s.toJson.NullFree := by
  rw [toJson, Json.nullFree_ofMembers_iff, List.forall_mem_cons]
  refine ⟨by simp, ?_⟩
  cases s with
  | line s => exact s.memberNullFree_members h
  | bar s => exact s.memberNullFree_members h
  | scatter s => exact s.memberNullFree_members h
  | pie s => exact s.memberNullFree_members h
  | radar s => exact s.memberNullFree_members h
  | gauge s => exact s.memberNullFree_members h

/-! ## Options -/

namespace ChartOption

/-- The numbers of all blocks and series. -/
def numbers (o : ChartOption) : List Binary64 :=
  o.textStyle.numbers ++ o.title.toList.flatMap Title.numbers ++
    o.tooltip.toList.flatMap Tooltip.numbers ++ o.legend.toList.flatMap Legend.numbers ++
    o.grid.toList.flatMap Grid.numbers ++ o.xAxis.toList.flatMap Axis.numbers ++
    o.yAxis.toList.flatMap Axis.numbers ++ o.radar.toList.flatMap RadarFrame.numbers ++
    o.series.flatMap Series.numbers

variable {o : ChartOption}

theorem allFinite_numbers_iff : AllFinite o.numbers ↔ AllFinite o.textStyle.numbers ∧
    (∀ t ∈ o.title, AllFinite t.numbers) ∧ (∀ t ∈ o.tooltip, AllFinite t.numbers) ∧
    (∀ l ∈ o.legend, AllFinite l.numbers) ∧ (∀ g ∈ o.grid, AllFinite g.numbers) ∧
    (∀ a ∈ o.xAxis, AllFinite a.numbers) ∧ (∀ a ∈ o.yAxis, AllFinite a.numbers) ∧
    (∀ f ∈ o.radar, AllFinite f.numbers) ∧ ∀ s ∈ o.series, AllFinite s.numbers := by
  simp only [numbers, allFinite_append, allFinite_flatMap, Option.mem_toList, Option.mem_def,
    and_assoc]

/-- **Finite numbers are written without `null`.** -/
theorem memberNullFree_members (h : AllFinite o.numbers) : ∀ m ∈ o.members, MemberNullFree m := by
  obtain ⟨hstyle, htitle, htooltip, hlegend, hgrid, hx, hy, hradar, hseries⟩ :=
    allFinite_numbers_iff.mp h
  have hgrid : ∀ g ∈ o.grid, g.toJson.NullFree := fun g hg => Grid.nullFree_toJson (hgrid g hg)
  have hseries : ∀ s ∈ o.series, s.toJson.NullFree :=
    fun s hs => Series.nullFree_toJson (hseries s hs)
  simp only [members, List.forall_mem_cons, Json.memberNullFree_member,
    Json.memberNullFree_memberIf, TextStyle.nullFree_toJson_iff, Title.nullFree_toJson_iff,
    Tooltip.nullFree_toJson_iff, Legend.nullFree_toJson_iff, Axis.nullFree_toJson_iff,
    RadarFrame.nullFree_toJson_iff]
  refine ⟨Json.nullFree_ofStrings _, .string _, .bool _, hstyle, htitle, htooltip, hlegend, hgrid,
    hx, hy, hradar, ?_, .array (List.forall_mem_map.mpr hseries), List.forall_mem_nil _⟩
  intro zooms _
  exact .array (List.forall_mem_map.mpr fun z _ => z.nullFree_toJson)

end ChartOption
end Charting
