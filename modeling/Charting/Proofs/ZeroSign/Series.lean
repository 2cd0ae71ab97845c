import Charting.Proofs.ZeroSign.Inputs
import Charting.Series

/-! # Series up to the sign of zeros

A dataset without signs on its zeros, drawn with settings without signs on theirs, becomes the
same series up to the sign of zeros (`Series.unsignZeros_toJson_ofDataset`), whatever its family.

The numbers of a series pass through bounds, sums, differences and quotients before they are
written, and none of these brings a sign back into view.  The one quotient that could do so, a
place on the arc of a gauge, is only taken if the arc has a length.
-/
namespace Charting

open Number
open Json (member memberIf unsignMember)

/-! ## Numbers and lengths with a default -/

section

variable (x : Option Binary64) (l : Option Dimension)

@[simp] theorem unsignZero_getD_map (default : Binary64) :
    ((x.map Binary64.unsignZero).getD default).unsignZero = (x.getD default).unsignZero := by
  cases x with
  | none => rfl
  | some a => exact a.unsignZero_unsignZero

@[simp] theorem Dimension.unsignZeros_encode_getD_map (default : Dimension) :
    (Format.dimension.encode ((l.map Dimension.unsignZero).getD default)).unsignZeros =
      (Format.dimension.encode (l.getD default)).unsignZeros := by
  cases l with
  | none => rfl
  | some d => exact unsignZeros_encode_dimension d

end

/-! ## Settings -/

namespace SeriesStyle

open Binary64 (isNegative_ofDecimal unsignZero_eq_self unsignZero_literal)

/-- The settings with no sign on any zero. -/
def unsignZeros (s : SeriesStyle) : SeriesStyle :=
  { s with
    areaOpacity := s.areaOpacity.unsignZero
    barMaxWidth := s.barMaxWidth.unsignZero
    barBorderRadius := s.barBorderRadius.unsignZero
    scatterSymbolSize := s.scatterSymbolSize.unsignZero
    radarFillOpacity := s.radarFillOpacity.unsignZero
    pieInnerRadius := s.pieInnerRadius.map Dimension.unsignZero
    pieOuterRadius := s.pieOuterRadius.unsignZero
    gauge := s.gauge.unsignZeros }

/-- No default is a zero with a sign, so the sign may be taken away before or after the defaults
are filled in. -/
theorem ofProps_unsignZeros (p : Props) (ctx : Context) :
    ofProps p.unsignZeros ctx = (ofProps p ctx).unsignZeros := by
  have hgetD {x : Option Binary64} {default : Binary64} (h : default.unsignZero = default) :
      (x.map Binary64.unsignZero).getD default = (x.getD default).unsignZero := by
    cases x with
    | none => exact h.symm
    | some a => rfl
  have hradius : (p.pie.outerRadius.map Dimension.unsignZero).getD defaultPieOuterRadius =
      (p.pie.outerRadius.getD defaultPieOuterRadius).unsignZero := by
    cases p.pie.outerRadius with
    | none => exact congrArg Dimension.percent (unsignZero_literal _).symm
    | some d => rfl
  have hwidth : maxBarWidth.unsignZero = maxBarWidth := unsignZero_literal _
  have hsize : defaultScatterSymbolSize.unsignZero = defaultScatterSymbolSize :=
    unsignZero_literal _
  have hopacity : defaultAreaOpacity.unsignZero = defaultAreaOpacity := by
    unfold defaultAreaOpacity
    exact unsignZero_eq_self (isNegative_ofDecimal false 3 _)
  simp only [ofProps, unsignZeros, Props.unsignZeros, AreaProps.unsignZeros, BarProps.unsignZeros,
    ScatterProps.unsignZeros, RadarProps.unsignZeros, PieProps.unsignZeros, hradius,
    hgetD hopacity, hgetD hwidth, hgetD hsize]

theorem unsignZero_visibleAreaOpacity (s : SeriesStyle) :
    s.unsignZeros.visibleAreaOpacity.unsignZero = s.visibleAreaOpacity.unsignZero := by
  simp only [visibleAreaOpacity, unsignZeros, Binary64.isFinite_unsignZero,
    Binary64.lt_unsignZero_iff]
  split
  · exact Binary64.unsignZero_min s.areaOpacity 1
  · rfl

end SeriesStyle

/-! ## Samples -/

/-- What is written of a list does not depend on a change of its items that is not seen in any of
them. -/
theorem map_mapIdx_map {α β γ : Type} {f f' : Nat → α → β} {change : α → α} {write : β → γ}
    (h : ∀ i a, write (f' i (change a)) = write (f i a)) (as : List α) :
    ((as.map change).mapIdx f').map write = (as.mapIdx f).map write := by
  refine List.ext_getElem? fun i => ?_
  simp only [List.getElem?_map, List.getElem?_mapIdx, Option.map_map]
  cases as[i]? with
  | none => rfl
  | some a => exact congrArg some (h i a)

namespace Dataset

variable (d : Dataset) (labels : List String)

@[simp] theorem plotted_unsignZeros :
    d.unsignZeros.plotted labels = (d.plotted labels).map Binary64.unsignZero := by
  unfold plotted
  split
  · rfl
  · exact List.map_take.symm

end Dataset

namespace Percent

variable (xs : List Binary64)

theorem unsignZero_foldl_add {a b : Binary64} (h : a.unsignZero = b.unsignZero) :
    ((xs.map Binary64.unsignZero).foldl (· + ·) a).unsignZero =
      (xs.foldl (· + ·) b).unsignZero := by
  induction xs generalizing a b with
  | nil => exact h
  | cons x xs ih =>
    -- The sums so far may be two zeros; what is added to them does not see which.
    refine ih ?_
    rw [← Binary64.unsignZero_add_left, h, Binary64.unsignZero_add_left,
      Binary64.unsignZero_add_right]

/-- Totals are the same up to the sign of zero. -/
theorem unsignZero_finiteTotal :
    (finiteTotal (xs.map Binary64.unsignZero)).unsignZero = (finiteTotal xs).unsignZero := by
  have hfinite : (xs.map Binary64.unsignZero).filter Binary64.isFinite =
      (xs.filter Binary64.isFinite).map Binary64.unsignZero := by
    simp [List.filter_map, Function.comp_def]
  rw [finiteTotal, finiteTotal, hfinite]
  exact unsignZero_foldl_add _ rfl

end Percent

/-! ## Numbers of series

A series may get other numbers as long as only the signs of zeros differ. -/

@[simp] theorem Json.unsignZeros_numbers (xs : List Binary64) :
    (array (xs.map ofBinary64)).unsignZeros =
      array ((xs.map Binary64.unsignZero).map ofBinary64) := by
  simp [Function.comp_def]

theorem LineSeries.unsignZeros_members (s : LineSeries) {data : List Binary64} {width : Binary64}
    {area : Option AreaStyle}
    (hdata : data.map Binary64.unsignZero = s.data.map Binary64.unsignZero)
    (hwidth : width.unsignZero = s.width.unsignZero)
    (harea : area.map (fun a => a.toJson.unsignZeros) =
      s.area.map (fun a => a.toJson.unsignZeros)) :
    ({ s with data := data, width := width, area := area }).members.map (Option.map unsignMember) =
      s.members.map (Option.map unsignMember) := by
  simp only [members, LineStyle.toJson, List.map_cons, List.map_nil, Json.map_unsignMember_member,
    Json.map_unsignMember_memberIf, Json.unsignZeros_ofMembers, Json.unsignZeros_numbers,
    Json.unsignZeros_ofBinary64, Option.map_some, hdata, hwidth, harea]

theorem BarSeries.unsignZeros_members (s : BarSeries) {data : List Binary64} {maxWidth : Binary64}
    {corners : Corners}
    (hdata : data.map Binary64.unsignZero = s.data.map Binary64.unsignZero)
    (hwidth : maxWidth.unsignZero = s.maxWidth.unsignZero)
    (hcorners : corners.toJson.unsignZeros = s.corners.toJson.unsignZeros) :
    ({ s with data := data, maxWidth := maxWidth, corners := corners }).members.map
        (Option.map unsignMember) =
      s.members.map (Option.map unsignMember) := by
  simp only [members, List.map_cons, List.map_nil, Json.map_unsignMember_member,
    Json.unsignZeros_ofMembers, Json.unsignZeros_numbers, Json.unsignZeros_ofBinary64, hdata,
    hwidth, hcorners]

theorem ScatterSeries.unsignZeros_members (s : ScatterSeries) {data : List Point}
    {symbolSize : Binary64}
    (hdata : data.map (fun p => p.toJson.unsignZeros) =
      s.data.map (fun p => p.toJson.unsignZeros))
    (hsize : symbolSize.unsignZero = s.symbolSize.unsignZero) :
    ({ s with data := data, symbolSize := symbolSize }).members.map (Option.map unsignMember) =
      s.members.map (Option.map unsignMember) := by
  simp only [members, List.map_cons, List.map_nil, Json.map_unsignMember_member,
    Json.unsignZeros_array, List.map_map, Function.comp_def, Json.unsignZeros_ofBinary64, hdata,
    hsize]

theorem RadarSeries.unsignZeros_members (s : RadarSeries) {values : List Binary64}
    {width opacity : Binary64}
    (hvalues : values.map Binary64.unsignZero = s.values.map Binary64.unsignZero)
    (hwidth : width.unsignZero = s.width.unsignZero)
    (hopacity : opacity.unsignZero = s.opacity.unsignZero) :
    ({ s with values := values, width := width, opacity := opacity }).members.map
        (Option.map unsignMember) =
      s.members.map (Option.map unsignMember) := by
  have hitem :
      ({ s with values := values, width := width, opacity := opacity }).itemJson.unsignZeros =
        s.itemJson.unsignZeros := by
    simp only [itemJson, LineStyle.toJson, AreaStyle.toJson, List.map_cons, List.map_nil,
      Json.map_unsignMember_member, Json.map_unsignMember_memberIf, Json.unsignZeros_ofMembers,
      Json.unsignZeros_numbers, Json.unsignZeros_ofBinary64, Option.map_some, hvalues, hwidth,
      hopacity]
  simp only [members, List.map_cons, List.map_nil, Json.map_unsignMember_member,
    Json.unsignZeros_array, hitem]

theorem PieSeries.unsignZeros_members (s : PieSeries) {inner outer : Dimension}
    {slices : List Slice}
    (hinner : (Format.dimension.encode inner).unsignZeros =
      (Format.dimension.encode s.innerRadius).unsignZeros)
    (houter : (Format.dimension.encode outer).unsignZeros =
      (Format.dimension.encode s.outerRadius).unsignZeros)
    (hslices : slices.map (fun s => s.toJson.unsignZeros) =
      s.slices.map (fun s => s.toJson.unsignZeros)) :
    ({ s with innerRadius := inner, outerRadius := outer, slices := slices }).members.map
        (Option.map unsignMember) =
      s.members.map (Option.map unsignMember) := by
  simp only [members, List.map_cons, List.map_nil, Json.map_unsignMember_member,
    Json.unsignZeros_array, List.map_map, Function.comp_def, hinner, houter, hslices]

theorem GaugeSeries.unsignZeros_members (s : GaugeSeries)
    {min max startAngle endAngle value arcWidth : Binary64} {stops : List ArcStop}
    (hmin : min.unsignZero = s.min.unsignZero) (hmax : max.unsignZero = s.max.unsignZero)
    (hstart : startAngle.unsignZero = s.startAngle.unsignZero)
    (hend : endAngle.unsignZero = s.endAngle.unsignZero)
    (hvalue : value.unsignZero = s.value.unsignZero)
    (harc : arcWidth.unsignZero = s.arcWidth.unsignZero)
    (hstops : stops.map (fun s => s.toJson.unsignZeros) =
      s.stops.map (fun s => s.toJson.unsignZeros)) :
    ({ s with
        min := min
        max := max
        startAngle := startAngle
        endAngle := endAngle
        value := value
        arcWidth := arcWidth
        stops := stops }).members.map (Option.map unsignMember) =
      s.members.map (Option.map unsignMember) := by
  have hdistance : (arcWidth + 8).unsignZero = (s.arcWidth + 8).unsignZero := by
    rw [← Binary64.unsignZero_add_left, harc, Binary64.unsignZero_add_left]
  simp only [members, List.map_cons, List.map_nil, Json.map_unsignMember_member,
    Json.unsignZeros_array, Json.unsignZeros_ofMembers, Json.unsignZeros_ofBinary64, List.map_map,
    Function.comp_def, hmin, hmax, hstart, hend, hvalue, harc, hstops, hdistance]

/-! ## The arc of a gauge -/

namespace GaugeProps

variable (g : GaugeProps)

/-- The place of a value does not see the sign of a zero: it is a quotient only if the arc has a
length. -/
theorem unsignZero_offset (value : Binary64) :
    (g.unsignZeros.offset value.unsignZero).unsignZero = (g.offset value).unsignZero := by
  have hspan : (g.max.unsignZero - g.min.unsignZero).unsignZero = (g.max - g.min).unsignZero :=
    Binary64.unsignZero_sub g.max g.min
  have hpos : 0 < g.max.unsignZero - g.min.unsignZero ↔ 0 < g.max - g.min := by
    rw [← Binary64.lt_unsignZero_iff, hspan, Binary64.lt_unsignZero_iff]
  have hoffset : g.unsignZeros.offset value.unsignZero =
      if 0 < g.max.unsignZero - g.min.unsignZero then
        ((value.unsignZero - g.min.unsignZero) /
          (g.max.unsignZero - g.min.unsignZero)).clamp 0 1
      else 1 := rfl
  rw [hoffset, offset]
  by_cases h : 0 < g.max - g.min
  · -- Both quotients are taken, and neither denominator is a zero.
    rw [if_pos h, if_pos (hpos.mpr h), ← Binary64.unsignZero_clamp,
      ← Binary64.unsignZero_div (hpos.mpr h), hspan, Binary64.unsignZero_sub,
      Binary64.unsignZero_div h, Binary64.unsignZero_clamp]
  · rw [if_neg h, if_neg fun h' => h (hpos.mp h')]

theorem unsignZeros_stops (palette : Palette) :
    (g.unsignZeros.stops palette).map (fun s => s.toJson.unsignZeros) =
      (g.stops palette).map (fun s => s.toJson.unsignZeros) := by
  have hzones : g.unsignZeros.zones = g.zones.map Zone.unsignZero := rfl
  have hcolor : g.unsignZeros.color = g.color := rfl
  unfold stops
  rw [hzones, hcolor]
  cases g.zones with
  | nil => rfl
  | cons z zones =>
    simp [ArcStop.toJson, Zone.unsignZero, unsignZero_offset, Function.comp_def]

end GaugeProps

/-- The pointer takes its colour from the arc only if there are no zones, that is, no places that
are computed. -/
theorem GaugeSeries.pointerColorFor_unsignZeros (g : GaugeProps) (ctx : Context) :
    pointerColorFor g.unsignZeros ctx = pointerColorFor g ctx := by
  have hzones : g.unsignZeros.zones = g.zones.map Zone.unsignZero := rfl
  have hcolor : g.unsignZeros.color = g.color := rfl
  unfold pointerColorFor GaugeProps.stops
  rw [hzones, hcolor]
  cases g.zones with
  | nil => rfl
  | cons z zones => simp only [List.map_cons, List.isEmpty_cons, Bool.false_eq_true, if_false]

/-! ## Series of datasets -/

namespace Series

/-- A series is written with its kind and its members. -/
theorem unsignZeros_toJson_eq {s t : Series} (hkind : s.kind = t.kind)
    (hmembers : s.members.map (Option.map unsignMember) =
      t.members.map (Option.map unsignMember)) :
    s.toJson.unsignZeros = t.toJson.unsignZeros := by
  rw [toJson, toJson, Json.unsignZeros_ofMembers, Json.unsignZeros_ofMembers, List.map_cons,
    List.map_cons, hkind, hmembers]

variable (d : Dataset) (labels : List String) (color : String) (style : SeriesStyle)

theorem unsignZeros_plotted :
    (d.unsignZeros.plotted labels).map Binary64.unsignZero =
      (d.plotted labels).map Binary64.unsignZero := by
  simp [Function.comp_def]

theorem unsignZeros_toJson_line (filled : Bool) :
    (line (.ofDataset d.unsignZeros labels color filled style.unsignZeros)).toJson.unsignZeros =
      (line (.ofDataset d labels color filled style)).toJson.unsignZeros := by
  refine unsignZeros_toJson_eq rfl ?_
  refine LineSeries.unsignZeros_members (.ofDataset d labels color filled style)
    (unsignZeros_plotted d labels) (unsignZero_getD_map _ _) ?_
  have harea : (AreaStyle.ofColor color style.unsignZeros).toJson.unsignZeros =
      (AreaStyle.ofColor color style).toJson.unsignZeros := by
    simp only [AreaStyle.toJson, AreaStyle.ofColor, Json.unsignZeros_ofMembers, List.map_cons,
      List.map_nil, Json.map_unsignMember_member, Json.unsignZeros_ofBinary64,
      style.unsignZero_visibleAreaOpacity]
    rfl
  change Option.map _ (if filled || d.fill == some true then _ else none) =
    Option.map _ (if filled || d.fill == some true then _ else none)
  split
  · exact congrArg some harea
  · rfl

theorem unsignZeros_toJson_bar :
    (bar (.ofDataset d.unsignZeros labels color style.unsignZeros)).toJson.unsignZeros =
      (bar (.ofDataset d labels color style)).toJson.unsignZeros := by
  refine unsignZeros_toJson_eq rfl ?_
  refine BarSeries.unsignZeros_members (.ofDataset d labels color style)
    (unsignZeros_plotted d labels) (Binary64.unsignZero_min _ _) ?_
  change (Corners.ofBar style.barDirection style.barBorderRadius.unsignZero).toJson.unsignZeros =
    (Corners.ofBar style.barDirection style.barBorderRadius).toJson.unsignZeros
  cases style.barDirection <;> simp [Corners.ofBar, Corners.toJson]

theorem unsignZeros_toJson_scatter :
    (scatter (.ofDataset d.unsignZeros labels color style.unsignZeros)).toJson.unsignZeros =
      (scatter (.ofDataset d labels color style)).toJson.unsignZeros := by
  refine unsignZeros_toJson_eq rfl ?_
  refine ScatterSeries.unsignZeros_members (.ofDataset d labels color style) ?_
    style.scatterSymbolSize.unsignZero_unsignZero
  refine map_mapIdx_map (fun i y => ?_) d.data
  simp [Point.toJson]

theorem unsignZeros_toJson_radar :
    (radar (.ofDataset d.unsignZeros color style.unsignZeros)).toJson.unsignZeros =
      (radar (.ofDataset d color style)).toJson.unsignZeros := by
  refine unsignZeros_toJson_eq rfl ?_
  refine RadarSeries.unsignZeros_members (.ofDataset d color style) ?_
    (unsignZero_getD_map _ _) style.radarFillOpacity.unsignZero_unsignZero
  simp [RadarSeries.ofDataset, Dataset.unsignZeros, Function.comp_def]

/-- The label of a slice ends with its share in the total. -/
theorem unsignZeros_toJson_slice {total total' : Binary64}
    (h : total.unsignZero = total'.unsignZero) (index : Nat) (value : Binary64) :
    (PieSeries.slice d.unsignZeros labels style.unsignZeros total index
        value.unsignZero).toJson.unsignZeros =
      (PieSeries.slice d labels style total' index value).toJson.unsignZeros := by
  have hlabel : ((PieSeries.slice d.unsignZeros labels style.unsignZeros total index
        value.unsignZero).label.map fun l => l.toJson.unsignZeros) =
      (PieSeries.slice d labels style total' index value).label.map
        fun l => l.toJson.unsignZeros := by
    have htext := Percent.unsignText_label (PieSeries.sliceName labels index) value h
    change Option.map _ (if style.pieShowPercentage then some _ else none) =
      Option.map _ (if style.pieShowPercentage then some _ else none)
    split
    · simp only [Option.map_some, SliceLabel.toJson, Json.unsignZeros_ofMembers, List.map_cons,
        List.map_nil, Json.map_unsignMember_member, Json.unsignZeros, htext]
      rfl
    · rfl
  have hvalue : (PieSeries.slice d.unsignZeros labels style.unsignZeros total index
      value.unsignZero).value.unsignZero = value.unsignZero := value.unsignZero_unsignZero
  simp only [Slice.toJson, Json.unsignZeros_ofMembers, List.map_cons, List.map_nil,
    Json.map_unsignMember_member, Json.map_unsignMember_memberIf, Json.unsignZeros_ofBinary64,
    hlabel, hvalue]
  rfl

theorem unsignZeros_toJson_pie (family : Family) :
    (pie (.ofDataset d.unsignZeros labels family style.unsignZeros)).toJson.unsignZeros =
      (pie (.ofDataset d labels family style)).toJson.unsignZeros := by
  refine unsignZeros_toJson_eq rfl ?_
  refine PieSeries.unsignZeros_members (.ofDataset d labels family style)
    (Dimension.unsignZeros_encode_getD_map _ _) (unsignZeros_encode_dimension _) ?_
  simp only [PieSeries.ofDataset, Dataset.plotted_unsignZeros]
  refine map_mapIdx_map (fun index value => ?_) (d.plotted labels)
  exact unsignZeros_toJson_slice d labels style (Percent.unsignZero_finiteTotal _) index value

theorem unsignZeros_toJson_gauge (value : Option Binary64) (name : String) (g : GaugeProps)
    (ctx : Context) :
    (gauge (.build (value.map Binary64.unsignZero) name g.unsignZeros ctx)).toJson.unsignZeros =
      (gauge (.build value name g ctx)).toJson.unsignZeros := by
  have hvalue : (((value.map Binary64.unsignZero).filter Binary64.isFinite).getD
      g.min.unsignZero).unsignZero = ((value.filter Binary64.isFinite).getD g.min).unsignZero := by
    cases value with
    | none => exact g.min.unsignZero_unsignZero
    | some a => by_cases h : a.isFinite = true <;> simp [Option.filter, h]
  refine unsignZeros_toJson_eq rfl ?_
  have hmembers := GaugeSeries.unsignZeros_members (.build value name g ctx)
    g.min.unsignZero_unsignZero g.max.unsignZero_unsignZero g.startAngle.unsignZero_unsignZero
    g.endAngle.unsignZero_unsignZero hvalue g.arcWidth.unsignZero_unsignZero
    (g.unsignZeros_stops ctx.palette)
  have hbuild : GaugeSeries.build (value.map Binary64.unsignZero) name g.unsignZeros ctx =
      { GaugeSeries.build value name g ctx with
        min := g.min.unsignZero
        max := g.max.unsignZero
        startAngle := g.startAngle.unsignZero
        endAngle := g.endAngle.unsignZero
        value := ((value.map Binary64.unsignZero).filter Binary64.isFinite).getD g.min.unsignZero
        arcWidth := g.arcWidth.unsignZero
        stops := g.unsignZeros.stops ctx.palette } := by
    simp only [GaugeSeries.build, GaugeSeries.pointerColorFor_unsignZeros]
    rfl
  rw [hbuild]
  exact hmembers

/-- **A dataset becomes the same series up to the sign of zeros**, whatever the family. -/
theorem unsignZeros_toJson_ofDataset (family : Family) (index : Nat) :
    (ofDataset family labels style.unsignZeros index d.unsignZeros).toJson.unsignZeros =
      (ofDataset family labels style index d).toJson.unsignZeros := by
  cases family with
  | line => exact unsignZeros_toJson_line d labels _ style false
  | area => exact unsignZeros_toJson_line d labels _ style true
  | bar => exact unsignZeros_toJson_bar d labels _ style
  | scatter => exact unsignZeros_toJson_scatter d labels _ style
  | radar => exact unsignZeros_toJson_radar d _ style
  | pie => exact unsignZeros_toJson_pie d labels style .pie
  | donut => exact unsignZeros_toJson_pie d labels style .donut
  | mixed =>
    have hkind : d.unsignZeros.kind = d.kind := rfl
    simp only [ofDataset, hkind]
    cases d.kind.getD .line with
    | line => exact unsignZeros_toJson_line d labels _ style false
    | area => exact unsignZeros_toJson_line d labels _ style true
    | bar => exact unsignZeros_toJson_bar d labels _ style
  | gauge =>
    have hhead : d.unsignZeros.data.head? = d.data.head?.map Binary64.unsignZero :=
      List.head?_map
    simp only [ofDataset, hhead]
    exact unsignZeros_toJson_gauge _ d.label style.gauge style.context

/-- The series of data are the same up to the sign of zeros. -/
theorem unsignZeros_toJson_ofData (data : Data) (family : Family) :
    (ofData data.unsignZeros family style.unsignZeros).map (fun s => s.toJson.unsignZeros) =
      (ofData data family style).map (fun s => s.toJson.unsignZeros) :=
  map_mapIdx_map (fun index d => unsignZeros_toJson_ofDataset d data.labels style family index)
    data.datasets

end Series

end Charting
