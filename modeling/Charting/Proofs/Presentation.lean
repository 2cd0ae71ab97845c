import Charting.Proofs.BarDirection
import Charting.Proofs.Outcome
import Charting.Proofs.Validation

/-! # Presentation leaves the content alone

The theme, the target and the palette of a chart reach every block and every series through one
`Context`.  They are there for colours, font sizes and habits of the layout.  `ChartOption.content`
keeps of an option only what is plotted: the values of its series, the entries of the legend, what
the axes measure, what can be zoomed, and the spokes of a radar chart.

Everything that is compiled has the same content in any two contexts
(`Compile.content_cartesian` and those after it), so two properties that differ in presentation
only lead to options of the same content (`compile_content_eq`).
-/
namespace Charting

open Number

/-! ## Content -/

/-- What is plotted of a slice. -/
structure SliceContent where
  name : String
  value : Binary64
  percentage : String
  /-- The text beside the slice, which repeats the percentage. -/
  label : Option SliceLabel
  deriving DecidableEq

/-- What is plotted of a series. -/
inductive Payload where
  | samples (values : List Binary64)
  | points (points : List Point)
  | slices (slices : List SliceContent)
  /-- The value on an arc, and the places where the colour of the arc changes. -/
  | reading (value min max : Binary64) (offsets : List Binary64)
  deriving DecidableEq

/-- The content of a series. -/
structure SeriesContent where
  kind : String
  name : String
  payload : Payload
  deriving DecidableEq

/-- The content of an axis. -/
structure AxisContent where
  scale : AxisScale
  name : Option String
  deriving DecidableEq

/-- The content of a chart. -/
structure Content where
  series : List SeriesContent
  /-- The entries of the legend. -/
  legend : Option (List String)
  xAxis : Option AxisContent
  yAxis : Option AxisContent
  dataZoom : Option (List DataZoom)
  /-- The spokes of a radar chart. -/
  indicators : Option (List Indicator)
  deriving DecidableEq

def Slice.content (s : Slice) : SliceContent := ⟨s.name, s.value, s.percentage, s.label⟩

/-- The values that a series plots. -/
def Series.payload : Series → Payload
  | line s => .samples s.data
  | bar s => .samples s.data
  | scatter s => .points s.data
  | pie s => .slices (s.slices.map Slice.content)
  | radar s => .samples s.values
  | gauge s => .reading s.value s.min s.max (s.stops.map (·.offset))

def Series.content (s : Series) : SeriesContent := ⟨s.kind, s.name, s.payload⟩

def Axis.content (a : Axis) : AxisContent := ⟨a.scale, a.name.map (·.text)⟩

/-- What is plotted, without what it looks like. -/
def ChartOption.content (o : ChartOption) : Content where
  series := o.series.map Series.content
  legend := o.legend.map (·.entries)
  xAxis := o.xAxis.map Axis.content
  yAxis := o.yAxis.map Axis.content
  dataZoom := o.dataZoom
  indicators := o.radar.map (·.indicators)

/-! ## Series in two contexts -/

/-- The same settings in another context. -/
def SeriesStyle.withContext (style : SeriesStyle) (ctx : Context) : SeriesStyle :=
  { style with context := ctx }

/-- The palette only stands in for colours; it has no part in where they change. -/
theorem GaugeProps.map_offset_stops (g : GaugeProps) (palette other : Palette) :
    (g.stops palette).map (·.offset) = (g.stops other).map (·.offset) := by
  unfold stops
  cases g.zones with
  | cons zone rest => rfl
  | nil =>
    match g.color with
    | none | some (.single _) | some (.each []) | some (.each (_ :: _)) => rfl

theorem GaugeSeries.payload_build (value : Option Binary64) (name : String) (g : GaugeProps)
    (ctx other : Context) :
    (Series.gauge (build value name g ctx)).payload =
      (Series.gauge (build value name g other)).payload := by
  simp only [Series.payload, build, g.map_offset_stops ctx.palette other.palette]

section Series

variable (style : SeriesStyle) (ctx : Context)

theorem PieSeries.map_content_slices (d : Dataset) (labels : List String) (family : Family) :
    (ofDataset d labels family (style.withContext ctx)).slices.map Slice.content =
      (ofDataset d labels family style).slices.map Slice.content := by
  refine List.ext_getElem? fun index => ?_
  simp only [ofDataset, List.getElem?_map, List.getElem?_mapIdx, Option.map_map]
  rfl

theorem Series.content_ofDataset (family : Family) (labels : List String) (index : Nat)
    (d : Dataset) :
    (ofDataset family labels (style.withContext ctx) index d).content =
      (ofDataset family labels style index d).content := by
  cases family with
  | line | area | bar | scatter | radar => rfl
  | mixed =>
    unfold ofDataset
    cases d.kind.getD .line with
    | line | area | bar => rfl
  | pie | donut =>
    have hslices := PieSeries.map_content_slices style ctx d labels
    exact congrArg (SeriesContent.mk _ _) (congrArg Payload.slices (hslices _))
  | gauge =>
    have hpayload := GaugeSeries.payload_build d.data.head? d.label style.gauge ctx style.context
    exact congrArg (SeriesContent.mk _ _) hpayload

theorem Series.map_content_ofData (d : Data) (family : Family) :
    (ofData d family (style.withContext ctx)).map content =
      (ofData d family style).map content := by
  refine List.ext_getElem? fun index => ?_
  simp only [ofData, List.getElem?_map, List.getElem?_mapIdx, Option.map_map]
  refine congrArg (Option.map · d.datasets[index]?) (funext fun source => ?_)
  exact content_ofDataset style ctx family d.labels index source

end Series

/-! ## Axes in two contexts -/

/-- The content of an axis with a name is made of its content without one and the name, which is
ignored if it is empty. -/
theorem Axis.content_named (a : Axis) (name : Option String) (ctx : Context) (lines : Bool) :
    ((a.withName name ctx).withSplitLines lines).content =
      ⟨a.content.scale, (name.filter (· ≠ "")).or a.content.name⟩ := by
  have hscale := Compile.scale_named a name ctx lines
  unfold content
  rw [hscale]
  refine congrArg (AxisContent.mk _) ?_
  unfold withName
  cases name with
  | none => rfl
  | some text => by_cases h : text = "" <;> simp [h, withSplitLines, Option.filter]

namespace Compile

variable (p : Props) (ctx other : Context)

theorem content_plainAxes (family : Family) (labels : List String) :
    (plainAxes family labels p ctx).1.content = (plainAxes family labels p other).1.content ∧
      (plainAxes family labels p ctx).2.content = (plainAxes family labels p other).2.content := by
  unfold plainAxes
  split
  · exact ⟨rfl, rfl⟩
  · cases isHorizontal family p <;> exact ⟨rfl, rfl⟩

/-! ## Options in two contexts -/

theorem map_content_series (d : Data) (family : Family) :
    (Series.ofData d family (.ofProps p ctx)).map Series.content =
      (Series.ofData d family (.ofProps p other)).map Series.content :=
  Series.map_content_ofData (.ofProps p other) ctx d family

theorem content_cartesian (family : Family) (d : Data) :
    (cartesian family d p ctx).content = (cartesian family d p other).content := by
  obtain ⟨hx, hy⟩ := content_plainAxes p ctx other family d.labels
  simp only [ChartOption.content, cartesian, Option.map_some, Axis.content_named, hx, hy,
    map_content_series p ctx other]
  cases p.showLegend <;> rfl

/-- The names of slices are part of their content. -/
theorem sliceNames_eq (series : List Series) : sliceNames series =
    match (series.map Series.content).head?.map (·.payload) with
    | some (.slices slices) => slices.map (·.name)
    | _ => [] := by
  cases series with
  | nil => rfl
  | cons s rest =>
    cases s with
    | pie s =>
      change s.slices.map (·.name) = (s.slices.map Slice.content).map (·.name)
      rw [List.map_map]
      rfl
    | line | bar | scatter | radar | gauge => rfl

theorem content_pieOf (family : Family) (labels : List String) (first : Dataset) :
    (pieOf family labels first p ctx).content = (pieOf family labels first p other).content := by
  have hseries := map_content_series p ctx other ⟨labels, [first]⟩ family
  simp only [ChartOption.content, pieOf, sliceNames_eq, hseries]
  cases p.showLegend <;> rfl

theorem content_radar (d : Data) : (radar d p ctx).content = (radar d p other).content := by
  simp only [ChartOption.content, radar, map_content_series p ctx other]
  cases p.showLegend <;> rfl

theorem content_gauge : (gauge p ctx).content = (gauge p other).content := by
  have hpayload := GaugeSeries.payload_build p.gauge.value (p.gauge.name.getD defaultGaugeName)
    p.gauge ctx other
  simp only [ChartOption.content, gauge, List.map_cons, Series.content, hpayload]
  rfl

end Compile

/-! ## Properties that differ in presentation -/

namespace Props

/-- The properties with the presentation of other ones. -/
def withPresentation (p other : Props) : Props :=
  { p with
    theme := other.theme
    scheme := other.scheme
    colors := other.colors
    target := other.target }

/-- Properties that differ at most in theme, target, colour scheme and palette. -/
def AgreeButPresentation (p q : Props) : Prop := p.withPresentation q = q

end Props

variable {p q : Props} {family : Family} {data : Option Data}

/-- Every option has a counterpart in another presentation, with the same content. -/
theorem Compiled.exists_withPresentation {o : ChartOption} (h : Compiled p family data o)
    (q : Props) :
    ∃ o', Compiled (p.withPresentation q) family data o' ∧ o.content = o'.content := by
  -- Blocks see the presentation through their context only.
  cases h with
  | cartesian axes filled =>
    exact ⟨_, .cartesian axes filled, Compile.content_cartesian p p.context _ family _⟩
  | pieOf round head filled =>
    exact ⟨_, .pieOf round head filled, Compile.content_pieOf p p.context _ family _ _⟩
  | radar filled => exact ⟨_, .radar filled, Compile.content_radar p p.context _ _⟩
  | gauge => exact ⟨_, .gauge, Compile.content_gauge p p.context _⟩

/-- **Presentation never changes what is plotted.**  For properties that pass their checks and
differ in presentation only there is nothing to plot in either case, or there are two options of the
same content. -/
theorem compile_content_eq (hp : p.validate = .ok ()) (hq : q.validate = .ok ())
    (h : p.AgreeButPresentation q) (family : Family) (data : Option Data) :
    (compile family data p = .ok none ∧ compile family data q = .ok none) ∨
      ∃ o o', compile family data p = .ok (some o) ∧ compile family data q = .ok (some o') ∧
        o.content = o'.content := by
  by_cases hnothing : NothingToPlot family data
  · exact .inl ⟨compile_eq_none_iff.mpr ⟨hp, hnothing⟩, compile_eq_none_iff.mpr ⟨hq, hnothing⟩⟩
  · obtain ⟨o, ho⟩ := Compile.exists_compiled_iff.mpr hnothing
    obtain ⟨o', ho', hcontent⟩ := ho.exists_withPresentation q
    rw [h] at ho'
    exact .inr ⟨o, o', compile_eq_some_iff.mpr ⟨hp, ho⟩, compile_eq_some_iff.mpr ⟨hq, ho'⟩,
      hcontent⟩

/-- Another presentation of a chart. -/
def darkPocket : Props where
  theme := .dark
  scheme := .vivid
  colors := some ["#111111"]
  target := .mobile

/-- A share of slices. -/
def twoShares : Data := ⟨["yes", "no"], [{ label := "votes", data := [1, 3] }]⟩

theorem compile_content_eq_darkPocket :
    ({} : Props).validate = .ok () ∧ darkPocket.validate = .ok () ∧
      ({} : Props).AgreeButPresentation darkPocket ∧
      ∃ o o', compile .pie (some twoShares) {} = .ok (some o) ∧
        compile .pie (some twoShares) darkPocket = .ok (some o') ∧ o.content = o'.content := by
  have hdefault := Props.validate_eq_ok_iff.mpr Props.isValid_default
  have hdark : darkPocket.validate = .ok () := Props.validate_eq_ok_iff.mpr (by decide +kernel)
  have hagree : ({} : Props).AgreeButPresentation darkPocket := rfl
  refine ⟨hdefault, hdark, hagree, ?_⟩
  rcases compile_content_eq hdefault hdark hagree .pie (some twoShares) with ⟨hnone, -⟩ | h
  · obtain ⟨-, -, hdata⟩ := compile_eq_none_iff.mp hnone
    simp [twoShares] at hdata
  · exact h

end Charting
