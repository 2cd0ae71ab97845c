/-! # Palettes and colour schemes

A palette is a list of CSS colours from which series take theirs by position, starting
over at its end.  Four palettes are registered under a name, the colour *schemes*; none
of them is empty, and the default one stands in for an empty palette.
-/
namespace Charting

/-- The registered palettes. -/
inductive Scheme where
  | standard
  | pastel
  | vivid
  | monochrome
  deriving DecidableEq, Inhabited

namespace Scheme

/-- All schemes, in the order of the register. -/
def all : List Scheme := [standard, pastel, vivid, monochrome]

/-- The name under which a scheme is registered. -/
def name : Scheme → String
  | standard => "default"
  | pastel => "pastel"
  | vivid => "vivid"
  | monochrome => "monochrome"

/-- The scheme registered under a name; other names are not taken for the default. -/
def ofName? (name : String) : Option Scheme := all.find? (fun scheme => scheme.name == name)

/-- The colours of a scheme, in order. -/
def colors : Scheme → List String
  | standard =>
    ["#3b82f6", "#10b981", "#f59e0b", "#ef4444", "#8b5cf6", "#ec4899", "#06b6d4", "#84cc16"]
  | pastel =>
    ["#93c5fd", "#86efac", "#fde68a", "#fca5a5", "#c4b5fd", "#f9a8d4", "#a5f3fc", "#d9f99d"]
  | vivid =>
    ["#2563eb", "#059669", "#d97706", "#dc2626", "#7c3aed", "#db2777", "#0891b2", "#65a30d"]
  | monochrome => ["#0f172a", "#334155", "#475569", "#64748b", "#94a3b8", "#cbd5e1"]

/-- No scheme is empty. -/
theorem colors_ne_nil (scheme : Scheme) : scheme.colors ≠ [] := by
  cases scheme <;> simp [colors]

/-- Every scheme is found under its name. -/
theorem ofName?_name (scheme : Scheme) : ofName? scheme.name = some scheme := by
  cases scheme <;> decide

end Scheme

/-- CSS colours, taken by position. -/
abbrev Palette := List String

namespace Palette

/-- The palette, or the default scheme for an empty one. -/
def orStandard (palette : Palette) : Palette :=
  if palette.isEmpty then Scheme.standard.colors else palette

/-- There is always a colour to take. -/
theorem orStandard_ne_nil (palette : Palette) : palette.orStandard ≠ [] := by
  unfold orStandard
  split
  · exact Scheme.colors_ne_nil _
  · simpa using ‹¬palette.isEmpty = true›

/-- The colours that are taken around have a positive number. -/
theorem length_orStandard_pos (palette : Palette) : 0 < palette.orStandard.length :=
  List.length_pos_iff.2 palette.orStandard_ne_nil

/-- The colour at a position, counted around the palette. -/
def colorAt (palette : Palette) (index : Nat) : String :=
  palette.orStandard.get
    ⟨index % palette.orStandard.length, Nat.mod_lt _ palette.length_orStandard_pos⟩

end Palette

/-- Colours for the parts of a whole: one for all of them, or one for each. -/
inductive Coloring where
  | single (color : String)
  | each (colors : List String)
  deriving DecidableEq

end Charting
