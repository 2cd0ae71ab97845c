import Charting.Dimension

/-! # Sizes of a chart on its host

A web page takes the declared sizes as CSS lengths.  A mobile screen needs pixels: what
the screen offers is its width less the padding on both sides, and heights given as a
percentage refer to the width that results.
-/
namespace Charting

open Number

/-- The width and height of a chart. -/
structure Size (α : Type) where
  width : α
  height : α
  deriving DecidableEq

/-- A screen that cannot hold a chart. -/
structure InvalidViewport where
  width : Binary64
  height : Binary64
  deriving DecidableEq

namespace Viewport

/-- On the web a chart fills its container's width. -/
def defaultWebWidth : Dimension := .percent 100

/-- The height of a chart on the web that declares none. -/
def defaultWebHeight : Dimension := .px 400

/-- The height in pixels of a chart on a screen that declares none. -/
def defaultMobileHeight : Binary64 := 300

/-- The CSS lengths of a chart on a web page. -/
def web (width height : Option Dimension) : Size String :=
  ⟨(width.getD defaultWebWidth).css, (height.getD defaultWebHeight).css⟩

/-- The width left on a screen between paddings; a negative or non-finite padding counts
as none. -/
def available (deviceWidth padding : Binary64) : Binary64 :=
  let padding := if padding.isFinite then padding.max 0 else 0
  (deviceWidth - padding * 2).max 0

/-- The pixels of a chart on a mobile screen, whose width has to be finite and not negative. -/
def mobile (width height : Option Dimension) (deviceWidth padding : Binary64) :
    Except InvalidViewport (Size Binary64) :=
  if deviceWidth.isFinite && decide (0 ≤ deviceWidth) then
    let room := available deviceWidth padding
    let width := (width.map (·.resolve room)).getD room
    .ok ⟨width, (height.map (·.resolve width)).getD defaultMobileHeight⟩
  else .error ⟨deviceWidth, 0⟩

end Viewport
end Charting
