import Charting.Palette
import Charting.Target
import Charting.Theme

/-! # The context of a chart

What all blocks of one chart share: the colours of its theme, the profile of its target
and its palette.
-/
namespace Charting

/-- The shared settings of a chart. -/
structure Context where
  theme : ThemeColors
  profile : Profile
  palette : Palette
  deriving DecidableEq

/-- The context of a theme, a target and a palette. -/
def Context.of (theme : Theme) (target : Target) (palette : Palette) : Context :=
  ⟨theme.colors, target.profile, palette⟩

end Charting
