import Charting.Block.Style

/-! # Titles -/
namespace Charting

open Json (member memberIf)

/-- A caption at the centre of a round chart. -/
structure Title where
  text : String
  subtext : Option String
  textStyle : TextStyle
  deriving DecidableEq

/-- The caption as a renderer takes it. -/
def Title.toJson (t : Title) : Json :=
  .ofMembers [
    member "text" (.string t.text),
    memberIf "subtext" t.subtext .string,
    member "left" (.string "center"),
    member "top" (.string "center"),
    member "textStyle" t.textStyle.toJson]

end Charting
