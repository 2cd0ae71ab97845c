/-! # Chart families

The family of a chart decides how its data is drawn.  Five families are *cartesian*:
they are drawn against two axes.
-/
namespace Charting

/-- The kinds of charts. -/
inductive Family where
  | line
  | bar
  | pie
  | donut
  | area
  | radar
  | scatter
  | mixed
  | gauge
  deriving DecidableEq

namespace Family

/-- All families. -/
def all : List Family := [line, bar, pie, donut, area, radar, scatter, mixed, gauge]

/-- The name of a family. -/
def name : Family → String
  | line => "line"
  | bar => "bar"
  | pie => "pie"
  | donut => "donut"
  | area => "area"
  | radar => "radar"
  | scatter => "scatter"
  | mixed => "mixed"
  | gauge => "gauge"

/-- The family of a name. -/
def ofName? (name : String) : Option Family := all.find? (fun family => family.name == name)

/-- Whether charts of the family have two axes. -/
def isCartesian : Family → Bool
  | line | bar | area | scatter | mixed => true
  | pie | donut | radar | gauge => false

/-- Whether charts of the family are round and cut into slices. -/
def isPie : Family → Bool
  | pie | donut => true
  | _ => false

/-- Every family is found under its name. -/
theorem ofName?_name (family : Family) : ofName? family.name = some family := by
  cases family <;> decide

end Family
end Charting
