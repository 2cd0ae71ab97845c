/-! # Splitting a text at a separator -/
namespace Charting.Text

/-- The parts of a text between the occurrences of a separator; always at least one. -/
def split (separator : Char) : List Char → List (List Char)
  | [] => [[]]
  | c :: cs =>
    if c = separator then [] :: split separator cs
    else
      match split separator cs with
      | [] => [[c]]
      | part :: parts => (c :: part) :: parts

/-- There is always a part. -/
theorem split_ne_nil (separator : Char) (cs : List Char) : split separator cs ≠ [] := by
  cases cs with
  | nil => simp [split]
  | cons c cs =>
    unfold split
    split
    · simp
    · split <;> simp

example : split ',' ['a', ',', ',', 'b'] = [['a'], [], ['b']] := by decide

end Charting.Text
