/-!
# Sets of characters given by ranges

Character properties are data: each is a list of inclusive ranges of code points, in increasing
order. A property is asked through `inRanges`.

## Main definitions

* `Text.CodeRange` — an inclusive range of code points
* `Text.inRanges` — whether some range of a table holds a code point
-/

namespace MissionConsole.Text

/-- An inclusive range of code points. -/
abbrev CodeRange := Nat × Nat

/-- A code point is in a table when one of the ranges holds it. -/
def inRanges (table : List CodeRange) (n : Nat) : Bool :=
  table.any fun r => decide (r.1 ≤ n) && decide (n ≤ r.2)

end MissionConsole.Text
