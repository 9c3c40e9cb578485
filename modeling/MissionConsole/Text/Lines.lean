/-!
# Lines of a text

A file is shown line by line. A line ends at a line feed, a carriage return or the pair of both, at
a vertical tab or form feed, at a file, group or record separator, at a next-line character and at
the two Unicode separators. The end of the text ends a last line unless that line is empty.

## Main definitions

* `Text.isLineBreak` — the characters that end a line
* `Text.lines` — the lines of a text without their ends
-/

namespace MissionConsole.Text

/-- The characters that end a line. -/
def isLineBreak (c : Char) : Bool :=
  let n := c.toNat
  (10 ≤ n && n ≤ 13) || (28 ≤ n && n ≤ 30) || n == 0x85 || n == 0x2028 || n == 0x2029

/-- The lines of the characters given, where `line` holds the start of the first one backwards. -/
def linesFrom (line : List Char) : List Char → List (List Char)
  | [] => if line.isEmpty then [] else [line.reverse]
  | '\r' :: '\n' :: rest => line.reverse :: linesFrom [] rest
  | c :: rest =>
    if isLineBreak c then line.reverse :: linesFrom [] rest else linesFrom (c :: line) rest

/-- The lines of a text without their ends. -/
def lines (s : String) : List String :=
  (linesFrom [] s.toList).map String.ofList

end MissionConsole.Text
