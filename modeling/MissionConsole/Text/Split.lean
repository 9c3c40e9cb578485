/-!
# Cutting and searching texts

## Main definitions

* `Text.splitOn` — the parts of a text between the occurrences of a character
* `Text.cutAt` — a text before and behind the first occurrence of a character
* `Text.contains` — whether a text occurs in another one
* `Text.replaceChar` — a text with a character written differently
-/

namespace MissionConsole.Text

/-- The parts between the occurrences of a separator; one part more than there are separators. -/
def splitOn (separator : Char) (s : String) : List String :=
  (s.toList.splitOn separator).map String.ofList

/-- A text before and behind the first occurrence of a character, if there is one. -/
def cutAt (c : Char) (s : String) : Option (String × String) :=
  match s.toList.dropWhile (· != c) with
  | [] => none
  | _ :: rest => some (String.ofList (s.toList.takeWhile (· != c)), String.ofList rest)

/-- Whether the characters of `part` occur next to each other in the characters given. -/
def containsChars (part : List Char) : List Char → Bool
  | [] => part.isEmpty
  | c :: rest => part.isPrefixOf (c :: rest) || containsChars part rest

/-- Whether `part` occurs in `s`. The empty text occurs everywhere. -/
def contains (s part : String) : Bool :=
  containsChars part.toList s.toList

/-- Whether a text begins with another one. -/
def startsWith (s start : String) : Bool :=
  start.toList.isPrefixOf s.toList

/-- A text in which each occurrence of a character is written as `replacement`. -/
def replaceChar (c : Char) (replacement : String) (s : String) : String :=
  String.ofList (s.toList.flatMap fun x => if x = c then replacement.toList else [x])

theorem containsChars_iff {part cs : List Char} : containsChars part cs = true ↔ part <:+: cs := by
  induction cs with
  | nil => simp [containsChars]
  | cons c rest ih =>
    rw [containsChars, Bool.or_eq_true, ih, List.infix_cons_iff, List.isPrefixOf_iff_prefix]

end MissionConsole.Text
