import MissionConsole.Text.CaseTable

/-!
# Lower-casing

Command names, keys and answers are compared by their lower-case forms. Lower-casing works on the
whole text: a capital sigma at the end of a word becomes a final sigma, and a capital I with a dot
becomes two characters.

## Main definitions

* `Text.isCased`, `Text.isCaseIgnorable` — the two properties that decide about a sigma
* `Text.endsWord` — whether a capital sigma stands at the end of a word
* `Text.lower` — the lower-case form of a text
-/

namespace MissionConsole.Text

/-- Cased characters, less those that are skipped. -/
def isCased (c : Char) : Bool :=
  let n := c.toNat
  if n < 0x80 then c.isAlpha else inRanges casedRanges n

/-- Characters that are skipped when cased neighbours are looked for. -/
def isCaseIgnorable (c : Char) : Bool :=
  let n := c.toNat
  if n < 0x80 then c == '\'' || c == '.' || c == ':' || c == '^' || n == 0x60
  else inRanges caseIgnorableRanges n

/-- The lower-case form of a character on its own. A capital I with a dot keeps its dot as a
combining mark. -/
def lowerChar (c : Char) : List Char :=
  let n := c.toNat
  if n < 0x80 then
    if 65 ≤ n ∧ n ≤ 90 then [Char.ofNat (n + 32)] else [c]
  else if n = 0x130 then ['i', Char.ofNat 0x307]
  else
    match lowerRuns.find? (·.moves n) with
    | some r => [Char.ofNat ((n : Int) + r.shift).toNat]
    | none => [c]

/-- The nearest character that is not skipped is cased. -/
def seesCased (cs : List Char) : Bool :=
  match cs.dropWhile isCaseIgnorable with
  | c :: _ => isCased c
  | [] => false

/-- A capital sigma ends a word when a cased character stands before it and none behind it. The
characters before it come nearest first. -/
def endsWord (before after : List Char) : Bool :=
  seesCased before && !seesCased after

/-- Lower-cases the characters that follow those in `before`, which come nearest first. -/
def lowerFrom (before : List Char) : List Char → List Char
  | [] => []
  | c :: rest =>
    (if c.toNat = 0x3a3 then [Char.ofNat (if endsWord before rest then 0x3c2 else 0x3c3)]
      else lowerChar c) ++ lowerFrom (c :: before) rest

/-- The lower-case form of a text. -/
def lower (s : String) : String :=
  String.ofList (lowerFrom [] s.toList)

end MissionConsole.Text
