import MissionConsole.Json.Basic
import MissionConsole.Text.Quoted
import MissionConsole.Decimal.Shortest

/-!
# The text of a structured value

A value is written on one line in visible ASCII: items and fields are separated by a comma and a
space, names and values by a colon and a space, and every other character is escaped.

## Main definitions

* `Json.escapeChar` — a character inside a written text
* `Json.chars`, `Json.render` — the text of a value
-/

namespace MissionConsole.Json

/-- A unit of sixteen bits as an escape. -/
def unitEscape (n : Nat) : List Char := '\\' :: 'u' :: Text.hexDigits 4 n

/-- A character inside a written text. Characters beyond sixteen bits become a pair of units. -/
def escapeChar (c : Char) : List Char :=
  let n := c.toNat
  if c = '"' then ['\\', '"']
  else if c = '\\' then ['\\', '\\']
  else if n = 10 then ['\\', 'n']
  else if n = 13 then ['\\', 'r']
  else if n = 9 then ['\\', 't']
  else if n = 8 then ['\\', 'b']
  else if n = 12 then ['\\', 'f']
  else if 32 ≤ n ∧ n < 127 then [c]
  else if n < 0x10000 then unitEscape n
  else
    let k := n - 0x10000
    unitEscape (0xd800 + k / 0x400) ++ unitEscape (0xdc00 + k % 0x400)

/-- A text between double quotes. -/
def stringChars (s : String) : List Char :=
  '"' :: s.toList.flatMap escapeChar ++ ['"']

/-- A number: whole numbers in digits, others as the shortest decimal. -/
def numberChars : Number → List Char
  | .int n => (toString n).toList
  | .float x => (Decimal.textWith "Infinity" "NaN" x).toList

mutual

/-- The text of a value. -/
def chars : Json → List Char
  | .null => "null".toList
  | .bool true => "true".toList
  | .bool false => "false".toList
  | .num n => numberChars n
  | .str s => stringChars s
  | .arr items => '[' :: itemsChars items ++ [']']
  | .obj fields => '{' :: fieldsChars fields ++ ['}']

/-- Values with separators between them. -/
def itemsChars : List Json → List Char
  | [] => []
  | [v] => chars v
  | v :: rest => chars v ++ ',' :: ' ' :: itemsChars rest

/-- Fields with separators between them. -/
def fieldsChars : List (String × Json) → List Char
  | [] => []
  | [(name, v)] => stringChars name ++ ':' :: ' ' :: chars v
  | (name, v) :: rest =>
    stringChars name ++ ':' :: ' ' :: chars v ++ ',' :: ' ' :: fieldsChars rest

end

/-- The text of a value, on one line. -/
def render (v : Json) : String := String.ofList (chars v)

end MissionConsole.Json
