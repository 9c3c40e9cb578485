import MissionConsole.Json.Basic
import MissionConsole.Decimal.Numeral

/-!
# Reading structured values

A reader for the usual notation. Blanks may stand between tokens, escapes of two units are joined
to one character, and fields keep their order.

## Main definitions

* `Json.stringUnits` — the units of a written text, up to its closing quote
* `Json.joinUnits` — the characters that units stand for
* `Json.parse?` — the value that a text writes
-/

namespace MissionConsole.Json

/-- The blanks between tokens. -/
def isSpace (c : Char) : Bool := c == ' ' || c == '\n' || c == '\r' || c == '\t'

/-- The characters from the next token on. -/
def skipSpace (cs : List Char) : List Char := cs.dropWhile isSpace

/-! ### Texts -/

/-- The value of a hexadecimal digit. -/
def hexValue? (c : Char) : Option Nat :=
  let n := c.toNat
  if 48 ≤ n ∧ n ≤ 57 then some (n - 48)
  else if 97 ≤ n ∧ n ≤ 102 then some (n - 87)
  else if 65 ≤ n ∧ n ≤ 70 then some (n - 55)
  else none

/-- The unit that four hexadecimal digits write. -/
def unit? (a b c d : Char) : Option Nat := do
  let a ← hexValue? a
  let b ← hexValue? b
  let c ← hexValue? c
  let d ← hexValue? d
  some (((a * 16 + b) * 16 + c) * 16 + d)

/-- The character that a one-letter escape stands for. -/
def shortEscape? : Char → Option Nat
  | '"' => some 34
  | '\\' => some 92
  | '/' => some 47
  | 'n' => some 10
  | 'r' => some 13
  | 't' => some 9
  | 'b' => some 8
  | 'f' => some 12
  | _ => none

/-- The units of a written text whose opening quote is read, and what follows its closing quote. A
character that stands for itself is one unit, however large. -/
def stringUnits : List Char → Option (List Nat × List Char)
  | [] => none
  | '"' :: rest => some ([], rest)
  | '\\' :: 'u' :: a :: b :: c :: d :: rest => do
    let u ← unit? a b c d
    let (us, tail) ← stringUnits rest
    some (u :: us, tail)
  | '\\' :: e :: rest => do
    let u ← shortEscape? e
    let (us, tail) ← stringUnits rest
    some (u :: us, tail)
  | c :: rest =>
    if c = '\\' ∨ c.toNat < 32 then none
    else do
      let (us, tail) ← stringUnits rest
      some (c.toNat :: us, tail)

/-- The characters that units stand for: a high and a low surrogate make one character, and a
surrogate that stands alone makes none. -/
def joinUnits : List Nat → Option (List Char)
  | [] => some []
  | [u] => if 0xd800 ≤ u ∧ u ≤ 0xdfff then none else some [Char.ofNat u]
  | u :: v :: rest =>
    if 0xd800 ≤ u ∧ u ≤ 0xdbff ∧ 0xdc00 ≤ v ∧ v ≤ 0xdfff then
      (joinUnits rest).map (Char.ofNat (0x10000 + (u - 0xd800) * 0x400 + (v - 0xdc00)) :: ·)
    else if 0xd800 ≤ u ∧ u ≤ 0xdfff then none
    else (joinUnits (v :: rest)).map (Char.ofNat u :: ·)

/-- A written text whose opening quote is read. -/
def string? (cs : List Char) : Option (String × List Char) := do
  let (us, rest) ← stringUnits cs
  let chars ← joinUnits us
  some (String.ofList chars, rest)

/-! ### Numbers and words -/

/-- The characters that numbers consist of. -/
def isNumberChar (c : Char) : Bool :=
  Numeral.isDigit c || c == '-' || c == '+' || c == '.' || c == 'e' || c == 'E'

/-- The number that a token writes: whole when it has digits only. -/
def number? (token : List Char) : Option Number :=
  let (negative, body) := Numeral.takeSign token
  if !body.isEmpty && body.all Numeral.isDigit then
    let n : Int := Numeral.valueOf body
    some (.int (if negative then -n else n))
  else (Numeral.fraction? body).map fun f => .float (f.toFloat negative)

/-- The words that stand for values. -/
def wordValues : List (List Char × Json) :=
  [("null".toList, .null), ("true".toList, .bool true), ("false".toList, .bool false),
    ("NaN".toList, .float Decimal.notANumber), ("Infinity".toList, .float (Decimal.infinity false)),
    ("-Infinity".toList, .float (Decimal.infinity true))]

/-- A number or a word, and what follows it. -/
def scalar? (cs : List Char) : Option (Json × List Char) :=
  match wordValues.find? (·.1.isPrefixOf cs) with
  | some (word, v) => some (v, cs.drop word.length)
  | none => (number? (cs.takeWhile isNumberChar)).map fun n => (.num n, cs.dropWhile isNumberChar)

/-! ### Values -/

mutual

/-- A value at the next token, and what follows it. The first argument bounds the depth. -/
def value : Nat → List Char → Option (Json × List Char)
  | 0, _ => none
  | fuel + 1, cs =>
    match skipSpace cs with
    | '"' :: rest => (string? rest).map fun (s, tail) => (.str s, tail)
    | '[' :: rest =>
      match skipSpace rest with
      | ']' :: tail => some (.arr [], tail)
      | _ => (items fuel rest).map fun (vs, tail) => (.arr vs, tail)
    | '{' :: rest =>
      match skipSpace rest with
      | '}' :: tail => some (.obj [], tail)
      | _ => (members fuel rest).map fun (fs, tail) => (.obj fs, tail)
    | rest => scalar? rest

/-- The items of a list up to its closing bracket, one at least. -/
def items : Nat → List Char → Option (List Json × List Char)
  | 0, _ => none
  | fuel + 1, cs => do
    let (v, rest) ← value fuel cs
    match skipSpace rest with
    | ',' :: tail => do
      let (vs, tail) ← items fuel tail
      some (v :: vs, tail)
    | ']' :: tail => some ([v], tail)
    | _ => none

/-- The fields of an object up to its closing brace, one at least. -/
def members : Nat → List Char → Option (List (String × Json) × List Char)
  | 0, _ => none
  | fuel + 1, cs =>
    match skipSpace cs with
    | '"' :: rest => do
      let (name, rest) ← string? rest
      match skipSpace rest with
      | ':' :: rest => do
        let (v, rest) ← value fuel rest
        match skipSpace rest with
        | ',' :: tail => do
          let (fs, tail) ← members fuel tail
          some ((name, v) :: fs, tail)
        | '}' :: tail => some ([(name, v)], tail)
        | _ => none
      | _ => none
    | _ => none

end

/-- The value that a text writes. Each level of nesting and each item takes a character, so the
length of the text bounds them all. -/
def parse? (s : String) : Option Json := do
  let cs := s.toList
  let (v, rest) ← value (2 * cs.length + 2) cs
  if (skipSpace rest).isEmpty then some v else none

end MissionConsole.Json
