import MissionConsole.Text.Blank
import MissionConsole.Text.Digit
import MissionConsole.Text.Quoted
import MissionConsole.Decimal.Binary

/-!
# Numerals

How numbers are read from text. Digits may be of any script, single underscores may stand between
digits, and blanks round the numeral are ignored. A whole number has an optional sign and digits; a
real number may have a point and an exponent, or name infinity or the value that is no number.

## Main definitions

* `Numeral.Malformed` — why a text is no whole number
* `Numeral.int` — the whole number that a text writes
* `Numeral.real?` — the floating-point number nearest to the real number that a text writes
-/

namespace MissionConsole.Numeral

open MissionConsole

/-- A character as numerals read it: digits of all scripts are alike, and so are the blanks above
ASCII. -/
def plainChar (c : Char) : Char :=
  if c.toNat < 0x80 then c
  else if Text.isBlank c then ' '
  else match Text.digitValue? c with
    | some d => Char.ofNat (48 + d)
    | none => c

/-- The blanks that may surround a numeral once it is in plain characters. -/
def isSurrounding (c : Char) : Bool :=
  (9 ≤ c.toNat && c.toNat ≤ 13) || c == ' '

/-- The characters of a numeral in plain form, without the blanks round it. -/
def plainChars (s : String) : List Char :=
  (((s.toList.map plainChar).dropWhile isSurrounding).reverse.dropWhile isSurrounding).reverse

/-- An ASCII digit. -/
def isDigit (c : Char) : Bool := 48 ≤ c.toNat && c.toNat ≤ 57

/-- An optional sign: whether the rest is to be negated, and the rest. -/
def takeSign : List Char → Bool × List Char
  | '-' :: rest => (true, rest)
  | '+' :: rest => (false, rest)
  | rest => (false, rest)

/-- The value of a run of digits. -/
def valueOf (digits : List Char) : Nat :=
  digits.foldl (fun n c => 10 * n + (c.toNat - 48)) 0

/-- Removes underscores, each of which must stand between two digits; `afterDigit` tells whether a
digit stands before the characters given. -/
def joinDigits (afterDigit : Bool) : List Char → Option (List Char)
  | [] => some []
  | '_' :: rest =>
    match rest with
    | d :: _ => if afterDigit && isDigit d then joinDigits false rest else none
    | [] => none
  | c :: rest => (joinDigits (isDigit c) rest).map (c :: ·)

/-! ### Whole numbers -/

/-- The most digits that a whole number may have. -/
def maxDigits : Nat := 4300

/-- Why a text is no whole number. -/
inductive Malformed where
  | notANumeral (text : String)
  | tooLong (digits : Nat)

/-- The wording of the failure. A text is shown in quotes, cut to 200 characters. -/
def Malformed.message : Malformed → String
  | .notANumeral text =>
    "invalid literal for int() with base 10: " ++ String.ofList ((Text.quoted text).toList.take 200)
  | .tooLong digits =>
    "Exceeds the limit (" ++ toString maxDigits ++
      " digits) for integer string conversion: value has " ++ toString digits ++
      " digits; use sys.set_int_max_str_digits() to increase the limit"

/-- The whole number that a text writes. Too many digits are refused before what follows them is
looked at. -/
def int (s : String) : Except Malformed Int :=
  let (negative, body) := takeSign (plainChars s)
  let isPart (c : Char) : Bool := isDigit c || c == '_'
  match joinDigits false (body.takeWhile isPart) with
  | none => .error (.notANumeral s)
  | some digits =>
    if digits.isEmpty then .error (.notANumeral s)
    else if maxDigits < digits.length then .error (.tooLong digits.length)
    else if !(body.dropWhile isPart).isEmpty then .error (.notANumeral s)
    else .ok (if negative then -(valueOf digits : Int) else valueOf digits)

/-! ### Real numbers -/

/-- A decimal fraction `coefficient * 10 ^ exponent`. -/
structure Fraction where
  coefficient : Nat
  exponent : Int

/-- The number nearest to a decimal fraction. Fractions that are far out of range are not computed:
one with more than 310 digits before the point is infinite, one with more than 330 zeros behind it
is zero. -/
def Fraction.toFloat (negative : Bool) (f : Fraction) : Float :=
  let leading := ((Nat.toDigits 10 f.coefficient).length : Int) + f.exponent
  if f.coefficient = 0 ∨ leading < -330 then Decimal.nearest negative 0 1
  else if 310 < leading then Decimal.infinity negative
  else
    Decimal.nearest negative (f.coefficient * Nat.pow 10 f.exponent.toNat)
      (Nat.pow 10 (-f.exponent).toNat)

/-- An optional exponent, which must use up all characters. -/
def exponent? : List Char → Option Int
  | [] => some 0
  | c :: rest =>
    if c = 'e' ∨ c = 'E' then
      let (negative, digits) := takeSign rest
      if digits.isEmpty || !digits.all isDigit then none
      else some (if negative then -(valueOf digits : Int) else valueOf digits)
    else none

/-- A decimal fraction: digits, an optional point with more digits, an optional exponent. -/
def fraction? (cs : List Char) : Option Fraction :=
  let whole := cs.takeWhile isDigit
  let rest := cs.dropWhile isDigit
  let (places, tail) := match rest with
    | '.' :: r => (r.takeWhile isDigit, r.dropWhile isDigit)
    | r => ([], r)
  if whole.isEmpty && places.isEmpty then none
  else (exponent? tail).map fun e => ⟨valueOf (whole ++ places), e - places.length⟩

/-- The names of the values that are not finite, in lower case. -/
def named? (negative : Bool) (cs : List Char) : Option Float :=
  match String.ofList (cs.map Char.toLower) with
  | "inf" | "infinity" => some (Decimal.infinity negative)
  | "nan" => some Decimal.notANumber
  | _ => none

/-- The floating-point number nearest to the real number that a text writes. -/
def real? (s : String) : Option Float :=
  let (negative, body) := takeSign (plainChars s)
  match named? negative body with
  | some x => some x
  | none =>
    match joinDigits false body with
    | none => none
    | some cs => (fraction? cs).map (·.toFloat negative)

end MissionConsole.Numeral
