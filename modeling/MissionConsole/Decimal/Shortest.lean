import MissionConsole.Decimal.Binary

/-!
# The shortest decimal of a floating-point number

A floating-point number is written with the fewest significant digits that read back as the same
number, and among those with the nearest ones. The decimals that read back fill the interval
between the midpoints to both neighbours; its ends belong to it when the significand is even.

## Main definitions

* `Decimal.Interval` — the decimals that read back as one number
* `Decimal.shortest` — the fewest digits inside the interval, nearest to the number
* `Decimal.Style` — where positional writing ends, and how exponents look
* `Decimal.text` — the decimal text of a floating-point number
-/

namespace MissionConsole.Decimal

/-- The values that read back as one number: fractions over the denominator `unit`. -/
structure Interval where
  low : Nat
  value : Nat
  high : Nat
  unit : Nat
  closed : Bool

/-- The interval round `m * 2 ^ q`, in quarters of its unit. Below a power of two the neighbour is
only half as far. -/
def interval (m : Nat) (q : Int) : Interval :=
  let scale := Nat.pow 2 (q - 2).toNat
  { low := (if m = significandBound ∧ leastExponent < q then 4 * m - 1 else 4 * m - 2) * scale
    value := 4 * m * scale
    high := (4 * m + 2) * scale
    unit := Nat.pow 2 (2 - q).toNat
    closed := m % 2 == 0 }

/-- Whether `k * 10 ^ p` lies inside the interval. -/
def Interval.holds (i : Interval) (k : Nat) (p : Int) : Bool :=
  let x := k * Nat.pow 10 p.toNat * i.unit
  let low := i.low * Nat.pow 10 (-p).toNat
  let high := i.high * Nat.pow 10 (-p).toNat
  if i.closed then decide (low ≤ x) && decide (x ≤ high) else decide (low < x) && decide (x < high)

/-- The decimal on the grid of step `10 ^ p` that lies inside the interval and is nearest to its
value, if there is one; of two equally near ones the even one. -/
def Interval.onGrid (i : Interval) (p : Int) : Option Nat :=
  let v := i.value * Nat.pow 10 (-p).toNat
  let step := i.unit * Nat.pow 10 p.toNat
  let below := v / step
  if i.holds below p then
    if i.holds (below + 1) p then some (roundHalfEven v step) else some below
  else if i.holds (below + 1) p then some (below + 1)
  else none

/-- The count of digits of a positive whole number. -/
def digitCount (n : Nat) : Nat := (Nat.toDigits 10 n).length

/-- The exponent `e` with `10 ^ (e - 1) ≤ value < 10 ^ e`. -/
def Interval.decimalExponent (i : Interval) : Int :=
  (digitCount (i.value * Nat.pow 10 400 / i.unit) : Int) - 400

/-- Tries grids of ever finer steps, the coarsest one having `10 ^ p` as its step. -/
def Interval.search (i : Interval) : (tries : Nat) → (p : Int) → Nat × Int
  | 0, p => (i.value * Nat.pow 10 (-p).toNat / (i.unit * Nat.pow 10 p.toNat), p)
  | tries + 1, p =>
    match i.onGrid p with
    | some k => (k, p)
    | none => i.search tries (p - 1)

/-- The shortest decimal `k * 10 ^ p` that reads back as `m * 2 ^ q`. Seventeen digits are always
enough. -/
def shortest (m : Nat) (q : Int) : Nat × Int :=
  let i := interval m q
  i.search 17 (i.decimalExponent - 1)

/-! ### Writing -/

/-- How decimals are written. -/
structure Style where
  /-- The least and the first excluded exponent of the leading digit that are written
  positionally. -/
  positionalFrom : Int
  positionalBelow : Int
  /-- The least count of digits of an exponent. -/
  exponentWidth : Nat

/-- Decimals are positional from `0.0001` to below ten to the sixteenth; an exponent has a sign and
two digits at least. -/
def style : Style := ⟨-4, 16, 2⟩

/-- A text filled up with zeros on the left. -/
def padZeros (width : Nat) (s : List Char) : List Char :=
  List.replicate (width - s.length) '0' ++ s

/-- Digits without the zeros at the end, but at least one. -/
def significant (digits : List Char) : List Char :=
  match (digits.reverse.dropWhile (· == '0')).reverse with
  | [] => ['0']
  | ds => ds

/-- Writes the digits `ds`, the first of which counts `10 ^ e`. -/
def layOut (st : Style) (ds : List Char) (e : Int) : List Char :=
  if st.positionalFrom ≤ e ∧ e < st.positionalBelow then
    if e < 0 then '0' :: '.' :: List.replicate (-e - 1).toNat '0' ++ ds
    else
      let n := e.toNat + 1
      let whole := ds.take n ++ List.replicate (n - ds.length) '0'
      whole ++ '.' :: (if ds.length ≤ n then ['0'] else ds.drop n)
  else
    let mantissa := match ds with
      | [d] => [d]
      | d :: rest => d :: '.' :: rest
      | [] => []
    mantissa ++ 'e' :: (if e < 0 then '-' else '+') ::
      padZeros st.exponentWidth (Nat.toDigits 10 e.natAbs)

/-- The decimal text of `m * 2 ^ q`. -/
def finiteChars (m : Nat) (q : Int) : List Char :=
  if m = 0 then ['0', '.', '0']
  else
    let (k, p) := shortest m q
    let digits := Nat.toDigits 10 k
    layOut style (significant digits) (p + digits.length - 1)

/-- The decimal text of a floating-point number, with the names given for what is not finite. -/
def textWith (infinite notANumber : String) (x : Float) : String :=
  let b := ofFloat x
  let sign := if b.negative then "-" else ""
  match b.magnitude with
  | .finite m q => sign ++ String.ofList (finiteChars m q)
  | .infinite => sign ++ infinite
  | .notANumber => notANumber

/-- The decimal text of a floating-point number. -/
def text (x : Float) : String := textWith "inf" "nan" x

/-- A number as a message shows it: whole numbers without a point. -/
def brief (x : Float) : String :=
  match whole? x with
  | some n => toString n
  | none => text x

end MissionConsole.Decimal
