/-!
# Floating-point numbers as exact values

A finite floating-point number is a whole number of units `2 ^ q`. Reading it as such a pair, and
finding the number nearest to an exact fraction, makes printing and reading decimals a matter of
whole-number arithmetic.

## Main definitions

* `Decimal.Binary` — sign, class and exact magnitude of a floating-point number
* `Decimal.ofFloat` — the exact reading of a floating-point number
* `Decimal.roundHalfEven` — a fraction rounded to the nearest whole number
* `Decimal.nearest` — the floating-point number nearest to a fraction
* `Decimal.exceeds` — a floating-point number compared with a whole number
-/

namespace MissionConsole.Decimal

/-- What a floating-point number stands for, its sign apart. -/
inductive Magnitude where
  /-- The exact value `m * 2 ^ q`. -/
  | finite (m : Nat) (q : Int)
  | infinite
  | notANumber

/-- A floating-point number as a sign and a magnitude. -/
structure Binary where
  negative : Bool
  magnitude : Magnitude

/-- The exponent of the unit of the smallest numbers. -/
def leastExponent : Int := -1074

/-- The whole numbers below it, in units of a normal number, need one more unit bit. -/
def significandBound : Nat := Nat.pow 2 52

/-- The bit pattern of positive infinity. -/
def infinityBits : Nat := 2047 * Nat.pow 2 52

/-- Reads sign, exponent and fraction from the bit pattern. -/
def ofBits (bits : Nat) : Binary where
  negative := decide (Nat.pow 2 63 ≤ bits)
  magnitude :=
    let exponent : Nat := bits / Nat.pow 2 52 % 2048
    let fraction : Nat := bits % Nat.pow 2 52
    if exponent = 2047 then (if fraction = 0 then .infinite else .notANumber)
    else if exponent = 0 then .finite fraction leastExponent
    else .finite (fraction + significandBound) ((exponent : Int) - 1075)

/-- The exact reading of a floating-point number. -/
def ofFloat (x : Float) : Binary :=
  ofBits x.toBits.toNat

/-! ### Rounding a fraction -/

/-- The whole number nearest to `n / d`; of two equally near ones the even one. -/
def roundHalfEven (n d : Nat) : Nat :=
  let k := n / d
  let r := n % d
  if 2 * r > d ∨ (2 * r = d ∧ k % 2 = 1) then k + 1 else k

/-- The exponent `e` with `2 ^ e ≤ n / d < 2 ^ (e + 1)`, for positive `n` and `d`. -/
def binaryExponent (n d : Nat) : Int :=
  let k : Int := (n.log2 : Int) - (d.log2 : Int)
  if d * Nat.pow 2 k.toNat ≤ n * Nat.pow 2 (-k).toNat then k else k - 1

/-- The bit pattern of the number nearest to the positive fraction `n / d`. Fractions beyond the
largest number give infinity, those far below the smallest one zero. -/
def nearestBits (n d : Nat) : Nat :=
  let q := max (binaryExponent n d - 52) leastExponent
  let m := roundHalfEven (n * Nat.pow 2 (-q).toNat) (d * Nat.pow 2 q.toNat)
  min ((q - leastExponent).toNat * Nat.pow 2 52 + m) infinityBits

/-- The floating-point number nearest to `n / d`, with the sign given. -/
def nearest (negative : Bool) (n d : Nat) : Float :=
  let bits := if n = 0 then 0 else nearestBits n d
  Float.ofBits (UInt64.ofNat (bits + if negative then Nat.pow 2 63 else 0))

/-- Infinity with the sign given. -/
def infinity (negative : Bool) : Float :=
  Float.ofBits (UInt64.ofNat (infinityBits + if negative then Nat.pow 2 63 else 0))

/-- The value that is no number. -/
def notANumber : Float :=
  Float.ofBits (UInt64.ofNat (infinityBits + Nat.pow 2 51))

/-- The number nearest to a whole number. -/
def ofInt (n : Int) : Float :=
  nearest (decide (n < 0)) n.natAbs 1

/-- Whether a floating-point number is neither infinite nor the value that is no number. -/
def isFinite (x : Float) : Bool :=
  match (ofFloat x).magnitude with
  | .finite _ _ => true
  | _ => false

/-- The whole number that a floating-point number equals, if there is one. -/
def whole? (x : Float) : Option Int :=
  let b := ofFloat x
  match b.magnitude with
  | .finite m q =>
    let unit := Nat.pow 2 (-q).toNat
    if m % unit = 0 then
      let n : Int := (m / unit * Nat.pow 2 q.toNat : Nat)
      some (if b.negative then -n else n)
    else none
  | _ => none

/-- Whether a floating-point number is greater than a whole number. Both count as they are: the
whole number is not rounded first. -/
def exceeds (x : Float) (n : Int) : Bool :=
  let b := ofFloat x
  match b.magnitude with
  | .notANumber => false
  | .infinite => !b.negative
  | .finite m q =>
    let scaled : Int := (m * Nat.pow 2 q.toNat : Nat)
    decide (n * (Nat.pow 2 (-q).toNat : Nat) < if b.negative then -scaled else scaled)

end MissionConsole.Decimal
