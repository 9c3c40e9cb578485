import MissionConsole.Decimal.Binary

/-!
# Time scales

Alerts and web sessions end after a while. All they need of a clock is that its readings can be
compared, that a duration can be added to one, and that two can be subtracted. A clock may be unable
to tell a duration that is too long for it. The program reads seconds as floating-point numbers;
what holds of every scale also holds of exact ones.

## Main definitions

* `Timescale` — readings of a clock
* `Patience` — how long something may take
-/

namespace MissionConsole

/-- Readings of a clock: compared, added and subtracted, with durations given as counts. -/
class Timescale (τ : Type) extends Add τ, Sub τ where
  /-- Whether a reading comes before another one, or a duration is shorter. -/
  before : τ → τ → Bool
  /-- The beginning of the scale. -/
  start : τ
  /-- The duration of a count of milliseconds, unless it is too long for the scale. -/
  millis? : Int → Option τ
  /-- Whether a duration is longer than a count of seconds, which may be too long for the scale. -/
  exceedsSeconds : τ → Int → Bool

/-- Seconds as floating-point numbers. -/
instance : Timescale Float where
  before a b := a < b
  start := 0
  millis? n :=
    let x := Decimal.ofInt n
    if Decimal.isFinite x then some (x / 1000) else none
  exceedsSeconds := Decimal.exceeds

/-- Whole milliseconds: exact, and never too long. -/
instance : Timescale Int where
  before a b := decide (a < b)
  start := 0
  millis? := some
  exceedsSeconds d n := decide (n * 1000 < d)

/-- How long something may take: a count of seconds, or a duration on the scale of the clock. -/
inductive Patience (τ : Type) where
  | seconds (n : Int)
  | duration (d : τ)

/-- Whether a duration is longer than it may be. -/
def Patience.exceededBy {τ : Type} [Timescale τ] (p : Patience τ) (d : τ) : Bool :=
  match p with
  | .seconds n => Timescale.exceedsSeconds d n
  | .duration most => Timescale.before most d

end MissionConsole
