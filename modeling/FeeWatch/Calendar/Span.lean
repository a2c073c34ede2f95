import FeeWatch.Calendar.Instant
import FeeWatch.Number.Reading

/-! Lengths of time.

A length in seconds, given as a number, becomes whole microseconds: the fraction
of a second is rounded to the nearest, ties to even. A length in microseconds
compares with a number of seconds by the double nearest to its seconds. -/
namespace FeeWatch.Calendar.Span

open FeeWatch.Number (Binary)

/-- Why a number of seconds is no length of time. -/
inductive Fault where
  | nan
  | infinite
  /-- More days than a day count can hold at all. -/
  | hugeDays
  /-- More days than a length of time may have. -/
  | days (n : Int)
deriving DecidableEq, Repr, Inhabited

/-- The most days of a length of time. -/
def dayLimit : Nat := 999999999

def Fault.message : Fault → String
  | .nan => Number.Fault.message .nanToInteger
  | .infinite => Number.Fault.message .infinityToInteger
  | .hugeDays => "Python int too large to convert to C int"
  | .days n => s!"days={n}; must have magnitude <= {dayLimit}"

/-- Checks the days of a length in microseconds. -/
def ofTicks (ticks : Int) : Except Fault Int :=
  let days := Int.fdiv ticks day
  if (Number.twoTo 31 : Int) ≤ days ∨ days < -(Number.twoTo 31 : Int) then .error .hugeDays
  else if (dayLimit : Int) < days ∨ days < -(dayLimit : Int) then .error (.days days)
  else .ok ticks

/-- Microseconds of a fraction of a second: the product with a million is a double, which is then
rounded to a whole number. -/
def fractionTicks (negative : Bool) (m : Nat) (e : Int) : Int :=
  let million : Binary := Binary.ofInt second
  match Binary.mul million (.finite negative m e) with
  | .finite s n f =>
    Binary.signed s (Number.roundDiv (n * Number.twoTo f.toNat) (Number.twoTo (-f).toNat))
  | _ => 0

/-- The microseconds of a number of seconds. -/
def ofSeconds : Number → Except Fault Int
  | .int n => ofTicks (n * second)
  | .float .nan => .error .nan
  | .float (.infinite _) => .error .infinite
  | .float (.finite s m e) =>
    let whole := Binary.truncate s m e
    let rest := if 0 ≤ e then 0 else m % Number.twoTo (-e).toNat
    ofTicks (whole * second + fractionTicks s rest e)

/-- The seconds of a length in microseconds. -/
def seconds (ticks : Int) : Number :=
  .float (Binary.nearest (decide (ticks < 0)) ticks.natAbs second)

/-- Whether a length exceeds a number of seconds. -/
def exceeds (ticks : Int) (limit : Number) : Bool := Number.lt limit (seconds ticks)

/-- Whether a length is at least a number of seconds. -/
def reaches (ticks : Int) (limit : Number) : Bool := Number.le limit (seconds ticks)

end FeeWatch.Calendar.Span
