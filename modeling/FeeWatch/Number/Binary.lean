import FeeWatch.Number.Rounding

/-! Double-precision numbers as signed dyadic fractions.

A finite number is a sign, a mantissa below 2⁵³ and a power of two from −1074 to
971; the mantissa is at least 2⁵² unless the power is the least one, so equal
numbers of one sign are equal as data. `nearest` rounds any fraction to that
grid, and order is the exact order of the values. -/
namespace FeeWatch.Number

/-- A double-precision number. -/
inductive Binary where
  /-- The value `± mantissa · 2 ^ exponent`. -/
  | finite (negative : Bool) (mantissa : Nat) (exponent : Int)
  | infinite (negative : Bool)
  | nan
deriving DecidableEq, Repr, Inhabited

namespace Binary

/-- The least power of two of the grid. -/
def leastExponent : Int := -1074

/-- The greatest power of two of the grid. -/
def greatestExponent : Int := 971

def zero (negative : Bool) : Binary := .finite negative 0 leastExponent

/-- The power of two at which `num / den` has 53 bits, or the least one. -/
def gridExponent (num den : Nat) : Int :=
  let e : Int := (num.log2 : Int) - (den.log2 : Int) - 53
  let (n, d) := (num * twoTo (-e).toNat, den * twoTo e.toNat)
  let e := if d * twoTo 53 ≤ n then e + 1 else e
  max e leastExponent

/-- The grid number nearest to `± num / den`, ties to the even mantissa. -/
def nearest (negative : Bool) (num den : Nat) : Binary :=
  if num = 0 then zero negative
  else
    let e := gridExponent num den
    let m := roundDiv (num * twoTo (-e).toNat) (den * twoTo e.toNat)
    let (m, e) := if m = twoTo 53 then (twoTo 52, e + 1) else (m, e)
    if greatestExponent < e then .infinite negative else .finite negative m e

/-- The grid number nearest to `± digits · 10 ^ power`. -/
def ofDecimal (negative : Bool) (digits : Nat) (power : Int) : Binary :=
  if digits = 0 then zero negative
  else
    let magnitude : Int := digitCount digits + power
    if 400 < magnitude then .infinite negative
    else if magnitude < -400 then zero negative
    else nearest negative (digits * tenTo power.toNat) (tenTo (-power).toNat)

/-- The grid number nearest to a whole number, infinite past the grid's end. -/
def ofInt (n : Int) : Binary := nearest (decide (n < 0)) n.natAbs 1

/-- The mantissa with its sign. -/
def signed (negative : Bool) (m : Nat) : Int := if negative then -(m : Int) else m

/-- The whole number left when the fraction is cut off a finite number. -/
def truncate (negative : Bool) (m : Nat) (e : Int) : Int :=
  signed negative (m * twoTo e.toNat / twoTo (-e).toNat)

/-- The order of `a · 2 ^ ea` and `b · 2 ^ eb`. -/
def compareDyadic (a : Int) (ea : Int) (b : Int) (eb : Int) : Ordering :=
  let low := min ea eb
  compare (a * twoTo (ea - low).toNat) (b * twoTo (eb - low).toNat)

/-- Order of values; nothing compares with `nan`. -/
def compare? : Binary → Binary → Option Ordering
  | .nan, _ => none
  | _, .nan => none
  | .infinite s, .infinite t => some (if s = t then .eq else if s then .lt else .gt)
  | .infinite s, .finite .. => some (if s then .lt else .gt)
  | .finite .., .infinite t => some (if t then .gt else .lt)
  | .finite s m e, .finite t n f => some (compareDyadic (signed s m) e (signed t n) f)

/-- The opposite number. -/
def neg : Binary → Binary
  | .finite s m e => .finite (!s) m e
  | .infinite s => .infinite (!s)
  | .nan => .nan

/-- The product, rounded to the grid. -/
def mul : Binary → Binary → Binary
  | .nan, _ => .nan
  | _, .nan => .nan
  | .infinite s, .infinite t => .infinite (s != t)
  | .infinite s, .finite t n _ => if n = 0 then .nan else .infinite (s != t)
  | .finite s m _, .infinite t => if m = 0 then .nan else .infinite (s != t)
  | .finite s m e, .finite t n f =>
    nearest (s != t) (m * n * twoTo (e + f).toNat) (twoTo (-(e + f)).toNat)

/-- The sum, rounded to the grid. -/
def add : Binary → Binary → Binary
  | .nan, _ => .nan
  | _, .nan => .nan
  | .infinite s, .infinite t => if s = t then .infinite s else .nan
  | .infinite s, .finite .. => .infinite s
  | .finite .., .infinite t => .infinite t
  | .finite s m e, .finite t n f =>
    let low := min e f
    let sum := signed s (m * twoTo (e - low).toNat) + signed t (n * twoTo (f - low).toNat)
    if sum = 0 then zero (s && t)
    else nearest (decide (sum < 0)) (sum.natAbs * twoTo low.toNat) (twoTo (-low).toNat)

/-- Whether the value is zero, of either sign. -/
def isZero : Binary → Bool
  | .finite _ m _ => m == 0
  | _ => false

theorem compare?_nan_left (x : Binary) : compare? .nan x = none := by
  cases x <;> rfl

theorem compare?_nan_right (x : Binary) : compare? x .nan = none := by
  cases x <;> rfl

end Binary
end FeeWatch.Number
