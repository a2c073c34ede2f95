import FeeWatch.Number.Reading

/-! Decimal arithmetic of 28 digits.

A decimal is a sign, a whole coefficient and a power of ten; equal values may
differ in trailing zeros, which arithmetic keeps. Results of more than 28 digits
are rounded to the nearest, ties to even. A result beyond 10 ^ 1000000 is an
overflow; an invalid operation (infinity times zero, order beside not-a-number, a
signaling operand) is refused. Order is exact. -/
namespace FeeWatch.Number

inductive Decimal where
  /-- The value `± digits · 10 ^ power`. -/
  | finite (negative : Bool) (digits : Nat) (power : Int)
  | infinite (negative : Bool)
  /-- Not a number; a signaling one is refused by every operation. -/
  | nan (negative signaling : Bool) (payload : Nat)
deriving DecidableEq, Repr, Inhabited

namespace Decimal

/-- Why an operation has no result. -/
inductive Fault where
  | invalid
  | overflow
  /-- A text has not the form of a decimal. -/
  | form
deriving DecidableEq, Repr, Inhabited

/-- The digits that a result keeps. -/
def precision : Nat := 28

/-- The greatest place of a leading digit, counted as a power of ten. -/
def greatestPower : Int := 999999

/-- The least power of ten of a result. -/
def leastPower : Int := -999999 - (precision - 1)

/-- A whole number, exactly. -/
def ofInt (n : Int) : Decimal := .finite (decide (n < 0)) n.natAbs 0

/-- Halves an even mantissa while its power of two is negative. -/
def reduceDyadic : Nat → Nat → Int → Nat × Int
  | 0, m, e => (m, e)
  | fuel + 1, m, e => if m % 2 = 0 ∧ e < 0 then reduceDyadic fuel (m / 2) (e + 1) else (m, e)

/-- A double, exactly. -/
def ofBinary : Binary → Decimal
  | .nan => .nan false false 0
  | .infinite s => .infinite s
  | .finite s m e =>
    let (m, e) := if m = 0 then (0, 0) else reduceDyadic 1100 m e
    if 0 ≤ e then .finite s (m * twoTo e.toNat) 0 else .finite s (m * Nat.pow 5 (-e).toNat) e

/-- A number, exactly. -/
def ofNumber : Number → Decimal
  | .int n => ofInt n
  | .float x => ofBinary x

/-! ### Rounding -/

/-- Fits a finite result into 28 digits and the range of powers. -/
def fit (negative : Bool) (digits : Nat) (power : Int) : Except Fault Decimal :=
  if digits = 0 then .ok (.finite negative 0 (min (max power leastPower) greatestPower))
  else
    let count := digitCount digits
    let last := max ((count : Int) + power - precision) leastPower
    if greatestPower < (count : Int) + power - 1 then .error .overflow
    else if last ≤ power then .ok (.finite negative digits power)
    else
      let drop := (last - power).toNat
      let rounded := if count < drop then 0 else roundDiv digits (tenTo drop)
      let (rounded, last) :=
        if digitCount rounded ≤ precision then (rounded, last) else (rounded / 10, last + 1)
      if greatestPower < (digitCount rounded : Int) + last - 1 then .error .overflow
      else .ok (.finite negative rounded last)

/-- A quiet not-a-number operand is the result; its payload keeps 28 digits. -/
def quiet (negative signaling : Bool) (payload : Nat) : Except Fault Decimal :=
  if signaling then .error .invalid else .ok (.nan negative false (payload % tenTo precision))

/-! ### Arithmetic -/

/-- The rounded product. -/
def mul : Decimal → Decimal → Except Fault Decimal
  | .nan s q p, .nan _ r _ => if r then .error .invalid else quiet s q p
  | .nan s q p, _ => quiet s q p
  | _, .nan s q p => quiet s q p
  | .infinite s, .infinite t => .ok (.infinite (s != t))
  | .infinite s, .finite t n _ => if n = 0 then .error .invalid else .ok (.infinite (s != t))
  | .finite s m _, .infinite t => if m = 0 then .error .invalid else .ok (.infinite (s != t))
  | .finite s m e, .finite t n f => fit (s != t) (m * n) (e + f)

/-- An operand too small to matter beside `m · 10 ^ e` but for its sign is replaced by a unit
just below the last place that rounding sees. -/
def shrink (m : Nat) (e : Int) (n : Nat) (f : Int) : Nat × Int :=
  let place := e + min (-1) ((digitCount m : Int) - precision - 2)
  if (digitCount n : Int) + f - 1 < place then (1, place) else (n, f)

/-- The rounded sum of two nonzero operands, `e` being the greater power. -/
def addAligned (s : Bool) (m : Nat) (e : Int) (t : Bool) (n : Nat) (f : Int) :
    Except Fault Decimal :=
  let (n, f) := shrink m e n f
  let sum := Binary.signed s (m * tenTo (e - f).toNat) + Binary.signed t n
  fit (decide (sum < 0)) sum.natAbs f

/-- The sum of a zero and a nonzero operand: the latter, written to the zero's place as far as
28 digits go. -/
def addZero (s : Bool) (m : Nat) (e : Int) (f : Int) : Except Fault Decimal :=
  let place := max (min e f) (e - precision - 1)
  fit s (m * tenTo (e - place).toNat) place

/-- The rounded sum. -/
def add : Decimal → Decimal → Except Fault Decimal
  | .nan s q p, .nan _ r _ => if r then .error .invalid else quiet s q p
  | .nan s q p, _ => quiet s q p
  | _, .nan s q p => quiet s q p
  | .infinite s, .infinite t => if s = t then .ok (.infinite s) else .error .invalid
  | .infinite s, .finite .. => .ok (.infinite s)
  | .finite .., .infinite t => .ok (.infinite t)
  | .finite s m e, .finite t n f =>
    if m = 0 ∧ n = 0 then fit (s && t) 0 (min e f)
    else if m = 0 then addZero t n f e
    else if n = 0 then addZero s m e f
    else if f ≤ e then addAligned s m e t n f
    else addAligned t n f s m e

/-- The opposite number. -/
def neg : Decimal → Decimal
  | .finite s m e => .finite (!s) m e
  | .infinite s => .infinite (!s)
  | x => x

/-- The rounded difference. -/
def sub (x y : Decimal) : Except Fault Decimal := add x (neg y)

/-! ### Order -/

/-- The order of two positive values. -/
def compareMagnitude (m : Nat) (e : Int) (n : Nat) (f : Int) : Ordering :=
  let a := (digitCount m : Int) + e
  let b := (digitCount n : Int) + f
  if a = b then
    let low := min e f
    compare (m * tenTo (e - low).toNat) (n * tenTo (f - low).toNat)
  else compare a b

/-- The sign of a finite value. -/
def sign (negative : Bool) (m : Nat) : Int := if m = 0 then 0 else if negative then -1 else 1

/-- The exact order; there is none beside not-a-number. -/
def compare : Decimal → Decimal → Except Fault Ordering
  | .nan .., _ => .error .invalid
  | _, .nan .. => .error .invalid
  | .infinite s, .infinite t => .ok (if s = t then .eq else if s then .lt else .gt)
  | .infinite s, .finite .. => .ok (if s then .lt else .gt)
  | .finite .., .infinite t => .ok (if t then .gt else .lt)
  | .finite s m e, .finite t n f =>
    .ok (if sign s m ≠ sign t n then Ord.compare (sign s m) (sign t n)
      else if sign s m = 0 then .eq
      else if s then compareMagnitude n f m e
      else compareMagnitude m e n f)

def lt (x y : Decimal) : Except Fault Bool := (compare x y).map (· == .lt)

def le (x y : Decimal) : Except Fault Bool := (compare x y).map (· != .gt)

/-! ### Text -/

/-- A coefficient with a point or an exponent: positional unless the power is positive or more
than five zeros would lead. -/
def finiteText (digits : Nat) (power : Int) : String :=
  let text := toString digits
  let place : Int := power + text.length
  let cs := text.toList
  if power ≤ 0 ∧ -6 < place then
    if power = 0 then text
    else if place ≤ 0 then "0." ++ Binary.zeros (-place).toNat ++ text
    else String.ofList (cs.take place.toNat) ++ "." ++ String.ofList (cs.drop place.toNat)
  else
    let fraction := if text.length = 1 then "" else "." ++ String.ofList (cs.drop 1)
    let exponent := place - 1
    let mark := if exponent < 0 then "E-" else "E+"
    String.ofList (cs.take 1) ++ fraction ++ mark ++ toString exponent.natAbs

def text : Decimal → String
  | .finite s m e => (if s then "-" else "") ++ finiteText m e
  | .infinite s => if s then "-Infinity" else "Infinity"
  | .nan s q p =>
    (if s then "-" else "") ++ (if q then "sNaN" else "NaN") ++ (if p = 0 then "" else toString p)

/-- The greatest power of ten that a literal may reach. -/
def literalPower : Int := 999999999999999999

/-- A literal's value, when it needs no rounding at all. -/
def literal (negative : Bool) (digits : Nat) (power : Int) : Except Fault Decimal :=
  let least := -literalPower - (literalPower - 1)
  let top := if digits = 0 then power else digitCount digits + power - 1
  if literalPower < top || power < least then .error .invalid
  else .ok (.finite negative digits power)

/-- The special value that a lower-case word names. -/
def special (negative : Bool) (word : List Char) : Option Decimal :=
  let payload (signaling : Bool) (cs : List Char) : Option Decimal :=
    if cs.all Char.isDigit then some (.nan negative signaling (Text.digitsValue cs)) else none
  match word with
  | ['i', 'n', 'f'] => some (.infinite negative)
  | ['i', 'n', 'f', 'i', 'n', 'i', 't', 'y'] => some (.infinite negative)
  | 'n' :: 'a' :: 'n' :: cs => payload false cs
  | 's' :: 'n' :: 'a' :: 'n' :: cs => payload true cs
  | _ => none

/-- The decimal that a text writes: blanks around it and all underscores are ignored. -/
def read (s : String) : Except Fault Decimal :=
  let cs := ((Text.trim Text.isBlank s.toList).filter (· != '_')).map Text.foldDigit
  let (negative, cs) := splitSign cs
  match special negative (cs.map Char.toLower) with
  | some x => .ok x
  | none =>
    match readDecimal cs with
    | some (digits, power) => literal negative digits power
    | none => .error .form

/-- The decimal that a text writes, if it writes one. -/
def ofText (s : String) : Option Decimal := (read s).toOption

end Decimal
end FeeWatch.Number
