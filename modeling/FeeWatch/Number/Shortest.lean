import FeeWatch.Number.Binary

/-! The shortest decimal text of a double.

Among the decimals that read back as the same double, those with the fewest
digits are taken, and of these the one nearest to the exact value. A number from
a ten-thousandth up to 10¹⁶ is written positionally and keeps at least one
fraction digit; others have an exponent of two digits or more. -/
namespace FeeWatch.Number

/-- The value `digits · 10 ^ power`. -/
structure Digits where
  digits : Nat
  power : Int
deriving DecidableEq, Repr

namespace Digits

/-- Drops trailing zeros of the digits, at most `fuel` of them. -/
def strip : Nat → Digits → Digits
  | 0, d => d
  | fuel + 1, d =>
    if d.digits ≠ 0 ∧ d.digits % 10 = 0 then strip fuel ⟨d.digits / 10, d.power + 1⟩ else d

end Digits

namespace Binary

/-- The zeros between the point and the first digit of `num / den`, counted on from `k`. -/
def leadingZeros (num den : Nat) : Nat → Nat → Nat
  | 0, k => k
  | fuel + 1, k => if den ≤ num * tenTo (k + 1) then k else leadingZeros num den fuel (k + 1)

/-- The place of the first digit of `num / den`: the least `p` with `num / den < 10 ^ p`. -/
def leadingPlace (num den : Nat) : Int :=
  if den ≤ num then digitCount (num / den) else -(leadingZeros num den 400 0 : Int)

/-- The decimal of `count` digits nearest to `m · 2 ^ e` that reads back as it, if any. -/
def shortestWith (m : Nat) (e : Int) (place : Int) (count : Nat) : Option Digits :=
  let power := place - count
  let e := e - 2
  let up := twoTo e.toNat * tenTo (-power).toNat
  let grid := tenTo power.toNat * twoTo (-e).toNat
  let value := 4 * m * up
  let below := if m = twoTo 52 ∧ leastExponent < e + 2 then up else 2 * up
  let above := 2 * up
  let closed := m % 2 == 0
  let low := value / grid
  let high := low + 1
  let lowHit := if closed then value - low * grid ≤ below else value - low * grid < below
  let highHit := if closed then high * grid - value ≤ above else high * grid - value < above
  match decide lowHit, decide highHit with
  | true, true =>
    let left := value - low * grid
    let right := high * grid - value
    some ⟨if left < right ∨ (left = right ∧ low % 2 = 0) then low else high, power⟩
  | true, false => some ⟨low, power⟩
  | false, true => some ⟨high, power⟩
  | false, false => none

/-- The fewest digits that read back as `m · 2 ^ e`, a number other than zero. -/
def shortest (m : Nat) (e : Int) : Digits :=
  let (num, den) := scaled m e
  let place := leadingPlace num den
  let counts := (List.range 17).map (· + 1)
  match counts.findSome? (shortestWith m e place) with
  | some d => d.strip 20
  | none => ⟨m, e⟩

def zeros (n : Nat) : String := String.ofList (List.replicate n '0')

/-- The text of `digits · 10 ^ power`. -/
def positionalOrScientific (d : Digits) : String :=
  let text := toString d.digits
  let count := text.length
  let place : Int := count + d.power
  if -4 < place ∧ place ≤ 16 then
    if place ≤ 0 then "0." ++ zeros (-place).toNat ++ text
    else if (count : Int) ≤ place then text ++ zeros (place - count).toNat ++ ".0"
    else
      let cs := text.toList
      String.ofList (cs.take place.toNat) ++ "." ++ String.ofList (cs.drop place.toNat)
  else
    let cs := text.toList
    let fraction := if count = 1 then "" else "." ++ String.ofList (cs.drop 1)
    let power := place - 1
    let size := toString power.natAbs
    let size := if size.length = 1 then "0" ++ size else size
    String.ofList (cs.take 1) ++ fraction ++ "e" ++ (if power < 0 then "-" else "+") ++ size

/-- The shortest text that reads back as the number. -/
def text : Binary → String
  | .nan => "nan"
  | .infinite s => if s then "-inf" else "inf"
  | .finite s m e =>
    (if s then "-" else "") ++ (if m = 0 then "0.0" else positionalOrScientific (shortest m e))

end Binary
end FeeWatch.Number
