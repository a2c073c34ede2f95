/-! Powers of the two bases that numbers are written in, and rounding a quotient to the
nearest whole number, ties to the even one. -/
namespace FeeWatch.Number

def twoTo (n : Nat) : Nat := Nat.pow 2 n

def tenTo (n : Nat) : Nat := Nat.pow 10 n

/-- The whole number nearest to `n / d`; of two equally near, the even one. -/
def roundDiv (n d : Nat) : Nat :=
  let q := n / d
  let r := n % d
  if d < 2 * r ∨ (2 * r = d ∧ q % 2 = 1) then q + 1 else q

/-- The number of decimal digits; zero has none. -/
def digitCount : Nat → Nat
  | 0 => 0
  | n + 1 => digitCount ((n + 1) / 10) + 1

/-- `n · 2 ^ e`, for a power that may be negative, as a fraction. -/
def scaled (n : Nat) (e : Int) : Nat × Nat :=
  (n * twoTo e.toNat, twoTo (-e).toNat)

theorem roundDiv_zero_left (d : Nat) : roundDiv 0 d = 0 := by
  by_cases h : d < 0 ∨ ((0 : Nat) = d ∧ (0 : Nat) % 2 = 1) <;> simp [roundDiv]

/-- Rounding never leaves the two whole numbers around the quotient. -/
theorem roundDiv_bounds (n d : Nat) : n / d ≤ roundDiv n d ∧ roundDiv n d ≤ n / d + 1 := by
  unfold roundDiv
  dsimp only
  split <;> omega

/-- Rounding is exact on whole quotients. -/
theorem roundDiv_mul_self (q : Nat) {d : Nat} (h : 0 < d) : roundDiv (q * d) d = q := by
  unfold roundDiv
  simp [Nat.mul_div_cancel q h]
  omega

end FeeWatch.Number
