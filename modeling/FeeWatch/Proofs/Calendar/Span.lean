import FeeWatch.Calendar.Span
import FeeWatch.Proofs.Number.Order
import FeeWatch.Proofs.Number.Precision
import FeeWatch.Proofs.Setting

/-! Lengths of time from numbers of seconds.

A positive number of seconds is a length that is not negative (`ofSeconds_nonneg`), and it is one at
all exactly if it is less than the seconds of the days that lengths may have
(`ofSeconds_isOk_iff`): the fraction of a second is rounded, but not up to a whole second where
that would make a day too many, since a double so great leaves few bits for the fraction. -/
namespace FeeWatch

namespace Number

theorem twoTo_succ (n : Nat) : twoTo (n + 1) = twoTo n * 2 := Nat.pow_succ 2 n

theorem twoTo_add (n k : Nat) : twoTo (n + k) = twoTo n * twoTo k := Nat.pow_add 2 n k

theorem twoTo_zero : twoTo 0 = 1 := rfl

namespace Binary

/-- A number that was rounded to the grid keeps its sign. -/
theorem sign_nearest {negative : Bool} {num den : Nat} {s : Bool} {m : Nat} {e : Int}
    (h : nearest negative num den = .finite s m e) : s = negative := by
  by_cases hnum : num = 0
  · rw [nearest, if_pos hnum] at h
    exact (Binary.finite.inj h).1.symm
  · rw [nearest, if_neg hnum] at h
    extract_lets grid mantissa at h
    generalize (if mantissa = twoTo 53 then (twoTo 52, grid + 1) else (mantissa, grid)) = pair at h
    obtain ⟨rounded, power⟩ := pair
    dsimp only at h
    split at h
    · cases h
    · exact (Binary.finite.inj h).1.symm

theorem signed_false_nonneg (m : Nat) : 0 ≤ signed false m := Int.natCast_nonneg m

/-- A quotient of a few bits lies on a part of the grid that is finer than whole numbers. -/
theorem gridExponent_neg {num den k : Nat} (hk : k < twoTo 20) (hnum : num ≠ 0)
    (h : num ≤ k * den) : gridExponent num den < 0 := by
  have hden : den ≠ 0 := by
    rintro rfl
    omega
  have hlog : num.log2 < den.log2 + 21 := by
    rw [Nat.log2_lt hnum]
    calc num ≤ k * den := h
      _ < twoTo 20 * 2 ^ (den.log2 + 1) :=
        Nat.mul_lt_mul_of_lt_of_le hk Nat.lt_log2_self.le (Nat.two_pow_pos _)
      _ = 2 ^ (den.log2 + 21) := by rw [twoTo, Nat.pow_eq, ← Nat.pow_add]; congr 1; omega
  unfold gridExponent leastExponent
  dsimp only
  split <;> omega

/-- A mantissa that rounding has made too long gives its last bit to the power. -/
theorem carried_le {m k : Nat} {e : Int} (he : e < 0) (hm : m ≤ k * twoTo (-e).toNat) {n : Nat}
    {f : Int} (hpair : (if m = twoTo 53 then (twoTo 52, e + 1) else (m, e)) = (n, f)) :
    f ≤ 0 ∧ n * twoTo f.toNat ≤ k * twoTo (-f).toNat := by
  split at hpair
  · rename_i hcarry
    obtain ⟨rfl, rfl⟩ := Prod.mk.inj hpair
    refine ⟨he, ?_⟩
    have hcarried : twoTo 53 = twoTo 52 * 2 := twoTo_succ 52
    have hfine : (-e).toNat = (-(e + 1)).toNat + 1 := by omega
    rw [hcarry, hcarried, hfine, twoTo_succ (-(e + 1)).toNat, ← Nat.mul_assoc] at hm
    rw [Int.toNat_of_nonpos he, twoTo_zero, Nat.mul_one]
    exact Nat.le_of_mul_le_mul_right hm (by decide)
  · obtain ⟨rfl, rfl⟩ := Prod.mk.inj hpair
    rw [Int.toNat_of_nonpos he.le, twoTo_zero, Nat.mul_one]
    exact ⟨he.le, hm⟩

/-- Rounding to the grid passes no whole number of a few bits. -/
theorem nearest_le {num den k : Nat} (hk : k < twoTo 20) (hden : 0 < den) (h : num ≤ k * den) :
    ∃ m e, nearest false num den = .finite false m e ∧
      m * twoTo e.toNat ≤ k * twoTo (-e).toNat := by
  by_cases hnum : num = 0
  · subst hnum
    exact ⟨0, leastExponent, rfl, by simp⟩
  · have hneg := gridExponent_neg hk hnum h
    have hm : roundDiv (num * twoTo (-gridExponent num den).toNat)
        (den * twoTo (gridExponent num den).toNat) ≤ k * twoTo (-gridExponent num den).toNat := by
      refine roundDiv_le (Nat.mul_pos hden (Nat.two_pow_pos _)) ?_
      rw [Int.toNat_of_nonpos hneg.le, twoTo_zero, Nat.mul_one, Nat.mul_right_comm]
      exact Nat.mul_le_mul_right _ h
    rw [nearest, if_neg hnum]
    extract_lets e m
    cases hpair : (if m = twoTo 53 then (twoTo 52, e + 1) else (m, e)) with
    | mk n f =>
      obtain ⟨hf, hle⟩ := carried_le hneg hm hpair
      have hgrid : ¬ greatestExponent < f := by
        unfold greatestExponent
        omega
      exact ⟨n, f, if_neg hgrid, hle⟩

end Binary

/-- Whether a number is whole or a double, whose mantissa has at most 53 bits. -/
def IsDouble : Number → Prop
  | .float (.finite _ m _) => m < twoTo 53
  | _ => True

end Number

namespace Calendar.Span

open FeeWatch.Number (Binary Decimal whole)

theorem fractionTicks_nonneg (m : Nat) (e : Int) : 0 ≤ fractionTicks false m e := by
  unfold fractionTicks
  dsimp only
  split
  · rename_i s n f hmul
    suffices s = false by
      rw [this]
      exact Binary.signed_false_nonneg _
    cases hmillion : Binary.ofInt second with
    | nan => rw [hmillion] at hmul; cases hmul
    | infinite t =>
      rw [hmillion, Binary.mul] at hmul
      split at hmul <;> cases hmul
    | finite t k g =>
      obtain rfl : t = false := Binary.sign_nearest hmillion
      rw [hmillion] at hmul
      exact Binary.sign_nearest hmul
  · exact Int.le_refl 0

theorem ofTicks_eq_ok {ticks n : Int} (h : ofTicks ticks = .ok n) : n = ticks := by
  unfold ofTicks at h
  dsimp only at h
  (repeat' split at h) <;> cases h
  rfl

/-- A positive number of seconds is no negative length of time. -/
theorem ofSeconds_nonneg {x : Number} {ticks : Int} (hx : Number.le x 0 = false)
    (h : ofSeconds x = .ok ticks) : 0 ≤ ticks := by
  cases x with
  | int n =>
    rw [ofSeconds] at h
    have hn : ¬ n ≤ 0 := by simpa using (Number.le_int n 0).symm.trans hx
    rw [ofTicks_eq_ok h]
    exact Int.mul_nonneg (by omega) (Int.natCast_nonneg _)
  | float x =>
    cases x with
    | nan => cases h
    | infinite s => cases h
    | finite s m e =>
      have hpos : ¬ Binary.signed s m * (Number.twoTo (e - min 0 e).toNat : Nat) ≤ 0 := by
        have := mt Number.le_float_int.mpr (Bool.eq_false_iff.mp hx)
        simpa using this
      cases s with
      | true =>
        refine absurd (Int.mul_nonpos_of_nonpos_of_nonneg ?_ (Int.natCast_nonneg _)) hpos
        rw [Binary.signed, if_pos rfl]
        omega
      | false =>
        rw [ofSeconds] at h
        rw [ofTicks_eq_ok h]
        exact Int.add_nonneg
          (Int.mul_nonneg (Binary.signed_false_nonneg _) (Int.natCast_nonneg _))
          (fractionTicks_nonneg _ _)

/-! ### The range of lengths -/

/-- A million fits a double exactly. -/
theorem ofInt_second : Binary.ofInt second = .finite false (second * Number.twoTo 33) (-33) := by
  decide +kernel

/-- The fraction of a second is rounded to no more than a whole number that it does not exceed. -/
theorem fractionTicks_le {m k : Nat} {e : Int} (he : e ≤ 0) (hk : k < Number.twoTo 20)
    (h : second * m ≤ k * Number.twoTo (-e).toNat) : fractionTicks false m e ≤ k := by
  have hnum : second * Number.twoTo 33 * m * Number.twoTo (-33 + e).toNat ≤
      k * Number.twoTo (-(-33 + e)).toNat := by
    rw [show (-33 + e).toNat = 0 by omega, Number.twoTo_zero, Nat.mul_one,
      show (-(-33 + e)).toNat = (-e).toNat + 33 by omega, Number.twoTo_add, ← Nat.mul_assoc,
      Nat.mul_right_comm]
    exact Nat.mul_le_mul_right _ h
  obtain ⟨n, f, hnearest, hle⟩ := Binary.nearest_le hk (Nat.two_pow_pos _) hnum
  have hmul : Binary.mul (Binary.ofInt second) (.finite false m e) = .finite false n f := by
    rw [ofInt_second]
    exact hnearest
  rw [fractionTicks, hmul]
  exact Int.ofNat_le.mpr (Number.roundDiv_le (Nat.two_pow_pos _) hle)

/-- A length that is not negative has at most so many days. -/
theorem ofTicks_isOk_iff {ticks : Int} (h : 0 ≤ ticks) :
    (∃ n, ofTicks ticks = .ok n) ↔ ticks < (dayLimit + 1) * day := by
  have hpow : (Number.twoTo 31 : Int) = 2147483648 := by decide
  have hday : (day : Int) = 86400000000 := by decide
  have hdays : Int.fdiv ticks 86400000000 = ticks / 86400000000 :=
    Int.fdiv_eq_ediv_of_nonneg _ (by decide)
  simp only [ofTicks, hpow, hday, hdays, dayLimit]
  by_cases hlt : ticks < 86400000000000000000
  · rw [if_neg (by omega), if_neg (by omega)]
    exact iff_of_true ⟨_, rfl⟩ (by simpa using hlt)
  · refine iff_of_false ?_ (by simpa using hlt)
    split
    · exact nofun
    · rw [if_pos (by omega)]
      exact nofun

/-- The seconds of the days that a length may have, and of the day after them. -/
def bound : Nat := (dayLimit + 1) * 86400

theorem bound_ticks : ((dayLimit + 1) * day : Int) = bound * second := by decide

/-- Beside the most seconds that fit, a double has bits for hundredths of a second only, so that the
fraction is not rounded up to a second. -/
theorem ticks_lt {m : Nat} {e : Int} (he : e < 0) (hm : m < Number.twoTo 53)
    (hlt : m < bound * Number.twoTo (-e).toNat) :
    ((m / Number.twoTo (-e).toNat : Nat) : Int) * second +
      fractionTicks false (m % Number.twoTo (-e).toNat) e < bound * second := by
  have hscale : 0 < Number.twoTo (-e).toNat := Nat.two_pow_pos _
  have hwhole : m / Number.twoTo (-e).toNat < 86400000000000 :=
    (Nat.div_lt_iff_lt_mul hscale).mpr hlt
  have hrest := Nat.mod_lt m hscale
  have hdecomp := Nat.div_add_mod m (Number.twoTo (-e).toNat)
  have hbits : Number.twoTo 53 = 9007199254740992 := by decide +kernel
  have hfraction {k : Nat} (hk : k < Number.twoTo 20)
      (h : 1000000 * (m % Number.twoTo (-e).toNat) ≤ k * Number.twoTo (-e).toNat) :
      fractionTicks false (m % Number.twoTo (-e).toNat) e ≤ k := fractionTicks_le he.le hk h
  rw [show bound = 86400000000000 from rfl, show second = 1000000 from rfl]
  generalize m / Number.twoTo (-e).toNat = full at *
  generalize m % Number.twoTo (-e).toNat = rest at *
  by_cases hfull : full + 1 < 86400000000000
  · have hle := hfraction (by decide : 1000000 < Number.twoTo 20) (by omega)
    omega
  · obtain rfl : full = 86399999999999 := by omega
    have hle := hfraction (by decide : 990385 < Number.twoTo 20) (by omega)
    omega

theorem value_lt_whole_iff {m n : Nat} {e : Int} :
    (Decimal.ofBinary (.finite false m e)).value < whole n ↔
      m * Number.twoTo e.toNat < n * Number.twoTo (-e).toNat := by
  have hscale : (0 : ℚ) < 2 ^ (-e).toNat := by positivity
  have hpow : (2 : ℚ) ^ e * 2 ^ (-e).toNat = 2 ^ e.toNat := by
    rw [← zpow_natCast, ← zpow_natCast, ← zpow_add₀ two_ne_zero]
    congr 1
    omega
  rw [Decimal.value_ofBinary, whole, Number.strictMono_extended.lt_iff_lt,
    ← mul_lt_mul_iff_left₀ hscale, mul_assoc, hpow]
  simp only [Binary.signed, ← Nat.cast_lt (α := ℚ)]
  push_cast [Number.cast_twoTo]
  rfl

theorem whole_lt_whole {a b : Int} : whole a < whole b ↔ a < b :=
  Number.strictMono_extended.lt_iff_lt.trans Int.cast_lt

theorem fractionTicks_zero (e : Int) : fractionTicks false 0 e = 0 := by
  simp [fractionTicks, ofInt_second, Binary.mul, Binary.nearest, Binary.zero, Binary.signed,
    Number.roundDiv_zero_left]

/-- A positive double is a length of time exactly if its days are not too many. -/
theorem ofSeconds_double_isOk_iff {m : Nat} {e : Int} (hm : m < Number.twoTo 53) :
    (∃ ticks, ofSeconds (.float (.finite false m e)) = .ok ticks) ↔
      m * Number.twoTo e.toNat < bound * Number.twoTo (-e).toNat := by
  have hsecond : (0 : Int) < second := by decide
  have hwhole : 0 ≤ Binary.truncate false m e * (second : Int) :=
    Int.mul_nonneg (Binary.signed_false_nonneg _) hsecond.le
  rw [ofSeconds, ofTicks_isOk_iff (Int.add_nonneg hwhole (fractionTicks_nonneg _ e)), bound_ticks]
  rcases le_or_gt 0 e with he | he
  · rw [if_pos he, fractionTicks_zero, Int.add_zero, Int.mul_lt_mul_right hsecond, Binary.truncate,
      Int.toNat_of_nonpos (by omega : -e ≤ 0), Number.twoTo_zero, Nat.div_one, Nat.mul_one]
    exact Int.ofNat_lt
  · have hscale : 0 < Number.twoTo (-e).toNat := Nat.two_pow_pos _
    rw [if_neg (by omega), Binary.truncate, Int.toNat_of_nonpos he.le, Number.twoTo_zero,
      Nat.mul_one]
    refine ⟨fun h => ?_, ticks_lt he hm⟩
    have hfraction := fractionTicks_nonneg (m % Number.twoTo (-e).toNat) e
    have hseconds := Int.lt_of_mul_lt_mul_right
      (Int.lt_of_le_of_lt (Int.le_add_of_nonneg_right hfraction) h) hsecond.le
    exact (Nat.div_lt_iff_lt_mul hscale).mp (Int.ofNat_lt.mp hseconds)

/-- **A positive number of seconds is a length of time exactly if its days are not too many.** -/
theorem ofSeconds_isOk_iff {x : Number} (hx : x.IsDouble)
    (hpos : whole 0 < (Decimal.ofNumber x).value) :
    (∃ ticks, ofSeconds x = .ok ticks) ↔ (Decimal.ofNumber x).value < whole bound := by
  cases x with
  | int n =>
    rw [Decimal.ofNumber, Decimal.value_ofInt, whole_lt_whole] at hpos ⊢
    have hnonneg : 0 ≤ n * (second : Int) := Int.mul_nonneg hpos.le (by decide)
    rw [ofSeconds, ofTicks_isOk_iff hnonneg, bound_ticks]
    exact Int.mul_lt_mul_right (by decide)
  | float x =>
    cases x with
    | nan => exact absurd hpos not_lt_bot
    | infinite s =>
      cases s with
      | true => exact absurd hpos not_lt_bot
      | false => exact iff_of_false (by rintro ⟨_, ⟨⟩⟩) not_top_lt
    | finite s m e =>
      cases s with
      | true =>
        have hneg : (Decimal.ofBinary (.finite true m e)).value ≤ whole 0 := by
          have hpow : (0 : ℚ) ≤ m * 2 ^ e := by positivity
          rw [Decimal.value_ofBinary, whole, Number.strictMono_extended.le_iff_le]
          simpa [Binary.signed] using hpow
        exact absurd hpos (not_lt_of_ge hneg)
      | false => exact (ofSeconds_double_isOk_iff hx).trans value_lt_whole_iff.symm

end Calendar.Span
end FeeWatch
