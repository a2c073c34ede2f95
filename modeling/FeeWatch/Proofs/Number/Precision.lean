import FeeWatch.Proofs.Number.Order
import Mathlib.Data.Nat.Cast.Order.Field

/-! What rounding keeps of the order.

Results have 28 digits and no place below the least one. A value that fits this grid is never
passed by rounding: what is at most such a value stays at most it (`fit_le`). So a factor of at
most one does not enlarge a value of 28 digits (`mul_le`), though the product is rounded and
the factor may have been (`sub_le_one`). Values of more digits have no such bound. -/
namespace FeeWatch.Number

/-- What is at most a whole quotient is rounded to at most that. -/
theorem roundDiv_le {n q d : Nat} (hd : 0 < d) (h : n ≤ q * d) : roundDiv n d ≤ q := by
  have hdiv : n / d ≤ q := Nat.div_le_of_le_mul (by rwa [Nat.mul_comm])
  rcases Nat.lt_or_eq_of_le hdiv with hlt | heq
  · exact Nat.le_trans (roundDiv_bounds n d).2 hlt
  · have hdecomp := Nat.div_add_mod n d
    rw [heq, Nat.mul_comm] at hdecomp
    obtain rfl : n = q * d := by omega
    exact (roundDiv_mul_self q hd).le

namespace Decimal

/-- Whether a decimal has at most 28 digits, zeros at the end aside, none below the least place of
results. -/
def IsShort : Decimal → Prop
  | .finite _ digits power =>
    ∃ c k : Nat, digits = c * 10 ^ k ∧ c < 10 ^ precision ∧ leastPower ≤ power + k
  | _ => True

/-- A whole number of at most 28 digits, whatever zeros follow them. -/
theorem ofInt_isShort {n : Int} {c k : Nat} (h : n.natAbs = c * 10 ^ k)
    (hc : c < 10 ^ precision) : (ofInt n).IsShort :=
  ⟨c, k, h, hc, by simp only [leastPower, precision]; omega⟩

theorem value_finite_le {s t : Bool} {m n : Nat} {e f : Int} :
    (finite s m e).value ≤ (finite t n f).value ↔ ratio s m e ≤ ratio t n f :=
  strictMono_extended.le_iff_le

theorem value_finite_le_whole {s : Bool} {m : Nat} {e n : Int} :
    (finite s m e).value ≤ whole n ↔ ratio s m e ≤ n :=
  strictMono_extended.le_iff_le

theorem value_finite_lt_whole {s : Bool} {m : Nat} {e n : Int} :
    (finite s m e).value < whole n ↔ ratio s m e < n :=
  strictMono_extended.lt_iff_lt

theorem whole_le_value_finite {s : Bool} {m : Nat} {e n : Int} :
    whole n ≤ (finite s m e).value ↔ n ≤ ratio s m e :=
  strictMono_extended.le_iff_le

theorem not_whole_le_bot {n : Int} : ¬ whole n ≤ ⊥ := not_le_of_gt (WithBot.bot_lt_coe _)

/-- Zeros behind the digits count as a higher power. -/
theorem ratio_mul_pow {s : Bool} {c k : Nat} {f : Int} :
    ratio s (c * 10 ^ k) f = ratio s c (f + k) := by
  have hten : (10 : ℚ) ^ (f + k) = 10 ^ k * 10 ^ f := by
    rw [add_comm, zpow_add₀ (by norm_num), zpow_natCast]
  cases s <;> simp [ratio, Binary.signed, hten, mul_assoc]

/-- A negative sign goes with no positive value. -/
theorem eq_zero_of_ratio_nonneg {m : Nat} {e : Int} (h : 0 ≤ ratio true m e) : m = 0 := by
  by_contra hm
  have hpos := ratio_false_pos (e := e) hm
  rw [ratio_true] at h
  linarith

/-! ### Rounding -/

/-- The last place that a result keeps. -/
def lastPlace (digits : Nat) (power : Int) : Int :=
  max ((digitCount digits : Int) + power - precision) leastPower

/-- The results of fitting a value into 28 digits. -/
inductive Fitted (s : Bool) (m : Nat) (p : Int) : Decimal → Prop
  | zero {q : Int} (hm : m = 0) (hleast : leastPower ≤ q) : Fitted s m p (.finite s 0 q)
  | exact (hlast : lastPlace m p ≤ p) : Fitted s m p (.finite s m p)
  | rounded {r : Nat} (hlast : p < lastPlace m p)
      (hr : r ≤ roundDiv m (tenTo (lastPlace m p - p).toNat)) (hcount : digitCount r ≤ precision) :
      Fitted s m p (.finite s r (lastPlace m p))
  /-- Rounding up has made one digit more. -/
  | carried {r : Nat} (hlast : p < lastPlace m p)
      (hr : r ≤ roundDiv m (tenTo (lastPlace m p - p).toNat)) :
      Fitted s m p (.finite s (r / 10) (lastPlace m p + 1))

theorem fit_fitted {s : Bool} {m : Nat} {p : Int} {x : Decimal} (h : fit s m p = .ok x) :
    Fitted s m p x := by
  unfold fit at h
  split at h
  · cases h
    refine .zero ‹_› ?_
    simp only [leastPower, precision, greatestPower]
    omega
  · extract_lets count last drop rounded at h
    split at h
    · cases h
    · split at h
      · cases h
        exact .exact ‹_›
      · rename_i hlast
        have hr : rounded ≤ roundDiv m (tenTo drop) := by
          dsimp only [rounded]
          split <;> omega
        split at h
        rename_i c q hpair
        split at h
        · cases h
        · cases h
          split at hpair <;> cases hpair
          · exact .rounded (Int.not_le.mp hlast) hr ‹_›
          · exact .carried (Int.not_le.mp hlast) hr

section Fitted
variable {s : Bool} {m : Nat} {p : Int} {x : Decimal}

theorem Fitted.isShort (h : Fitted s m p x) : x.IsShort := by
  cases h with
  | zero hm hleast => exact ⟨0, 0, rfl, by decide, by simpa using hleast⟩
  | exact hlast =>
    unfold lastPlace at hlast
    exact ⟨m, 0, by simp, digitCount_le_iff.mp (by omega), by simp; omega⟩
  | @rounded r hlast hr hcount =>
    exact ⟨r, 0, by simp, digitCount_le_iff.mp hcount, by simp [lastPlace]⟩
  | @carried r hlast hr =>
    have hm : m < 10 ^ precision * tenTo (lastPlace m p - p).toNat := by
      rw [tenTo, Nat.pow_eq, ← Nat.pow_add, ← digitCount_le_iff]
      unfold lastPlace
      omega
    have hdiv : m / tenTo (lastPlace m p - p).toNat < 10 ^ precision :=
      (Nat.div_lt_iff_lt_mul (Nat.pow_pos (by decide))).mpr hm
    have hbound := (roundDiv_bounds m (tenTo (lastPlace m p - p).toNat)).2
    have hpos : 0 < 10 ^ precision := by decide
    exact ⟨r / 10, 0, by simp, by omega, by simp [lastPlace]; omega⟩

theorem Fitted.nonneg (h : Fitted s m p x) (hle : whole 0 ≤ (finite s m p).value) :
    whole 0 ≤ x.value := by
  rw [whole_le_value_finite, Int.cast_zero] at hle
  cases s with
  | false => cases h <;> exact whole_le_value_finite.mpr (by simp [ratio_false_nonneg])
  | true =>
    obtain rfl := eq_zero_of_ratio_nonneg hle
    cases h <;> simp_all [whole_le_value_finite, lastPlace, digitCount, roundDiv_zero_left]

/-! ### Values that rounding does not pass -/

section Grid
variable {c : Nat} {q : Int}

/-- A value of 28 digits that is not exceeded has no place below the last one kept. -/
theorem lastPlace_le (hlast : p < lastPlace m p) (hc : c < 10 ^ precision) (hq : leastPower ≤ q)
    (hle : ratio false m p ≤ ratio false c q) : lastPlace m p ≤ q := by
  by_contra hlt
  have hcount := digitCount_le_iff.mpr hc
  unfold lastPlace at hlast hlt
  have hm : m ≠ 0 := by
    rintro rfl
    simp only [digitCount] at hlast hlt
    omega
  rw [ratio_false, ratio_false] at hle
  exact absurd hle (not_le_of_gt (lt_of_place_lt hm (by omega)))

theorem roundDiv_grid (hlast : p ≤ lastPlace m p) (hq : lastPlace m p ≤ q)
    (hle : ratio false m p ≤ ratio false c q) :
    roundDiv m (tenTo (lastPlace m p - p).toNat) ≤ c * 10 ^ (q - lastPlace m p).toNat := by
  have hten : (10 : ℚ) ≠ 0 := by norm_num
  refine roundDiv_le (Nat.pow_pos (by decide)) ?_
  rw [ratio_false, ratio_false, ← pow_mul_zpow hten hq, ← pow_mul_zpow hten hlast, ← mul_assoc,
    ← mul_assoc] at hle
  have h := le_of_mul_le_mul_right hle (by positivity)
  rw [tenTo, Nat.pow_eq]
  exact_mod_cast h

/-- Of all values on the grid rounding passes none. -/
theorem Fitted.le_grid (h : Fitted false m p x) (hc : c < 10 ^ precision) (hq : leastPower ≤ q)
    (hle : ratio false m p ≤ ratio false c q) : x.value ≤ (finite false c q).value := by
  -- What is rounded, with a carry or without, is at most the value written at the last place.
  have hrounded {r : Nat} (hlast : p < lastPlace m p)
      (hr : r ≤ roundDiv m (tenTo (lastPlace m p - p).toNat)) :
      (r : ℚ) * 10 ^ lastPlace m p ≤ c * 10 ^ q := by
    have hplace := lastPlace_le hlast hc hq hle
    have hgrid : (r : ℚ) ≤ c * 10 ^ (q - lastPlace m p).toNat := by
      exact_mod_cast hr.trans (roundDiv_grid hlast.le hplace hle)
    calc (r : ℚ) * 10 ^ lastPlace m p
        ≤ c * 10 ^ (q - lastPlace m p).toNat * 10 ^ lastPlace m p :=
          mul_le_mul_of_nonneg_right hgrid (by positivity)
      _ = c * 10 ^ q := by rw [mul_assoc, pow_mul_zpow (by norm_num) hplace]
  cases h with
  | zero hm hleast => exact value_finite_le.mpr (by simpa using ratio_false_nonneg)
  | exact hlast => exact value_finite_le.mpr hle
  | rounded hlast hr hcount =>
    rw [value_finite_le, ratio_false, ratio_false]
    exact hrounded hlast hr
  | @carried r hlast hr =>
    rw [value_finite_le, ratio_false, ratio_false]
    calc ((r / 10 : Nat) : ℚ) * 10 ^ (lastPlace m p + 1)
        ≤ r / 10 * 10 ^ (lastPlace m p + 1) :=
          mul_le_mul_of_nonneg_right Nat.cast_div_le (by positivity)
      _ = r * 10 ^ lastPlace m p := by rw [zpow_add_one₀ (by norm_num)]; ring
      _ ≤ c * 10 ^ q := hrounded hlast hr

end Grid
end Fitted

/-- **Rounding passes no value of at most 28 digits.** -/
theorem fit_le {s : Bool} {m : Nat} {p : Int} {x y : Decimal} (h : fit s m p = .ok x)
    (hshort : y.IsShort) (hy : whole 0 ≤ y.value) (hle : (finite s m p).value ≤ y.value) :
    x.value ≤ y.value := by
  have hfitted := fit_fitted h
  cases s with
  | true =>
    have hneg : x.value ≤ whole 0 := by
      cases hfitted <;> exact value_finite_le_whole.mpr
        (by rw [ratio_true, Int.cast_zero, neg_nonpos]; exact ratio_false_nonneg)
    exact hneg.trans hy
  | false =>
    cases y with
    | nan => exact absurd hy not_whole_le_bot
    | infinite t =>
      cases t with
      | false => exact le_top
      | true => exact absurd hy not_whole_le_bot
    | finite t n f =>
      obtain ⟨c, k, rfl, hc, hk⟩ := hshort
      rw [whole_le_value_finite, Int.cast_zero, ratio_mul_pow] at hy
      -- A value that is not negative has no negative sign, or one that does not count.
      have hsign : ratio t c (f + k) = ratio false c (f + k) := by
        cases t with
        | false => rfl
        | true => rw [eq_zero_of_ratio_nonneg hy, ratio_zero, ratio_zero]
      have hvalue : (finite t (c * 10 ^ k) f).value = (finite false c (f + k)).value := by
        rw [value, value, ratio_mul_pow, hsign]
      rw [hvalue] at hle ⊢
      exact hfitted.le_grid hc hk (value_finite_le.mp hle)

/-! ### Arithmetic -/

theorem ratio_mul (s t : Bool) (m n : Nat) (e f : Int) :
    ratio (s != t) (m * n) (e + f) = ratio s m e * ratio t n f := by
  have hten : (10 : ℚ) ^ (e + f) = 10 ^ e * 10 ^ f := zpow_add₀ (by norm_num) e f
  cases s <;> cases t <;> simp [ratio, Binary.signed, hten] <;> ring

/-- A value that is not negative is the infinite one or finite. -/
theorem cases_of_nonneg {x : Decimal} (h : whole 0 ≤ x.value) :
    x = .infinite false ∨ ∃ s m e, x = .finite s m e ∧ 0 ≤ ratio s m e := by
  cases x with
  | nan => exact absurd h not_whole_le_bot
  | infinite s =>
    cases s with
    | false => exact .inl rfl
    | true => exact absurd h not_whole_le_bot
  | finite s m e =>
    rw [whole_le_value_finite, Int.cast_zero] at h
    exact .inr ⟨s, m, e, rfl, h⟩

/-- A value that is not negative and not zero has no negative sign. -/
theorem sign_of_nonneg {s : Bool} {m : Nat} {e : Int} (h : 0 ≤ ratio s m e) (hm : m ≠ 0) :
    s = false := by
  cases s with
  | false => rfl
  | true => exact absurd (eq_zero_of_ratio_nonneg h) hm

/-- A product of values that are not negative is none either, and has at most 28 digits. -/
theorem mul_nonneg {x y z : Decimal} (hx : whole 0 ≤ x.value) (hy : whole 0 ≤ y.value)
    (h : mul x y = .ok z) : z.IsShort ∧ whole 0 ≤ z.value := by
  obtain rfl | ⟨s, m, e, rfl, hm⟩ := cases_of_nonneg hx
  · obtain rfl | ⟨t, n, f, rfl, hn⟩ := cases_of_nonneg hy
    · cases h
      exact ⟨trivial, le_top⟩
    · rw [mul] at h
      split at h <;> cases h
      rw [sign_of_nonneg hn ‹_›]
      exact ⟨trivial, le_top⟩
  · obtain rfl | ⟨t, n, f, rfl, hn⟩ := cases_of_nonneg hy
    · rw [mul] at h
      split at h <;> cases h
      rw [sign_of_nonneg hm ‹_›]
      exact ⟨trivial, le_top⟩
    · have hfitted := fit_fitted h
      refine ⟨hfitted.isShort, hfitted.nonneg (whole_le_value_finite.mpr ?_)⟩
      rw [ratio_mul, Int.cast_zero]
      exact Left.mul_nonneg hm hn

/-- **A factor of at most one does not enlarge a value of at most 28 digits.** -/
theorem mul_le {x y z : Decimal} (hshort : x.IsShort) (hx : whole 0 ≤ x.value)
    (hy : y.value ≤ whole 1) (h : mul x y = .ok z) : z.value ≤ x.value := by
  obtain rfl | ⟨s, m, e, rfl, hm⟩ := cases_of_nonneg hx
  · exact le_top
  · cases y with
    | nan t q p =>
      have h : quiet t q p = .ok z := h
      rw [quiet] at h
      split at h <;> cases h
      exact bot_le
    | infinite t =>
      cases t with
      | false => exact absurd hy (not_le_of_gt (WithBot.coe_lt_coe.mpr (WithTop.coe_lt_top _)))
      | true =>
        rw [mul] at h
        split at h <;> cases h
        rw [sign_of_nonneg hm ‹_›]
        exact bot_le
    | finite t n f =>
      refine fit_le h hshort hx (value_finite_le.mpr ?_)
      rw [value_finite_le_whole, Int.cast_one] at hy
      rw [ratio_mul]
      exact mul_le_of_le_one_right hm hy

/-! ### What is left of one -/

theorem fit_le_one {s : Bool} {m : Nat} {p : Int} {z : Decimal} (hle : ratio s m p ≤ 1)
    (h : fit s m p = .ok z) : z.value ≤ whole 1 := by
  have hshort : (ofInt 1).IsShort := ofInt_isShort (c := 1) (k := 0) rfl (by decide)
  have hpos : whole 0 < whole 1 := whole_compares (o := .lt) Int.one_pos
  rw [← value_ofInt 1] at hpos ⊢
  refine fit_le h hshort hpos.le ?_
  rw [value_ofInt, value_finite_le_whole, Int.cast_one]
  exact hle

/-- One, written to a place behind the point. -/
theorem one_at_place {p : Int} (hp : p ≤ 0) : ((tenTo (0 - p).toNat : Nat) : ℚ) * 10 ^ p = 1 := by
  rw [cast_tenTo, pow_mul_zpow (by norm_num) hp, zpow_zero]

theorem shrink_one {n : Nat} {f : Int} (hf : f ≤ 0) (hn : (n : ℚ) * 10 ^ f ≤ 1) :
    (shrink 1 0 n f).2 ≤ 0 ∧ ((shrink 1 0 n f).1 : ℚ) * 10 ^ (shrink 1 0 n f).2 ≤ 1 := by
  unfold shrink
  dsimp only
  split
  · refine ⟨by simp, ?_⟩
    rw [Nat.cast_one, one_mul]
    exact zpow_le_one_of_nonpos₀ (by norm_num) (by simp)
  · exact ⟨hf, hn⟩

/-- One less a fraction is a fraction, or one, that is then rounded. -/
theorem sub_one_eq_fit {x : Decimal} (hx : whole 0 ≤ x.value) (hlt : x.value < whole 1) :
    ∃ s m p, sub (.ofInt 1) x = fit s m p ∧ 0 ≤ ratio s m p ∧ ratio s m p ≤ 1 := by
  obtain rfl | ⟨s, n, f, rfl, hn⟩ := cases_of_nonneg hx
  · exact absurd hlt (not_lt_of_ge le_top)
  · by_cases hzero : n = 0
    · subst hzero
      have hplace : max (min 0 f) (0 - precision - 1) ≤ 0 := by simp [precision]
      refine ⟨false, 1 * tenTo (0 - max (min 0 f) (0 - precision - 1)).toNat, _, rfl, ?_⟩
      rw [ratio_false, Nat.one_mul, one_at_place hplace]
      exact ⟨zero_le_one, le_rfl⟩
    · obtain rfl := sign_of_nonneg hn hzero
      rw [value_finite_lt_whole, ratio_false, Int.cast_one] at hlt
      -- A positive power of ten would leave no fraction.
      have hf : f ≤ 0 := by
        by_contra hpos
        have hone : 1 ≤ (n : ℚ) * 10 ^ f := one_le_mul_of_one_le_of_one_le
          (by exact_mod_cast Nat.one_le_iff_ne_zero.mpr hzero)
          (one_le_zpow₀ (by norm_num) (by omega))
        exact absurd hone (not_le_of_gt hlt)
      have hsub : sub (.ofInt 1) (.finite false n f) = addAligned false 1 0 true n f := by
        simp [sub, add, neg, ofInt, hzero, hf]
      obtain ⟨hplace, hle⟩ := shrink_one hf hlt.le
      unfold addAligned at hsub
      cases hpair : shrink 1 0 n f with
      | mk k place =>
        rw [hpair] at hsub hplace hle
        have hk : (0 : ℚ) ≤ k * 10 ^ place := by positivity
        refine ⟨_, Int.natAbs (Binary.signed false (1 * tenTo (0 - place).toNat) +
          Binary.signed true k), place, hsub, ?_⟩
        rw [ratio_natAbs]
        simp only [Binary.signed, Nat.one_mul]
        push_cast
        rw [add_mul, one_at_place hplace]
        constructor <;> simp <;> linarith

/-- **One less a fraction is at most one.** -/
theorem sub_le_one {x z : Decimal} (hx : whole 0 ≤ x.value) (hlt : x.value < whole 1)
    (h : sub (.ofInt 1) x = .ok z) : z.value ≤ whole 1 := by
  obtain ⟨s, m, p, hfit, _, hle⟩ := sub_one_eq_fit hx hlt
  exact fit_le_one hle (hfit.symm.trans h)

end Decimal
end FeeWatch.Number
