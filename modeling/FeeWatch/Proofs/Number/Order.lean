import FeeWatch.Number.Decimal
import Mathlib.Algebra.Order.Field.Power
import Mathlib.Algebra.Order.Ring.Rat
import Mathlib.Order.Compare
import Mathlib.Order.WithBot
import Mathlib.Tactic.Linarith
import Mathlib.Tactic.Positivity
import Mathlib.Tactic.Ring

/-! Values of numbers, and their order.

A decimal stands for a rational or for an infinity (`Decimal.value`). The order of decimals
goes by their signs, then by the places of their leading digits, and looks at the digits
themselves only where the places agree; that is the order of the values
(`Decimal.compare_compares`). A double is a decimal of the same value, so that the order of a
number and a whole number is that of values too (`compare?_int_compares`). -/
namespace FeeWatch.Number

/-- The rationals between two infinities. -/
abbrev Extended : Type := WithBot (WithTop ℚ)

/-- Whole numbers among the values. -/
def whole (n : Int) : Extended := ((n : ℚ) : WithTop ℚ)

/-- Rationals keep their order between the infinities. -/
theorem strictMono_extended : StrictMono fun q : ℚ => ((q : WithTop ℚ) : Extended) :=
  WithBot.coe_strictMono.comp WithTop.coe_strictMono

theorem whole_compares {o : Ordering} {a b : Int} (h : o.Compares a b) :
    o.Compares (whole a) (whole b) :=
  strictMono_extended.compares.mpr (Int.cast_strictMono.compares.mpr h)

/-! ### Powers of a base -/

section Powers
variable {base : ℚ}

theorem pow_toNat {k : Int} (h : 0 ≤ k) : base ^ k.toNat = base ^ k := by
  rw [← zpow_natCast, Int.toNat_of_nonneg h]

/-- Zeros written behind the digits make up for a lower power. -/
theorem pow_mul_zpow (hbase : base ≠ 0) {low e : Int} (h : low ≤ e) :
    base ^ (e - low).toNat * base ^ low = base ^ e := by
  rw [pow_toNat (Int.sub_nonneg.mpr h), ← zpow_add₀ hbase, Int.sub_add_cancel]

theorem cast_twoTo (n : Nat) : ((twoTo n : Nat) : ℚ) = 2 ^ n := Nat.cast_pow 2 n

theorem cast_tenTo (n : Nat) : ((tenTo n : Nat) : ℚ) = 10 ^ n := Nat.cast_pow 10 n

end Powers

/-! ### Digits -/

/-- The digits of a number reach below the first power of ten above it. -/
theorem digitCount_le_iff {m k : Nat} : digitCount m ≤ k ↔ m < 10 ^ k := by
  induction m using digitCount.induct generalizing k with
  | case1 => simp [digitCount]
  | case2 m ih =>
    rw [digitCount]
    cases k with
    | zero => simp
    | succ k => rw [Nat.add_le_add_iff_right, ih, Nat.pow_succ, Nat.div_lt_iff_lt_mul (by decide)]

theorem lt_pow_digitCount (m : Nat) : m < 10 ^ digitCount m := digitCount_le_iff.mp le_rfl

theorem digitCount_pos {m : Nat} (h : m ≠ 0) : 0 < digitCount m := by
  cases m with
  | zero => exact absurd rfl h
  | succ m => rw [digitCount]; exact Nat.succ_pos _

theorem pow_digitCount_le {m : Nat} (h : m ≠ 0) : 10 ^ (digitCount m - 1) ≤ m := by
  have hpos := digitCount_pos h
  have := mt (digitCount_le_iff (m := m) (k := digitCount m - 1)).mpr (by omega)
  omega

/-! ### Order of doubles -/

theorem Binary.compareDyadic_compares (a ea b eb : Int) :
    (compareDyadic a ea b eb).Compares ((a : ℚ) * 2 ^ ea) ((b : ℚ) * 2 ^ eb) := by
  unfold compareDyadic
  have hmono : StrictMono fun k : Int => (k : ℚ) * 2 ^ min ea eb :=
    fun x y h => mul_lt_mul_of_pos_right (Int.cast_lt.mpr h) (by positivity)
  have h := hmono.compares.mpr (compare_iff (a * twoTo (ea - min ea eb).toNat)
    (b * twoTo (eb - min ea eb).toNat) |>.mp rfl)
  simpa only [Int.cast_mul, Int.cast_natCast, cast_twoTo, mul_assoc,
    pow_mul_zpow two_ne_zero (min_le_left ea eb),
    pow_mul_zpow two_ne_zero (min_le_right ea eb)] using h

namespace Decimal

/-! ### Values of decimals -/

/-- The value of a finite decimal. -/
def ratio (negative : Bool) (digits : Nat) (power : Int) : ℚ :=
  Binary.signed negative digits * 10 ^ power

/-- The value of a decimal; not-a-number counts as the least one. -/
def value : Decimal → Extended
  | .finite s m e => (ratio s m e : WithTop ℚ)
  | .infinite s => if s then ⊥ else ⊤
  | .nan .. => ⊥

section Ratio
variable {s : Bool} {m : Nat} {e : Int}

@[simp] theorem ratio_zero : ratio s 0 e = 0 := by cases s <;> simp [ratio, Binary.signed]

theorem ratio_true : ratio true m e = -ratio false m e := by simp [ratio, Binary.signed]

theorem ratio_false : ratio false m e = m * 10 ^ e := by simp [ratio, Binary.signed]

theorem ratio_false_nonneg : 0 ≤ ratio false m e := by rw [ratio_false]; positivity

theorem ratio_false_pos (h : m ≠ 0) : 0 < ratio false m e := by rw [ratio_false]; positivity

end Ratio

/-- A whole number is its magnitude with its sign. -/
theorem ratio_natAbs (n e : Int) : ratio (decide (n < 0)) n.natAbs e = n * 10 ^ e := by
  have h : Binary.signed (decide (n < 0)) n.natAbs = n := by
    unfold Binary.signed
    split <;> rename_i h <;> rw [decide_eq_true_eq] at h <;> omega
  rw [ratio, h]

theorem value_ofInt (n : Int) : (ofInt n).value = whole n := by
  rw [ofInt, value, ratio_natAbs, zpow_zero, mul_one, whole]

/-! ### Order of decimals -/

/-- A number is less than a power of ten that has more places. -/
theorem lt_of_place_lt {m n : Nat} {e f : Int} (hn : n ≠ 0)
    (h : (digitCount m : Int) + e < digitCount n + f) : (m : ℚ) * 10 ^ e < n * 10 ^ f := by
  have hcount := digitCount_pos hn
  calc (m : ℚ) * 10 ^ e < 10 ^ digitCount m * 10 ^ e := by
        have hm : (m : ℚ) < 10 ^ digitCount m := by exact_mod_cast lt_pow_digitCount m
        exact mul_lt_mul_of_pos_right hm (by positivity)
    _ = 10 ^ ((digitCount m : Int) + e) := by rw [zpow_add₀ (by norm_num), zpow_natCast]
    _ ≤ 10 ^ (((digitCount n - 1 : Nat) : Int) + f) :=
        zpow_le_zpow_right₀ (by norm_num) (by omega)
    _ = 10 ^ (digitCount n - 1) * 10 ^ f := by rw [zpow_add₀ (by norm_num), zpow_natCast]
    _ ≤ n * 10 ^ f := by
        have hle : (10 : ℚ) ^ (digitCount n - 1) ≤ n := by exact_mod_cast pow_digitCount_le hn
        exact mul_le_mul_of_nonneg_right hle (by positivity)

theorem compareMagnitude_compares {m n : Nat} (hm : m ≠ 0) (hn : n ≠ 0) (e f : Int) :
    (compareMagnitude m e n f).Compares (ratio false m e) (ratio false n f) := by
  rw [ratio_false, ratio_false]
  unfold compareMagnitude
  dsimp only
  split
  · have hmono : StrictMono fun k : Nat => (k : ℚ) * 10 ^ min e f :=
      fun x y h => mul_lt_mul_of_pos_right (Nat.cast_lt.mpr h) (by positivity)
    have h := hmono.compares.mpr (compare_iff (m * tenTo (e - min e f).toNat)
      (n * tenTo (f - min e f).toNat) |>.mp rfl)
    have hten : (10 : ℚ) ≠ 0 := by norm_num
    simpa only [Nat.cast_mul, cast_tenTo, mul_assoc, pow_mul_zpow hten (min_le_left e f),
      pow_mul_zpow hten (min_le_right e f)] using h
  · rename_i hplace
    rcases lt_or_gt_of_ne hplace with hlt | hgt
    · rw [Int.compare_eq_lt.mpr hlt]
      exact lt_of_place_lt hn hlt
    · rw [Int.compare_eq_gt.mpr hgt]
      exact lt_of_place_lt hm hgt

theorem ratio_neg_lt_pos {m n : Nat} {e f : Int} (hm : m ≠ 0) : ratio true m e < ratio false n f :=
  calc ratio true m e = -ratio false m e := ratio_true
    _ < 0 := neg_neg_of_pos (ratio_false_pos hm)
    _ ≤ ratio false n f := ratio_false_nonneg

/-- Signs decide the order of finite values, and magnitudes where the signs agree. -/
theorem compare_finite (s : Bool) (m : Nat) (e : Int) (t : Bool) (n : Nat) (f : Int) :
    (if sign s m ≠ sign t n then Ord.compare (sign s m) (sign t n)
      else if sign s m = 0 then .eq
      else if s then compareMagnitude n f m e
      else compareMagnitude m e n f).Compares (ratio s m e) (ratio t n f) := by
  by_cases hm : m = 0
  · subst hm
    by_cases hn : n = 0
    · subst hn
      simp [sign]
    · have hpos := ratio_false_pos (e := f) hn
      cases t <;> simp [sign, hn, ratio_true, Ord.compare, compareOfLessAndEq, hpos]
  · by_cases hn : n = 0
    · subst hn
      have hpos := ratio_false_pos (e := e) hm
      cases s <;> simp [sign, hm, ratio_true, Ord.compare, compareOfLessAndEq, hpos]
    · cases s with
      | false =>
        cases t with
        | false => simpa [sign, hm, hn] using compareMagnitude_compares hm hn e f
        | true =>
          simpa [sign, hm, hn, Ord.compare, compareOfLessAndEq] using ratio_neg_lt_pos hn
      | true =>
        cases t with
        | false =>
          simpa [sign, hm, hn, Ord.compare, compareOfLessAndEq] using ratio_neg_lt_pos hm
        | true =>
          have hanti : StrictAnti fun q : ℚ => -q := fun a b hab => neg_lt_neg hab
          have h := hanti.compares.mpr (compareMagnitude_compares hn hm f e)
          simpa [sign, hm, hn, ratio_true] using h

/-- **The order of decimals is that of their values.** -/
theorem compare_compares {x y : Decimal} {order : Ordering} (h : compare x y = .ok order) :
    order.Compares x.value y.value := by
  cases x with
  | nan s q p => cases h
  | infinite s =>
    cases y with
    | nan t q p => cases h
    | infinite t =>
      cases h
      cases s <;> cases t <;> first | exact rfl | exact bot_lt_top
    | finite t n f =>
      cases h
      cases s with
      | false => exact WithBot.coe_lt_coe.mpr (WithTop.coe_lt_top _)
      | true => exact WithBot.bot_lt_coe _
  | finite s m e =>
    cases y with
    | nan t q p => cases h
    | infinite t =>
      cases h
      cases t with
      | false => exact WithBot.coe_lt_coe.mpr (WithTop.coe_lt_top _)
      | true => exact WithBot.bot_lt_coe _
    | finite t n f =>
      cases h
      exact strictMono_extended.compares.mpr (compare_finite s m e t n f)

theorem lt_iff_value {x y : Decimal} {b : Bool} (h : Decimal.lt x y = .ok b) :
    b = true ↔ x.value < y.value := by
  cases horder : compare x y with
  | error f => rw [Decimal.lt, horder] at h; cases h
  | ok order =>
    rw [Decimal.lt, horder] at h
    cases h
    exact beq_iff_eq.trans (compare_compares horder).eq_lt

theorem le_iff_value {x y : Decimal} {b : Bool} (h : Decimal.le x y = .ok b) :
    b = true ↔ x.value ≤ y.value := by
  cases horder : compare x y with
  | error f => rw [Decimal.le, horder] at h; cases h
  | ok order =>
    rw [Decimal.le, horder] at h
    cases h
    exact bne_iff_ne.trans (compare_compares horder).ne_gt

/-! ### Doubles as decimals -/

/-- Halving an even mantissa at twice the power keeps the value. -/
theorem reduceDyadic_value (fuel m : Nat) (e : Int) :
    ((reduceDyadic fuel m e).1 : ℚ) * 2 ^ (reduceDyadic fuel m e).2 = m * 2 ^ e := by
  induction fuel generalizing m e with
  | zero => rfl
  | succ fuel ih =>
    rw [reduceDyadic]
    split
    · rename_i heven
      rw [ih, zpow_add_one₀ two_ne_zero]
      have hm : (m : ℚ) = (m / 2 : Nat) * 2 := by exact_mod_cast (by omega : m = m / 2 * 2)
      rw [hm]
      ring
    · rfl

/-- A dyadic fraction written with a power of ten. -/
theorem ratio_of_dyadic {s : Bool} {m : Nat} {e : Int} (h : e < 0) :
    ratio s (m * Nat.pow 5 (-e).toNat) e = Binary.signed s m * 2 ^ e := by
  have hpow : ((5 : ℚ) ^ (-e).toNat) * 10 ^ e = 2 ^ e := by
    rw [pow_toNat (by omega), show (10 : ℚ) = 5 * 2 by norm_num, mul_zpow, ← mul_assoc,
      ← zpow_add₀ (by norm_num), neg_add_cancel, zpow_zero, one_mul]
  cases s <;> simp [ratio, Binary.signed, mul_assoc, ← hpow]

theorem ratio_of_whole {s : Bool} {m : Nat} {e : Int} (h : 0 ≤ e) :
    ratio s (m * twoTo e.toNat) 0 = Binary.signed s m * 2 ^ e := by
  cases s <;> simp [ratio, Binary.signed, cast_twoTo, pow_toNat h]

theorem signed_mul_zpow {s : Bool} {m n : Nat} {e f : Int}
    (h : (m : ℚ) * 2 ^ e = n * 2 ^ f) :
    (Binary.signed s m : ℚ) * 2 ^ e = Binary.signed s n * 2 ^ f := by
  cases s <;> simp [Binary.signed, h]

/-- A double and its decimal have one value. -/
theorem value_ofBinary (s : Bool) (m : Nat) (e : Int) :
    (ofBinary (.finite s m e)).value = ((Binary.signed s m * 2 ^ e : ℚ) : WithTop ℚ) := by
  have hreduced : ∀ n f, (if m = 0 then (0, 0) else reduceDyadic 1100 m e) = (n, f) →
      (n : ℚ) * 2 ^ f = m * 2 ^ e := by
    intro n f h
    split at h
    · cases h
      simp [*]
    · simpa only [h] using reduceDyadic_value 1100 m e
  rw [ofBinary]
  split
  rename_i n f hpair
  have h := signed_mul_zpow (s := s) (hreduced n f hpair)
  split
  · rename_i hf
    rw [value, ratio_of_whole hf, h]
  · rename_i hf
    rw [value, ratio_of_dyadic (by omega), h]

end Decimal

theorem compareIntFloat_compares {n : Int} {x : Binary} {order : Ordering}
    (h : compareIntFloat n x = some order) :
    order.Compares (whole n) (Decimal.ofBinary x).value := by
  cases x with
  | nan => cases h
  | infinite s =>
    cases h
    cases s with
    | false => exact WithBot.coe_lt_coe.mpr (WithTop.coe_lt_top _)
    | true => exact WithBot.bot_lt_coe _
  | finite s m e =>
    cases h
    rw [Decimal.value_ofBinary]
    have h := Binary.compareDyadic_compares n 0 (Binary.signed s m) e
    rw [zpow_zero, mul_one] at h
    exact strictMono_extended.compares.mpr h

theorem Binary.compare?_compares {x y : Binary} {order : Ordering} (h : compare? x y = some order) :
    order.Compares (Decimal.ofBinary x).value (Decimal.ofBinary y).value := by
  cases x with
  | nan => cases h
  | infinite s =>
    cases y with
    | nan => cases h
    | infinite t =>
      cases h
      cases s <;> cases t <;> first | exact rfl | exact bot_lt_top
    | finite t n f =>
      cases h
      rw [Decimal.value_ofBinary]
      cases s with
      | false => exact WithBot.coe_lt_coe.mpr (WithTop.coe_lt_top _)
      | true => exact WithBot.bot_lt_coe _
  | finite s m e =>
    cases y with
    | nan => cases h
    | infinite t =>
      cases h
      rw [Decimal.value_ofBinary]
      cases t with
      | false => exact WithBot.coe_lt_coe.mpr (WithTop.coe_lt_top _)
      | true => exact WithBot.bot_lt_coe _
    | finite t n f =>
      cases h
      rw [Decimal.value_ofBinary, Decimal.value_ofBinary]
      exact strictMono_extended.compares.mpr (compareDyadic_compares (signed s m) e (signed t n) f)

/-- **The order of numbers is that of their values.** -/
theorem compare?_compares {x y : Number} {order : Ordering} (h : compare? x y = some order) :
    order.Compares (Decimal.ofNumber x).value (Decimal.ofNumber y).value := by
  cases x with
  | int a =>
    rw [Decimal.ofNumber, Decimal.value_ofInt]
    cases y with
    | int b =>
      cases h
      rw [Decimal.ofNumber, Decimal.value_ofInt]
      exact whole_compares (compare_iff a b |>.mp rfl)
    | float y => exact compareIntFloat_compares h
  | float x =>
    cases y with
    | int b =>
      obtain ⟨order', horder, rfl⟩ := Option.map_eq_some_iff.mp h
      rw [Ordering.compares_swap]
      rw [Decimal.ofNumber, Decimal.ofNumber, Decimal.value_ofInt]
      exact compareIntFloat_compares horder
    | float y => exact Binary.compare?_compares h

/-- The order of a number and a whole number is that of their values. -/
theorem compare?_int_compares {x : Number} {n : Int} {order : Ordering}
    (h : compare? x (.int n) = some order) :
    order.Compares (Decimal.ofNumber x).value (whole n) := by
  have h := compare?_compares h
  rwa [Decimal.ofNumber, Decimal.value_ofInt] at h

section
variable {x : Number} {n : Int}

/-- Beside a whole number only the double that is not a number has no order. -/
theorem exists_compare? (h : x ≠ .float .nan) : ∃ order, compare? x (.int n) = some order := by
  cases x with
  | int a => exact ⟨_, rfl⟩
  | float x =>
    cases x with
    | nan => exact absurd rfl h
    | infinite s => exact ⟨_, rfl⟩
    | finite s m e => exact ⟨_, rfl⟩

theorem lt_int_iff_value (h : x ≠ .float .nan) :
    lt x (.int n) = true ↔ (Decimal.ofNumber x).value < whole n := by
  obtain ⟨order, horder⟩ := exists_compare? (n := n) h
  rw [lt, horder, ← (compare?_int_compares horder).eq_lt, beq_iff_eq, Option.some.injEq]

theorem le_int_iff_value (h : x ≠ .float .nan) :
    le x (.int n) = true ↔ (Decimal.ofNumber x).value ≤ whole n := by
  obtain ⟨order, horder⟩ := exists_compare? (n := n) h
  rw [le, horder, ← (compare?_int_compares horder).ne_gt]
  cases order <;> decide

end
end FeeWatch.Number
