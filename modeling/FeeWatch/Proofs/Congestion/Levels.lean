import FeeWatch.Proofs.Congestion.Comparable
import FeeWatch.Proofs.Number.Precision

/-! Levels of accepted thresholds.

The levels at which the detector changes its answer are products of rounded decimals. In
spite of the rounding the low one does not exceed the high one, nor the lowered ceiling the
ceiling (`low_le_high`, `maxFeeLow_le`): a level has at most 28 digits, since it is a product
itself or a ceiling of so few, and what is left of one is at most one. So no reading is both
high and low (`not_below_of_above`). What the detector tests are these conditions on the
values (`isHigh_iff`, `isLow_iff`). -/
namespace FeeWatch

/-- What a datum that is not null counts as. -/
theorem Datum.limit?_of_number {d : Datum} {x : Number} (hnull : d.isNull = false)
    (hx : d.number? = some x) : d.limit? = some x := by
  simp [limit?, amount, hnull, hx]

namespace Congestion

open FeeWatch.Number (Decimal whole)

/-- Aggregates of a window, whole numbers all. -/
structure Sample where
  average : Int
  min : Int
  max : Int

def Sample.reading (s : Sample) : Reading := .ofInts s.average s.min s.max

namespace Thresholds

/-- Whether the ceilings have at most 28 digits. -/
def IsShort (t : Thresholds) : Prop :=
  ∀ d ∈ [t.ceiling, t.maxFeeCeiling], ∀ x, d.number? = some x → (Decimal.ofNumber x).IsShort

/-- A sample is above the high level: so is its average, or its greatest fee exceeds the ceiling. -/
def Above (t : Thresholds) (s : Sample) : Prop :=
  (∃ high, t.high = .ok high ∧ high.value < whole s.average) ∨
    ∃ ceiling, t.maxFeeCeiling.limit? = some ceiling ∧
      (Decimal.ofNumber ceiling).value < whole s.max

/-- A sample is below the low level: so is its average, and its greatest fee does not exceed the
lowered ceiling. -/
def Below (t : Thresholds) (s : Sample) : Prop :=
  (∃ low, t.low = .ok low ∧ whole s.average < low.value) ∧
    ∃ bound, t.maxFeeLow = .ok bound ∧ ∀ x ∈ bound, whole s.max ≤ x.value

/-! ### Values -/

section Values
variable {t : Thresholds} {x y : Decimal}

theorem fraction_of_isFraction (h : isFraction x = .ok true) :
    whole 0 ≤ x.value ∧ x.value < whole 1 := by
  obtain ⟨nonnegative, hle, h⟩ := bind_eq_ok.mp h
  have hnonneg := Decimal.le_iff_value (mapError_eq_ok.mp hle)
  rw [Decimal.value_ofInt] at hnonneg
  split at h
  · have hlt := Decimal.lt_iff_value (mapError_eq_ok.mp h)
    rw [Decimal.value_ofInt] at hlt
    exact ⟨hnonneg.mp ‹_›, hlt.mp rfl⟩
  · cases h

/-- A level of at most 28 digits is not less than itself lowered by the margin. -/
theorem lowered_le (ht : t.Passed) (hshort : x.IsShort) (hx : whole 0 ≤ x.value)
    (h : t.lowered x = .ok y) : y.value ≤ x.value := by
  obtain ⟨margin, hmargin, hfraction⟩ := ht.margin
  obtain ⟨_, hmargin', h⟩ := bind_eq_ok.mp h
  cases hmargin.symm.trans hmargin'
  obtain ⟨factor, hfactor, h⟩ := bind_eq_ok.mp h
  obtain ⟨hnonneg, hlt⟩ := fraction_of_isFraction hfraction
  have hone := Decimal.sub_le_one hnonneg hlt (mapError_eq_ok.mp hfactor)
  exact Decimal.mul_le hshort hx hone (mapError_eq_ok.mp h)

/-- A ceiling that was accepted is positive. -/
theorem positive_of_isAtMost {d : Datum} (h : d.isAtMost (.int 0) = .ok false)
    (hd : d.number? ≠ some (.float .nan)) :
    ∃ x, d.number? = some x ∧ whole 0 ≤ (Decimal.ofNumber x).value := by
  obtain ⟨x, hx, hle⟩ := Datum.isAtMost_eq_ok h
  have hnan : x ≠ .float .nan := fun heq => hd (heq ▸ hx)
  have hpos := mt (Number.le_int_iff_value hnan).mpr (hle ▸ Bool.false_ne_true)
  exact ⟨x, hx, le_of_not_ge hpos⟩

theorem exact_of_number {d : Datum} {n : Number} (h : d.number? = some n) :
    exact d = .ok (Decimal.ofNumber n) := by
  simp [exact, h]

/-- The high level has at most 28 digits and is not negative. -/
theorem high_isShort (ht : t.Passed) (hnumeric : t.IsNumeric) (hshort : t.IsShort)
    (h : t.high = .ok x) : x.IsShort ∧ whole 0 ≤ x.value := by
  unfold Thresholds.high at h
  split at h
  · rename_i hnull
    obtain ⟨base, hbase, h⟩ := bind_eq_ok.mp h
    obtain ⟨multiplier, hmultiplier, h⟩ := bind_eq_ok.mp h
    obtain ⟨n, hn, hless⟩ := Datum.isLess_eq_ok ht.baseFee
    have hnan : n ≠ .float .nan := fun heq => hnumeric t.baseFee (by simp) (heq ▸ hn)
    obtain rfl : Decimal.ofNumber n = base := Except.ok.inj ((exact_of_number hn).symm.trans hbase)
    obtain ⟨_, hmultiplier', hpositive⟩ := ht.multiplier
    cases hmultiplier.symm.trans hmultiplier'
    have hbase_nonneg : whole 0 ≤ (Decimal.ofNumber n).value :=
      le_of_not_gt (mt (Number.lt_int_iff_value hnan).mpr (hless ▸ Bool.false_ne_true))
    have hle := mt (Decimal.le_iff_value (hpositive hnull)).mpr Bool.false_ne_true
    rw [Decimal.value_ofInt] at hle
    exact Decimal.mul_nonneg hbase_nonneg (le_of_not_ge hle) (mapError_eq_ok.mp h)
  · rename_i hnull
    obtain ⟨n, hn, hnonneg⟩ := positive_of_isAtMost (ht.ceiling (Bool.not_eq_true _ |>.mp hnull))
      (hnumeric t.ceiling (by simp))
    cases (exact_of_number hn).symm.trans h
    exact ⟨hshort t.ceiling (by simp) n hn, hnonneg⟩

/-- **The low level does not exceed the high one.** -/
theorem low_le_high (ht : t.Passed) (hnumeric : t.IsNumeric) (hshort : t.IsShort)
    (hhigh : t.high = .ok x) (hlow : t.low = .ok y) : y.value ≤ x.value := by
  obtain ⟨_, hhigh', hlow⟩ := bind_eq_ok.mp hlow
  cases hhigh.symm.trans hhigh'
  obtain ⟨hfew, hnonneg⟩ := high_isShort ht hnumeric hshort hhigh
  exact lowered_le ht hfew hnonneg hlow

/-- **The lowered ceiling does not exceed the ceiling.** -/
theorem maxFeeLow_le (ht : t.Passed) (hnumeric : t.IsNumeric) (hshort : t.IsShort)
    {ceiling : Number} {bound : Option Decimal} (hceiling : t.maxFeeCeiling.limit? = some ceiling)
    (hbound : t.maxFeeLow = .ok bound) :
    ∃ low ∈ bound, low.value ≤ (Decimal.ofNumber ceiling).value := by
  unfold Thresholds.maxFeeLow at hbound
  split at hbound
  · rename_i hnull
    simp [Datum.limit?, hnull] at hceiling
  · rename_i hnull
    have hnull := Bool.not_eq_true _ |>.mp hnull
    obtain ⟨n, hn, hnonneg⟩ := positive_of_isAtMost (ht.maxFeeCeiling hnull)
      (hnumeric t.maxFeeCeiling (by simp))
    cases (Datum.limit?_of_number hnull hn).symm.trans hceiling
    rw [exact_of_number hn] at hbound
    cases hlow : t.lowered (Decimal.ofNumber ceiling) with
    | error f => rw [Except.bind, hlow] at hbound; cases hbound
    | ok low =>
      rw [Except.bind, hlow] at hbound
      cases hbound
      exact ⟨low, rfl, lowered_le ht (hshort t.maxFeeCeiling (by simp) ceiling hn) hnonneg hlow⟩

/-- **No reading is both high and low.** -/
theorem not_below_of_above (ht : t.Passed) (hnumeric : t.IsNumeric) (hshort : t.IsShort)
    {s : Sample} (habove : t.Above s) : ¬ t.Below s := by
  rintro ⟨⟨low, hlow, haverage⟩, bound, hbound, hmax⟩
  obtain ⟨high, hhigh, hlt⟩ | ⟨ceiling, hceiling, hlt⟩ := habove
  · have hle := low_le_high ht hnumeric hshort hhigh hlow
    exact absurd (hlt.trans haverage) (not_lt_of_ge hle)
  · obtain ⟨bound, hmem, hle⟩ := maxFeeLow_le ht hnumeric hshort hceiling hbound
    exact absurd ((hmax bound hmem).trans hle) (not_le_of_gt hlt)

end Values
end Thresholds

/-! ### Tests of the detector -/

namespace Detector

structure Holds (d : Detector) (t : Thresholds) : Prop where
  thresholds : d.thresholds = t
  high : t.high = .ok d.high
  low : t.low = .ok d.low
  maxFeeLow : t.maxFeeLow = .ok d.maxFeeLow
  comparable : d.IsComparable

theorem make_holds {t : Thresholds} {d : Detector} (h : make t = .ok d) (hnumeric : t.IsNumeric) :
    d.Holds t := by
  have hcomparable := make_isComparable h hnumeric
  obtain ⟨_, high, low, maxFeeLow, hhigh, hlow, hmaxFeeLow, rfl⟩ := make_eq_ok h
  exact ⟨rfl, hhigh, hlow, hmaxFeeLow, hcomparable⟩

section Tests
variable {d : Detector} {t : Thresholds} {s : Sample} {b : Bool}

theorem Holds.isHigh_iff (hd : d.Holds t) (hnumeric : t.IsNumeric)
    (h : d.isHigh s.reading = .ok b) : b = true ↔ t.Above s := by
  obtain ⟨above, habove, h⟩ := bind_eq_ok.mp h
  have haverage : above = true ↔ d.high.value < whole s.average := by
    rw [← Decimal.value_ofInt]
    exact Decimal.lt_iff_value (mapError_eq_ok.mp habove)
  have hhigh : (∃ high, t.high = .ok high ∧ high.value < whole s.average) ↔
      d.high.value < whole s.average := by
    simp [hd.high]
  rw [Thresholds.Above, hhigh, ← haverage]
  split at h
  · cases h
    simp [*]
  · rw [hd.thresholds] at h
    split at h
    · cases h
      simp [*, Datum.limit?]
    · rename_i hnull
      have hnull := Bool.not_eq_true _ |>.mp hnull
      obtain ⟨x, hx⟩ := hd.comparable.maxFeeCeiling (hd.thresholds ▸ hnull)
      rw [hd.thresholds] at hx
      have hnan : x ≠ .float .nan := fun heq => hnumeric t.maxFeeCeiling (by simp) (heq ▸ hx)
      have hgreater : s.reading.max.isGreater t.maxFeeCeiling = .ok (Number.lt x (.int s.max)) := by
        rw [Datum.isGreater, Datum.relate, hx]
        rfl
      cases hgreater.symm.trans (mapError_eq_ok.mp h)
      rw [Number.lt_int_iff_value hnan, Datum.limit?_of_number hnull hx]
      simp [*]

theorem Holds.isLow_iff (hd : d.Holds t) (h : d.isLow s.reading = .ok b) :
    b = true ↔ t.Below s := by
  obtain ⟨atLeast, hatLeast, h⟩ := bind_eq_ok.mp h
  have haverage : atLeast = true ↔ d.low.value ≤ whole s.average := by
    rw [← Decimal.value_ofInt]
    exact Decimal.le_iff_value (mapError_eq_ok.mp hatLeast)
  have hlow : (∃ low, t.low = .ok low ∧ whole s.average < low.value) ↔ ¬ atLeast = true := by
    rw [haverage, not_le]
    simp [hd.low]
  rw [Thresholds.Below, hlow, hd.maxFeeLow]
  split at h
  · cases h
    simp [*]
  · split at h
    · cases h
      simp [*]
    · rename_i bound hbound
      have hmax : b = true ↔ whole s.max ≤ bound.value := by
        rw [← Decimal.value_ofInt]
        exact Decimal.le_iff_value (mapError_eq_ok.mp h)
      simp [*]

end Tests
end Detector
end Congestion
end FeeWatch
