import FeeWatch.Proofs.Congestion.Levels
import FeeWatch.Proofs.Number.Range

/-! Levels that can be computed.

The check of thresholds looks at each of them alone. The levels of a detector are products, which
may have no value: infinity times zero is none, and a finite product may leave the range of
decimals. `HasLevels` says of the values when none of that happens, and a detector for thresholds
that passed their check can be made exactly then (`make_isOk_iff`). -/
namespace FeeWatch

namespace Number

/-- A number exceeds a bound, or is none: no comparison refuses that. -/
def Exceeds (x : Number) (n : Int) : Prop :=
  x = .float .nan ∨ whole n < (Decimal.ofNumber x).value

/-- A number is not less than a bound, or is none. -/
def AtLeast (x : Number) (n : Int) : Prop :=
  x = .float .nan ∨ whole n ≤ (Decimal.ofNumber x).value

theorem le_eq_false_iff {x : Number} {n : Int} : le x (.int n) = false ↔ x.Exceeds n := by
  by_cases hnan : x = .float .nan
  · subst hnan
    exact iff_of_true rfl (.inl rfl)
  · rw [← Bool.not_eq_true, le_int_iff_value hnan, not_le, Exceeds]
    simp [hnan]

theorem lt_eq_false_iff {x : Number} {n : Int} : lt x (.int n) = false ↔ x.AtLeast n := by
  by_cases hnan : x = .float .nan
  · subst hnan
    exact iff_of_true rfl (.inl rfl)
  · rw [← Bool.not_eq_true, lt_int_iff_value hnan, not_lt, AtLeast]
    simp [hnan]

theorem int_exceeds_iff {a n : Int} : (Number.int a).Exceeds n ↔ n < a := by
  rw [← le_eq_false_iff, le_int, decide_eq_false_iff_not, Int.not_le]

theorem int_atLeast_iff {a n : Int} : (Number.int a).AtLeast n ↔ n ≤ a := by
  rw [← lt_eq_false_iff, lt_int, decide_eq_false_iff_not, Int.not_lt]

namespace Decimal

theorem isNumber_of_whole_lt {x : Decimal} {n : Int} (h : whole n < x.value) : x.IsNumber := by
  cases x with
  | nan => exact absurd h not_lt_bot
  | infinite s => trivial
  | finite s m e => trivial

theorem isNumber_of_whole_le {x : Decimal} {n : Int} (h : whole n ≤ x.value) : x.IsNumber := by
  cases x with
  | nan => exact absurd h not_whole_le_bot
  | infinite s => trivial
  | finite s m e => trivial

theorem le_eq_false_iff {x : Decimal} {n : Int} :
    Decimal.le x (.ofInt n) = .ok false ↔ whole n < x.value := by
  constructor
  · intro h
    have hle := mt (le_iff_value h).mpr Bool.false_ne_true
    rwa [value_ofInt, not_le] at hle
  · intro h
    obtain ⟨b, hb⟩ := (isNumber_of_whole_lt h).le (y := .ofInt n) trivial
    have hle := mt (le_iff_value hb).mp (by rwa [value_ofInt, not_le])
    rwa [Bool.not_eq_true _ |>.mp hle] at hb

/-- Order fails only beside what is not a number. -/
theorem compare_failsOnly {x y : Decimal} :
    FailsOnly (fun f => f = .invalid ∧ ¬ (x.IsNumber ∧ y.IsNumber)) (compare x y) := by
  intro f hf
  cases x <;> cases y <;> cases hf <;> exact ⟨rfl, by simp [IsNumber]⟩

theorem le_failsOnly {x : Decimal} {n : Int} :
    FailsOnly (fun f => f = .invalid ∧ ¬ x.IsNumber) (Decimal.le x (.ofInt n)) := by
  intro f hf
  obtain ⟨hinvalid, hnumber⟩ := compare_failsOnly f (map_eq_error.mp hf)
  exact ⟨hinvalid, fun hx => hnumber ⟨hx, trivial⟩⟩

end Decimal
end Number

namespace Congestion

open FeeWatch.Number (Decimal whole Extended)
open FeeWatch.Number.Decimal (HasProduct)

/-- What is no number stays none in products. -/
theorem mul_noNumber {s : Bool} {p : Nat} {y : Decimal} (hy : whole 0 ≤ y.value) :
    ∃ q, Decimal.mul (.nan s false p) y = .ok (.nan s false q) := by
  cases y with
  | nan => exact absurd hy Decimal.not_whole_le_bot
  | infinite t => exact ⟨_, rfl⟩
  | finite t n f => exact ⟨_, rfl⟩

/-- A fee, if it is a number, has a product exactly if its value has one. -/
theorem mul_fee_isOk_iff {x : Number} {y : Decimal}
    (hx : x.AtLeast 0) (hy : whole 0 ≤ y.value) :
    (∃ z, Decimal.mul (.ofNumber x) y = .ok z) ↔
      HasProduct (Decimal.ofNumber x).value y.value := by
  obtain rfl | hx := hx
  · obtain ⟨q, hq⟩ := mul_noNumber (s := false) (p := 0) hy
    exact iff_of_true ⟨_, hq⟩ Decimal.hasProduct_bot
  · exact Decimal.mul_isOk_iff hx hy

namespace Thresholds

/-- Thresholds whose levels can be computed, for the value of the multiplier and for what the margin
leaves of one. -/
structure HasLevels (t : Thresholds) (multiplier rest : Decimal) : Prop where
  /-- The multiple of the base fee, where it counts. -/
  multiple : t.ceiling.limit? = none →
    HasProduct (Decimal.ofNumber t.baseFee.amount).value multiplier.value
  /-- An infinite multiple is not lowered to nothing. -/
  kept : t.ceiling.limit? = none → ∀ high,
    Decimal.mul (.ofNumber t.baseFee.amount) multiplier = .ok high → high.value = ⊤ →
    rest.value ≠ whole 0
  /-- The ceilings, lowered. -/
  ceilings : ∀ d ∈ [t.ceiling, t.maxFeeCeiling], ∀ x ∈ d.limit?,
    HasProduct (Decimal.ofNumber x).value rest.value

theorem isFraction_iff {x : Decimal} :
    isFraction x = .ok true ↔ whole 0 ≤ x.value ∧ x.value < whole 1 := by
  refine ⟨fraction_of_isFraction, fun ⟨hle, hlt⟩ => ?_⟩
  have hnumber := Decimal.isNumber_of_whole_le hle
  obtain ⟨b, hb⟩ := Decimal.IsNumber.le (x := .ofInt 0) trivial hnumber
  obtain ⟨c, hc⟩ := hnumber.lt (y := .ofInt 1) trivial
  rw [← Decimal.value_ofInt, ← Decimal.le_iff_value hb] at hle
  rw [← Decimal.value_ofInt, ← Decimal.lt_iff_value hc] at hlt
  rw [isFraction, hb, hc, hle, hlt]
  rfl

theorem isFraction_failsOnly {x : Decimal} :
    FailsOnly (fun f => f = .decimal .invalid ∧ ¬ x.IsNumber) (isFraction x) := by
  by_cases hx : x.IsNumber
  · obtain ⟨b, hb⟩ := Decimal.IsNumber.le (x := .ofInt 0) trivial hx
    obtain ⟨c, hc⟩ := hx.lt (y := .ofInt 1) trivial
    intro f hf
    rw [isFraction, hb, hc] at hf
    cases b <;> cases hf
  · cases x with
    | nan s q p => exact FailsOnly.error ⟨rfl, hx⟩
    | infinite s => exact absurd trivial hx
    | finite s m e => exact absurd trivial hx

theorem decimal_text (name s : String) : decimal name (.text s) =
    match Decimal.ofText s with
    | some x => .ok x
    | none => .error (.setting (.noNumber name (Datum.text s).shown)) := by
  rw [decimal, Datum.written?_text]
  rfl

theorem decimal_text_failsOnly {name s : String} :
    FailsOnly (fun f => ∃ g, f = .setting g) (decimal name (.text s)) := by
  rw [decimal_text]
  split
  · exact FailsOnly.ok _
  · exact FailsOnly.error ⟨_, rfl⟩

theorem decimal_text_iff {name s : String} {x : Decimal} :
    decimal name (.text s) = .ok x ↔ Decimal.ofText s = some x := by
  rw [decimal_text]
  cases Decimal.ofText s <;> simp

section Levels
variable {t : Thresholds} {multiplier margin rest : Decimal}

theorem lowered_isOk_iff (hmargin : t.marginValue = .ok margin)
    (hrest : Decimal.sub (.ofInt 1) margin = .ok rest) (x : Decimal) :
    (∃ y, t.lowered x = .ok y) ↔ ∃ y, Decimal.mul x rest = .ok y := by
  have hlowered : t.lowered x = (Decimal.mul x rest).mapError .decimal := by
    rw [lowered, hmargin]
    simp [bind, Except.bind, hrest, mapError_ok]
  simp only [hlowered, mapError_eq_ok]

theorem low_isOk_iff : (∃ low, t.low = .ok low) ↔
    ∃ high, t.high = .ok high ∧ ∃ low, t.lowered high = .ok low := by
  cases hhigh : t.high with
  | error f => simp [low, hhigh, Except.bind]
  | ok high => simp [low, hhigh, Except.bind]

/-- A fee that is not null and was not refused for being negative or zero. -/
theorem accepted_fee {d : Datum} (hnull : d.isNull = false)
    (hd : d.isAtMost (.int 0) = .ok false) :
    ∃ x, d.limit? = some x ∧ exact d = .ok (Decimal.ofNumber x) ∧
      x.AtLeast 0 := by
  obtain ⟨x, hx, hle⟩ := Datum.isAtMost_eq_ok hd
  exact ⟨x, Datum.limit?_of_number hnull hx, exact_of_number hx,
    (Number.le_eq_false_iff.mp hle).imp_right le_of_lt⟩

theorem limit?_of_null {d : Datum} (hnull : d.isNull = true) : d.limit? = none := if_pos hnull

/-- The multiple of the base fee can be taken and lowered exactly if it is there and is not an
infinite one that is lowered to nothing. -/
theorem low_isOk_iff_of_null (ht : t.Passed) (hnull : t.ceiling.isNull = true)
    (hmultiplier : t.multiplierValue = .ok multiplier) (hmargin : t.marginValue = .ok margin)
    (hrest : Decimal.sub (.ofInt 1) margin = .ok rest) (hnonneg : whole 0 ≤ rest.value)
    (hone : rest.value ≤ whole 1) :
    (∃ low, t.low = .ok low) ↔
      HasProduct (Decimal.ofNumber t.baseFee.amount).value multiplier.value ∧
        ∀ high, Decimal.mul (.ofNumber t.baseFee.amount) multiplier = .ok high →
          high.value = ⊤ → rest.value ≠ whole 0 := by
  obtain ⟨base, hbase, hless⟩ := Datum.isLess_eq_ok ht.baseFee
  have hbase_nonneg := Number.lt_eq_false_iff.mp hless
  obtain ⟨_, hmultiplier', hpositive⟩ := ht.multiplier
  cases hmultiplier.symm.trans hmultiplier'
  have hmultiplier_pos := mt (Decimal.le_iff_value (hpositive hnull)).mpr Bool.false_ne_true
  rw [Decimal.value_ofInt, not_le] at hmultiplier_pos
  have hlow : (∃ low, t.low = .ok low) ↔ ∃ high,
      Decimal.mul (.ofNumber base) multiplier = .ok high ∧
        ∃ low, Decimal.mul high rest = .ok low := by
    have hhigh : t.high = (Decimal.mul (.ofNumber base) multiplier).mapError .decimal := by
      simp [high, hnull, exact_of_number hbase, hmultiplier, bind, Except.bind]
    simp only [low_isOk_iff, hhigh, mapError_eq_ok, lowered_isOk_iff hmargin hrest]
  rw [hlow, Datum.amount, hbase, Option.getD_some,
    ← mul_fee_isOk_iff hbase_nonneg hmultiplier_pos.le]
  constructor
  · rintro ⟨high, hhigh, hlow⟩
    refine ⟨⟨high, hhigh⟩, fun high' hhigh' htop => ?_⟩
    cases hhigh.symm.trans hhigh'
    exact ((Decimal.mul_isOk_iff (htop ▸ le_top) hnonneg).mp hlow).left htop
  · rintro ⟨⟨high, hhigh⟩, hkept⟩
    refine ⟨high, hhigh, ?_⟩
    obtain rfl | hbase_nonneg := hbase_nonneg
    · obtain ⟨q, hq⟩ := mul_noNumber (s := false) (p := 0) hmultiplier_pos.le
      cases hq.symm.trans hhigh
      obtain ⟨r, hr⟩ := mul_noNumber (s := false) (p := q) hnonneg
      exact ⟨_, hr⟩
    · have hhigh_nonneg := (Decimal.mul_nonneg hbase_nonneg hmultiplier_pos.le hhigh).2
      exact (Decimal.mul_isOk_iff hhigh_nonneg hnonneg).mpr (Decimal.hasProduct_of_le_one
        hhigh_nonneg (fun a => Decimal.mul_lt_limit hbase_nonneg hmultiplier_pos.le hhigh) hone
        (hkept high hhigh))

/-- A ceiling can be lowered exactly if it is not an infinite one that is lowered to nothing, and
what is left is in the range. -/
theorem lowered_fee_isOk_iff (hmargin : t.marginValue = .ok margin)
    (hrest : Decimal.sub (.ofInt 1) margin = .ok rest) (hnonneg : whole 0 ≤ rest.value) {d : Datum}
    (hnull : d.isNull = false) (hd : d.isAtMost (.int 0) = .ok false) :
    (∃ y, (exact d).bind t.lowered = .ok y) ↔
      ∀ x ∈ d.limit?, HasProduct (Decimal.ofNumber x).value rest.value := by
  obtain ⟨x, hlimit, hexact, hx⟩ := accepted_fee hnull hd
  have hbind : (exact d).bind t.lowered = t.lowered (Decimal.ofNumber x) := by
    rw [hexact, Except.bind]
  rw [hbind, lowered_isOk_iff hmargin hrest, mul_fee_isOk_iff hx hnonneg, hlimit]
  simp

theorem maxFeeLow_isOk_iff (ht : t.Passed) (hmargin : t.marginValue = .ok margin)
    (hrest : Decimal.sub (.ofInt 1) margin = .ok rest) (hnonneg : whole 0 ≤ rest.value) :
    (∃ low, t.maxFeeLow = .ok low) ↔
      ∀ x ∈ t.maxFeeCeiling.limit?, HasProduct (Decimal.ofNumber x).value rest.value := by
  by_cases hnull : t.maxFeeCeiling.isNull = true
  · simp [maxFeeLow, hnull, limit?_of_null]
  · have hnull := Bool.not_eq_true _ |>.mp hnull
    rw [← lowered_fee_isOk_iff hmargin hrest hnonneg hnull (ht.maxFeeCeiling hnull)]
    simp only [maxFeeLow, hnull]
    cases (exact t.maxFeeCeiling).bind t.lowered <;> simp [Except.map]

theorem low_isOk_iff_of_ceiling (ht : t.Passed) (hnull : t.ceiling.isNull = false)
    (hmargin : t.marginValue = .ok margin) (hrest : Decimal.sub (.ofInt 1) margin = .ok rest)
    (hnonneg : whole 0 ≤ rest.value) :
    (∃ low, t.low = .ok low) ↔
      ∀ x ∈ t.ceiling.limit?, HasProduct (Decimal.ofNumber x).value rest.value := by
  rw [← lowered_fee_isOk_iff hmargin hrest hnonneg hnull (ht.ceiling hnull), low, high, hnull]
  rfl

end Levels
end Thresholds

theorem Detector.make_isOk_iff_levels {t : Thresholds} (ht : t.Passed) :
    (∃ d, Detector.make t = .ok d) ↔ (∃ low, t.low = .ok low) ∧ ∃ low, t.maxFeeLow = .ok low := by
  constructor
  · rintro ⟨d, hd⟩
    obtain ⟨_, _, low, maxFeeLow, _, hlow, hmax, _⟩ := make_eq_ok hd
    exact ⟨⟨low, hlow⟩, maxFeeLow, hmax⟩
  · rintro ⟨⟨low, hlow⟩, maxFeeLow, hmax⟩
    obtain ⟨high, hhigh, _⟩ := Thresholds.low_isOk_iff.mp ⟨low, hlow⟩
    rw [Detector.make, Thresholds.check_of_passed ht, hhigh, hlow, hmax]
    exact ⟨_, rfl⟩

/-- **A detector for thresholds that passed their check can be made exactly if its levels can be
computed.** -/
theorem Detector.make_isOk_iff {t : Thresholds} (ht : t.Passed) {multiplier margin rest : Decimal}
    (hmultiplier : t.multiplierValue = .ok multiplier) (hmargin : t.marginValue = .ok margin)
    (hrest : Decimal.sub (.ofInt 1) margin = .ok rest) :
    (∃ d, Detector.make t = .ok d) ↔ t.HasLevels multiplier rest := by
  obtain ⟨_, hmargin', hfraction⟩ := ht.margin
  cases hmargin.symm.trans hmargin'
  obtain ⟨hle, hlt⟩ := Thresholds.fraction_of_isFraction hfraction
  have hone := Decimal.sub_le_one hle hlt hrest
  have hnonneg : whole 0 ≤ rest.value := by
    obtain ⟨z, hz, hnonneg⟩ := Decimal.exists_sub_one hle hlt
    cases hrest.symm.trans hz
    exact hnonneg
  rw [make_isOk_iff_levels ht, Thresholds.maxFeeLow_isOk_iff ht hmargin hrest hnonneg]
  cases hnull : t.ceiling.isNull with
  | true =>
    have hlimit := Thresholds.limit?_of_null hnull
    rw [Thresholds.low_isOk_iff_of_null ht hnull hmultiplier hmargin hrest hnonneg hone]
    constructor
    · rintro ⟨⟨hmultiple, hkept⟩, hmax⟩
      refine ⟨fun _ => hmultiple, fun _ => hkept, ?_⟩
      simpa [hlimit] using hmax
    · intro h
      exact ⟨⟨h.multiple hlimit, h.kept hlimit⟩, h.ceilings t.maxFeeCeiling (by simp)⟩
  | false =>
    obtain ⟨x, hlimit, _, _⟩ := Thresholds.accepted_fee hnull (ht.ceiling hnull)
    rw [Thresholds.low_isOk_iff_of_ceiling ht hnull hmargin hrest hnonneg]
    constructor
    · rintro ⟨hceiling, hmax⟩
      refine ⟨fun hnone => ?_, fun hnone => ?_, by simpa using ⟨hceiling, hmax⟩⟩
      · simp [hlimit] at hnone
      · simp [hlimit] at hnone
    · intro h
      simpa using h.ceilings

end Congestion
end FeeWatch
