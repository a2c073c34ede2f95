import FeeWatch.Congestion.Detector
import FeeWatch.Proofs.Setting

/-! Detectors that can take every reading.

Only what is not a number has no order, and arithmetic makes none of the numbers that
it is given. What settings satisfy that passed their check is said once
(`Thresholds.passed_of_check`). So if no setting is not a number, no threshold is, and the
detector takes every reading of whole numbers (`IsComparable.evaluate`), whatever it has
read before. -/
namespace FeeWatch

namespace Number.Decimal

def IsNumber : Decimal → Prop
  | .nan .. => False
  | _ => True

theorem IsNumber.compare {x y : Decimal} (hx : x.IsNumber) (hy : y.IsNumber) :
    ∃ order, compare x y = .ok order := by
  cases x <;> cases y <;> first | exact hx.elim | exact hy.elim | exact ⟨_, rfl⟩

theorem isNumber_of_compare {x y : Decimal} {order : Ordering} (h : compare x y = .ok order) :
    x.IsNumber ∧ y.IsNumber := by
  cases x <;> cases y <;> first | exact ⟨trivial, trivial⟩ | cases h

theorem IsNumber.lt {x y : Decimal} (hx : x.IsNumber) (hy : y.IsNumber) :
    ∃ b, Decimal.lt x y = .ok b := by
  obtain ⟨order, h⟩ := hx.compare hy
  exact ⟨_, congrArg (Except.map _) h⟩

theorem IsNumber.le {x y : Decimal} (hx : x.IsNumber) (hy : y.IsNumber) :
    ∃ b, Decimal.le x y = .ok b := by
  obtain ⟨order, h⟩ := hx.compare hy
  exact ⟨_, congrArg (Except.map _) h⟩

theorem isNumber_of_le {x y : Decimal} {b : Bool} (h : Decimal.le x y = .ok b) :
    x.IsNumber ∧ y.IsNumber := by
  cases horder : compare x y with
  | error f => rw [Decimal.le, horder] at h; cases h
  | ok order => exact isNumber_of_compare horder

theorem fit_isNumber {negative : Bool} {digits : Nat} {power : Int} {x : Decimal}
    (h : fit negative digits power = .ok x) : x.IsNumber := by
  unfold fit at h
  dsimp only at h
  (repeat' split at h) <;> cases h <;> trivial

theorem IsNumber.mul {x y z : Decimal} (hx : x.IsNumber) (hy : y.IsNumber)
    (h : mul x y = .ok z) : z.IsNumber := by
  cases x with
  | nan s q p => exact hx.elim
  | infinite s =>
    cases y with
    | nan t q p => exact hy.elim
    | infinite t => cases h; trivial
    | finite t n f =>
      rw [Decimal.mul] at h
      split at h <;> cases h
      trivial
  | finite s m e =>
    cases y with
    | nan t q p => exact hy.elim
    | infinite t =>
      rw [Decimal.mul] at h
      split at h <;> cases h
      trivial
    | finite t n f => exact fit_isNumber h

theorem addZero_isNumber {s : Bool} {m : Nat} {e f : Int} {z : Decimal}
    (h : addZero s m e f = .ok z) : z.IsNumber := fit_isNumber h

theorem addAligned_isNumber {s t : Bool} {m n : Nat} {e f : Int} {z : Decimal}
    (h : addAligned s m e t n f = .ok z) : z.IsNumber := fit_isNumber h

theorem IsNumber.add {x y z : Decimal} (hx : x.IsNumber) (hy : y.IsNumber)
    (h : add x y = .ok z) : z.IsNumber := by
  cases x with
  | nan s q p => exact hx.elim
  | infinite s =>
    cases y with
    | nan t q p => exact hy.elim
    | infinite t =>
      rw [Decimal.add] at h
      split at h <;> cases h
      trivial
    | finite t n f => cases h; trivial
  | finite s m e =>
    cases y with
    | nan t q p => exact hy.elim
    | infinite t => cases h; trivial
    | finite t n f =>
      rw [Decimal.add] at h
      split at h
      · exact fit_isNumber h
      · split at h
        · exact addZero_isNumber h
        · split at h
          · exact addZero_isNumber h
          · split at h <;> exact addAligned_isNumber h

theorem IsNumber.sub {x y z : Decimal} (hx : x.IsNumber) (hy : y.IsNumber)
    (h : sub x y = .ok z) : z.IsNumber := by
  refine hx.add ?_ h
  cases y <;> first | exact hy.elim | trivial

/-- Of numbers only the double that is none becomes a decimal that is none. -/
theorem ofNumber_isNumber {x : Number} (h : x ≠ .float .nan) : (ofNumber x).IsNumber := by
  cases x with
  | int n => trivial
  | float x =>
    cases x with
    | nan => exact absurd rfl h
    | infinite s => trivial
    | finite s m e =>
      rw [ofNumber, ofBinary]
      split
      split <;> trivial

end Number.Decimal

namespace Congestion

open FeeWatch.Number (Decimal)

/-- What thresholds satisfy that passed their check. -/
structure Thresholds.Passed (t : Thresholds) : Prop where
  multiplier : ∃ x, t.multiplierValue = .ok x ∧
    (t.ceiling.isNull = true → Decimal.le x (.ofInt 0) = .ok false)
  margin : ∃ x, t.marginValue = .ok x ∧ Thresholds.isFraction x = .ok true
  baseFee : t.baseFee.isLess (.int 0) = .ok false
  ceiling : t.ceiling.isNull = false → t.ceiling.isAtMost (.int 0) = .ok false
  maxFeeCeiling : t.maxFeeCeiling.isNull = false → t.maxFeeCeiling.isAtMost (.int 0) = .ok false
  enterCycles : t.enterCycles.isLess (.int 1) = .ok false

/-- A setting whose refusal did not come about. -/
theorem test_of_refusal {test : Except Datum.Misfit Bool} {fault : String → Setting.Fault}
    {got : Datum} {u : Unit}
    (h : (Setting.refuseIf test fault got).mapError Fault.ofRefusal = .ok u) : test = .ok false :=
  Setting.refuseIf_eq_ok (mapError_eq_ok.mp h)

theorem Thresholds.passed_of_check {t : Thresholds} (h : t.check = .ok ()) : t.Passed := by
  unfold Thresholds.check at h
  obtain ⟨multiplier, hmultiplier, h⟩ := bind_eq_ok.mp h
  obtain ⟨margin, hmargin, h⟩ := bind_eq_ok.mp h
  obtain ⟨_, hbase, h⟩ := bind_eq_ok.mp h
  extract_lets last fraction rest at h
  -- With a ceiling the multiplier is compared with nothing, so it may be no number.
  have hceiling : (t.ceiling.isNull = true → Decimal.le multiplier (.ofInt 0) = .ok false) ∧
      (t.ceiling.isNull = false → t.ceiling.isAtMost (.int 0) = .ok false) ∧ rest () = .ok () := by
    split at h
    · rename_i hnull
      obtain ⟨refused, hle, h⟩ := bind_eq_ok.mp h
      cases refused with
      | true => cases h
      | false => exact ⟨fun _ => mapError_eq_ok.mp hle, by simp [hnull], h⟩
    · obtain ⟨_, hpositive, h⟩ := bind_eq_ok.mp h
      exact ⟨fun hnull => absurd hnull ‹_›, fun _ => test_of_refusal hpositive, h⟩
  obtain ⟨hpositive, hceiling, h⟩ := hceiling
  dsimp only [rest, fraction] at h
  obtain ⟨hmax, h⟩ := guard_eq_ok h
  obtain ⟨within, hfraction, h⟩ := bind_eq_ok.mp h
  cases within with
  | false => cases h
  | true =>
    exact {
      multiplier := ⟨multiplier, hmultiplier, hpositive⟩
      margin := ⟨margin, hmargin, hfraction⟩
      baseFee := test_of_refusal hbase
      ceiling := hceiling
      maxFeeCeiling := fun hnull => test_of_refusal (hmax (by simp [hnull]))
      enterCycles := test_of_refusal h }

/-- What passes every step of the check passes the check. -/
theorem Thresholds.check_of_passed {t : Thresholds} (ht : t.Passed) : t.check = .ok () := by
  obtain ⟨multiplier, hmultiplier, hpositive⟩ := ht.multiplier
  obtain ⟨margin, hmargin, hfraction⟩ := ht.margin
  unfold Thresholds.check
  rw [hmultiplier, hmargin, Setting.refuseIf_of_false ht.baseFee,
    Setting.refuseIf_of_false ht.enterCycles]
  cases hmax : t.maxFeeCeiling.isNull with
  | true =>
    cases hnull : t.ceiling.isNull with
    | true => simp [bind, Except.bind, mapError_ok, hpositive hnull, hfraction]
    | false =>
      simp [bind, Except.bind, mapError_ok, Setting.refuseIf_of_false (ht.ceiling hnull),
        hfraction]
  | false =>
    have hrefuse : Setting.refuseIf (t.maxFeeCeiling.isAtMost (.int 0))
        (.positive "max_fee_ceiling") t.maxFeeCeiling = .ok () :=
      Setting.refuseIf_of_false (ht.maxFeeCeiling hmax)
    cases hnull : t.ceiling.isNull with
    | true => simp [bind, Except.bind, mapError_ok, hpositive hnull, hrefuse, hfraction]
    | false =>
      simp [bind, Except.bind, mapError_ok, Setting.refuseIf_of_false (ht.ceiling hnull),
        hrefuse, hfraction]

/-- Thresholds that were accepted: the multiplier, if it counts, and the margin are numbers, and so
are the fees that are not null, though one may be the double that is none. -/
structure Thresholds.Accepted (t : Thresholds) : Prop where
  multiplier : t.ceiling.isNull = true → ∀ x, t.multiplierValue = .ok x → x.IsNumber
  margin : ∀ x, t.marginValue = .ok x → x.IsNumber
  baseFee : ∃ x, t.baseFee.number? = some x
  ceiling : t.ceiling.isNull = false → ∃ x, t.ceiling.number? = some x
  maxFeeCeiling : t.maxFeeCeiling.isNull = false → ∃ x, t.maxFeeCeiling.number? = some x

theorem isFraction_isNumber {x : Decimal} {b : Bool} (h : Thresholds.isFraction x = .ok b) :
    x.IsNumber := by
  obtain ⟨_, hle, _⟩ := bind_eq_ok.mp h
  exact (Decimal.isNumber_of_le (mapError_eq_ok.mp hle)).2

theorem Thresholds.accepted_of_check {t : Thresholds} (h : t.check = .ok ()) : t.Accepted := by
  have ht := passed_of_check h
  obtain ⟨multiplier, hmultiplier, hpositive⟩ := ht.multiplier
  obtain ⟨margin, hmargin, hfraction⟩ := ht.margin
  have hnumber {d : Datum} (hd : d.isAtMost (.int 0) = .ok false) : ∃ x, d.number? = some x :=
    let ⟨x, hx, _⟩ := Datum.isAtMost_eq_ok hd
    ⟨x, hx⟩
  obtain ⟨x, hx, _⟩ := Datum.isLess_eq_ok ht.baseFee
  exact {
    multiplier := fun hnull y hy =>
      Except.ok.inj (hmultiplier.symm.trans hy) ▸ (Decimal.isNumber_of_le (hpositive hnull)).1
    margin := fun y hy => Except.ok.inj (hmargin.symm.trans hy) ▸ isFraction_isNumber hfraction
    baseFee := ⟨x, hx⟩
    ceiling := fun hnull => hnumber (ht.ceiling hnull)
    maxFeeCeiling := fun hnull => hnumber (ht.maxFeeCeiling hnull) }

/-! ### Values of thresholds -/

/-- Whether no fee among the settings is the double that is not a number. -/
def Thresholds.IsNumeric (t : Thresholds) : Prop :=
  ∀ d ∈ [t.baseFee, t.ceiling, t.maxFeeCeiling], d.number? ≠ some (.float .nan)

theorem exact_isNumber {d : Datum} {x : Number} {y : Decimal} (hx : d.number? = some x)
    (hd : d.number? ≠ some (.float .nan)) (h : exact d = .ok y) : y.IsNumber := by
  simp only [exact, hx] at h
  cases h
  exact Decimal.ofNumber_isNumber fun hnan => hd (hx.trans (congrArg some hnan))

section Values
variable {t : Thresholds} {x y : Decimal}

theorem Thresholds.Accepted.high (ht : t.Accepted) (hnumeric : t.IsNumeric) (h : t.high = .ok x) :
    x.IsNumber := by
  unfold Thresholds.high at h
  split at h
  · rename_i hnull
    obtain ⟨base, hbase, h⟩ := bind_eq_ok.mp h
    obtain ⟨multiplier, hmultiplier, h⟩ := bind_eq_ok.mp h
    obtain ⟨_, hnumber⟩ := ht.baseFee
    have hbase := exact_isNumber hnumber (hnumeric t.baseFee (by simp)) hbase
    exact hbase.mul (ht.multiplier hnull _ hmultiplier) (mapError_eq_ok.mp h)
  · rename_i hnull
    obtain ⟨_, hnumber⟩ := ht.ceiling (Bool.not_eq_true _ |>.mp hnull)
    exact exact_isNumber hnumber (hnumeric t.ceiling (by simp)) h

theorem Thresholds.Accepted.lowered (ht : t.Accepted) (hx : x.IsNumber) (h : t.lowered x = .ok y) :
    y.IsNumber := by
  obtain ⟨margin, hmargin, h⟩ := bind_eq_ok.mp h
  obtain ⟨factor, hfactor, h⟩ := bind_eq_ok.mp h
  have hone : (Decimal.ofInt 1).IsNumber := trivial
  exact hx.mul (hone.sub (ht.margin margin hmargin) (mapError_eq_ok.mp hfactor))
    (mapError_eq_ok.mp h)

theorem Thresholds.Accepted.low (ht : t.Accepted) (hnumeric : t.IsNumeric) (h : t.low = .ok x) :
    x.IsNumber := by
  obtain ⟨high, hhigh, h⟩ := bind_eq_ok.mp h
  exact ht.lowered (ht.high hnumeric hhigh) h

theorem Thresholds.Accepted.maxFeeLow (ht : t.Accepted) (hnumeric : t.IsNumeric)
    {c : Option Decimal} (h : t.maxFeeLow = .ok c) : ∀ x ∈ c, x.IsNumber := by
  unfold Thresholds.maxFeeLow at h
  split at h
  · cases h
    exact nofun
  · rename_i hnull
    obtain ⟨_, hnumber⟩ := ht.maxFeeCeiling (Bool.not_eq_true _ |>.mp hnull)
    cases hlow : (exact t.maxFeeCeiling).bind t.lowered with
    | error f => rw [hlow] at h; cases h
    | ok low =>
      obtain ⟨ceiling, hceiling, hlowered⟩ := bind_eq_ok.mp hlow
      have hceiling := exact_isNumber hnumber (hnumeric t.maxFeeCeiling (by simp)) hceiling
      rw [hlow] at h
      cases h
      exact fun x hx => Option.some.inj hx ▸ ht.lowered hceiling hlowered

end Values

/-! ### Readings -/

namespace Detector

/-- A detector whose thresholds can be compared with whole numbers. -/
structure IsComparable (d : Detector) : Prop where
  high : d.high.IsNumber
  low : d.low.IsNumber
  maxFeeLow : ∀ x ∈ d.maxFeeLow, x.IsNumber
  maxFeeCeiling : d.thresholds.maxFeeCeiling.isNull = false →
    ∃ x, d.thresholds.maxFeeCeiling.number? = some x

/-- A detector that was made holds the levels of thresholds that passed their check. -/
theorem make_eq_ok {t : Thresholds} {d : Detector} (h : make t = .ok d) :
    t.check = .ok () ∧ ∃ high low maxFeeLow, t.high = .ok high ∧ t.low = .ok low ∧
      t.maxFeeLow = .ok maxFeeLow ∧ d = ⟨t, high, low, maxFeeLow, .normal, 0⟩ := by
  obtain ⟨_, hcheck, h⟩ := bind_eq_ok.mp h
  obtain ⟨high, hhigh, h⟩ := bind_eq_ok.mp h
  obtain ⟨low, hlow, h⟩ := bind_eq_ok.mp h
  obtain ⟨maxFeeLow, hmaxFeeLow, h⟩ := bind_eq_ok.mp h
  cases h
  exact ⟨hcheck, high, low, maxFeeLow, hhigh, hlow, hmaxFeeLow, rfl⟩

theorem make_isComparable {t : Thresholds} {d : Detector} (h : make t = .ok d)
    (hnumeric : t.IsNumeric) : d.IsComparable := by
  obtain ⟨hcheck, high, low, maxFeeLow, hhigh, hlow, hmaxFeeLow, rfl⟩ := make_eq_ok h
  have ht := Thresholds.accepted_of_check hcheck
  exact ⟨ht.high hnumeric hhigh, ht.low hnumeric hlow, ht.maxFeeLow hnumeric hmaxFeeLow,
    ht.maxFeeCeiling⟩

theorem relate_int {relation : String} {holds : Decimal → Decimal → Except Decimal.Fault Bool}
    {n : Int} {x : Decimal} (h : ∃ b, holds (.ofInt n) x = .ok b) :
    ∃ b, relate relation holds (.int n) x = .ok b := by
  obtain ⟨b, hb⟩ := h
  exact ⟨b, mapError_eq_ok.mpr hb⟩

theorem IsComparable.isHigh {d : Detector} (hd : d.IsComparable) (average min max : Int) :
    ∃ b, d.isHigh (.ofInts average min max) = .ok b := by
  refine exists_bind_eq_ok (relate_int (hd.high.lt trivial)) fun above => ?_
  split
  · exact ⟨_, rfl⟩
  · split
    · exact ⟨_, rfl⟩
    · rename_i hnull
      obtain ⟨x, hx⟩ := hd.maxFeeCeiling (Bool.not_eq_true _ |>.mp hnull)
      have hmax : (Datum.int max).number? = some (.int max) := rfl
      exact ⟨Number.lt x (.int max), by
        rw [Reading.ofInts, Datum.isGreater, Datum.relate, hx, hmax]; rfl⟩

theorem IsComparable.isLow {d : Detector} (hd : d.IsComparable) (average min max : Int) :
    ∃ b, d.isLow (.ofInts average min max) = .ok b := by
  refine exists_bind_eq_ok (relate_int (hd.low.le trivial)) fun above => ?_
  split
  · exact ⟨_, rfl⟩
  · split
    · exact ⟨_, rfl⟩
    · rename_i c hc
      have hmax : (Decimal.ofInt max).IsNumber := trivial
      exact relate_int (hmax.le (hd.maxFeeLow c hc))

/-- **A comparable detector takes every reading**, and stays comparable. -/
theorem IsComparable.evaluate {d : Detector} (hd : d.IsComparable) (average min max : Int) :
    ∃ d' log, d.evaluate (.ofInts average min max) = .ok (d', log) ∧ d'.IsComparable := by
  have hsame (state : Fee.Market) (streak : Nat) : { d with state, streak }.IsComparable :=
    ⟨hd.high, hd.low, hd.maxFeeLow, hd.maxFeeCeiling⟩
  unfold Detector.evaluate
  cases d.state with
  | normal =>
    obtain ⟨high, hhigh⟩ := hd.isHigh average min max
    simp only [evaluateNormal, hhigh]
    cases high with
    | false => exact ⟨_, _, rfl, hsame _ _⟩
    | true =>
      by_cases henough :
          Number.le d.thresholds.enterCycles.amount (.int (d.streak + 1 : Nat)) = true
      · exact ⟨_, _, if_pos henough, hsame _ _⟩
      · exact ⟨_, _, if_neg henough, hsame _ _⟩
  | congested =>
    obtain ⟨low, hlow⟩ := hd.isLow average min max
    simp only [evaluateCongested, hlow]
    cases low with
    | false => exact ⟨d, _, rfl, hd⟩
    | true => exact ⟨_, _, rfl, hsame _ _⟩

end Detector
end Congestion
end FeeWatch
