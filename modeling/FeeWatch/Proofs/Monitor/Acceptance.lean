import FeeWatch.Proofs.Calendar.Span
import FeeWatch.Proofs.Congestion.Making
import FeeWatch.Proofs.Monitor.Cycle

/-! Settings that are accepted, and monitors that can be made from them.

The check of settings and the making of a monitor look at the same settings at three places. What
each of them asks is said on values: the check asks for ranges, in which the double that is no
number counts as lying (`InRange`), the window for an age that is a length of time, the detector for
levels that have values (`Buildable`). The check may also end with a fault that is no setting's
(`MayFail`). All of it is said of settings of the kinds that they are declared with. -/
namespace FeeWatch

open FeeWatch.Number (Decimal whole)

def Datum.ofNumber? : Option Number → Datum
  | some x => ofNumber x
  | none => null

namespace Monitor

open FeeWatch.Number.Decimal (le_failsOnly)
open FeeWatch.Congestion.Thresholds (decimal_text_iff decimal_text_failsOnly isFraction_iff
  isFraction_failsOnly)

/-- Settings of the kinds that they are declared with. -/
structure Declared where
  interval : Number
  maxPoints : Option Number
  maxAge : Option Number
  baseFee : Number
  multiplier : String
  ceiling : Option Number
  maxFeeCeiling : Option Number
  margin : String
  enterCycles : Number
  policy : Policy
  failureThreshold : Number
  grace : Number

namespace Declared

def settings (d : Declared) : Settings where
  interval := .ofNumber d.interval
  maxPoints := .ofNumber? d.maxPoints
  maxAge := .ofNumber? d.maxAge
  baseFee := .ofNumber d.baseFee
  multiplier := .text d.multiplier
  ceiling := .ofNumber? d.ceiling
  maxFeeCeiling := .ofNumber? d.maxFeeCeiling
  margin := .text d.margin
  enterCycles := .ofNumber d.enterCycles
  policy := d.policy
  failureThreshold := .ofNumber d.failureThreshold
  grace := .ofNumber d.grace

/-- Every setting lies in its documented range, or is the double that is no number. -/
structure InRange (d : Declared) : Prop where
  interval : d.interval.Exceeds 0
  bounded : d.maxPoints ≠ none ∨ d.maxAge ≠ none
  maxPoints : ∀ x ∈ d.maxPoints, x.AtLeast 1
  maxAge : ∀ x ∈ d.maxAge, x.Exceeds 0
  failureThreshold : d.failureThreshold.AtLeast 1
  grace : d.grace.AtLeast 0
  policy : ∀ given, d.policy ≠ .other given
  multiplier : ∃ x, Decimal.ofText d.multiplier = some x ∧ (d.ceiling = none → whole 0 < x.value)
  margin : ∃ x, Decimal.ofText d.margin = some x ∧ whole 0 ≤ x.value ∧ x.value < whole 1
  baseFee : d.baseFee.AtLeast 0
  ceiling : ∀ x ∈ d.ceiling, x.Exceeds 0
  maxFeeCeiling : ∀ x ∈ d.maxFeeCeiling, x.Exceeds 0
  enterCycles : d.enterCycles.AtLeast 1

section Checks
variable (d : Declared)

theorem checkOwn_eq_ok_iff : d.settings.checkOwn = .ok () ↔
    d.interval.Exceeds 0 ∧ (d.maxPoints ≠ none ∨ d.maxAge ≠ none) ∧
    (∀ x ∈ d.maxPoints, x.AtLeast 1) ∧ (∀ x ∈ d.maxAge, x.Exceeds 0) ∧
    d.failureThreshold.AtLeast 1 ∧ d.grace.AtLeast 0 ∧ ∀ given, d.policy ≠ .other given := by
  unfold Settings.checkOwn
  cases hpoints : d.maxPoints <;> cases hage : d.maxAge <;> cases hpolicy : d.policy <;>
    simp [settings, hpoints, hage, hpolicy, Datum.ofNumber?, then_eq_ok,
      Setting.refuseIf_eq_ok_iff, Number.lt_eq_false_iff, Number.le_eq_false_iff,
      Datum.isNull_ofNumber]

theorem isLess_iff {x : Number} {n : Int} :
    (Datum.ofNumber x).isLess (.int n) = .ok false ↔ x.AtLeast n := by
  rw [Datum.isLess_ofNumber, Except.ok.injEq, Number.lt_eq_false_iff]

theorem isLess?_iff {x? : Option Number} {n : Int} :
    ((Datum.ofNumber? x?).isNull = false → (Datum.ofNumber? x?).isLess (.int n) = .ok false) ↔
      ∀ x ∈ x?, x.AtLeast n := by
  cases x? with
  | none => simp [Datum.ofNumber?]
  | some x => simp [Datum.ofNumber?, Datum.isNull_ofNumber, Number.lt_eq_false_iff]

theorem isAtMost?_iff {x? : Option Number} :
    ((Datum.ofNumber? x?).isNull = false → (Datum.ofNumber? x?).isAtMost (.int 0) = .ok false) ↔
      ∀ x ∈ x?, x.Exceeds 0 := by
  cases x? with
  | none => simp [Datum.ofNumber?]
  | some x => simp [Datum.ofNumber?, Datum.isNull_ofNumber, Number.le_eq_false_iff]

theorem isNull_ofNumber?_iff {x? : Option Number} :
    (Datum.ofNumber? x?).isNull = true ↔ x? = none := by
  cases x? with
  | none => simp [Datum.ofNumber?]
  | some x => simp [Datum.ofNumber?, Datum.isNull_ofNumber]

theorem check_eq_ok_iff : d.settings.check = .ok () ↔ d.InRange := by
  have hown := d.checkOwn_eq_ok_iff
  have hpassed : d.settings.thresholds.check = .ok () ↔ d.settings.thresholds.Passed :=
    ⟨Congestion.Thresholds.passed_of_check, Congestion.Thresholds.check_of_passed⟩
  rw [Settings.check, then_eq_ok, mapError_eq_ok, hown, hpassed]
  constructor
  · rintro ⟨⟨hinterval, hbounded, hpoints, hage, hthreshold, hgrace, hpolicy⟩, ht⟩
    obtain ⟨multiplier, hmultiplier, hpositive⟩ := ht.multiplier
    obtain ⟨margin, hmargin, hfraction⟩ := ht.margin
    exact {
      interval := hinterval
      bounded := hbounded
      maxPoints := hpoints
      maxAge := hage
      failureThreshold := hthreshold
      grace := hgrace
      policy := hpolicy
      multiplier := ⟨multiplier, decimal_text_iff.mp hmultiplier, fun hnone =>
        Decimal.le_eq_false_iff.mp (hpositive (isNull_ofNumber?_iff.mpr hnone))⟩
      margin := ⟨margin, decimal_text_iff.mp hmargin, isFraction_iff.mp hfraction⟩
      baseFee := isLess_iff.mp ht.baseFee
      ceiling := isAtMost?_iff.mp ht.ceiling
      maxFeeCeiling := isAtMost?_iff.mp ht.maxFeeCeiling
      enterCycles := isLess_iff.mp ht.enterCycles }
  · intro h
    obtain ⟨multiplier, hmultiplier, hpositive⟩ := h.multiplier
    obtain ⟨margin, hmargin, hfraction⟩ := h.margin
    refine ⟨⟨h.interval, h.bounded, h.maxPoints, h.maxAge, h.failureThreshold, h.grace,
      h.policy⟩, ?_⟩
    exact {
      multiplier := ⟨multiplier, decimal_text_iff.mpr hmultiplier, fun hnull =>
        Decimal.le_eq_false_iff.mpr (hpositive (isNull_ofNumber?_iff.mp hnull))⟩
      margin := ⟨margin, decimal_text_iff.mpr hmargin, isFraction_iff.mpr hfraction⟩
      baseFee := isLess_iff.mpr h.baseFee
      ceiling := isAtMost?_iff.mpr h.ceiling
      maxFeeCeiling := isAtMost?_iff.mpr h.maxFeeCeiling
      enterCycles := isLess_iff.mpr h.enterCycles }

end Checks

/-! ### Faults of the check -/

/-- The numbers among the settings. -/
def numbers (d : Declared) : List Number :=
  [d.interval, d.baseFee, d.enterCycles, d.failureThreshold, d.grace] ++ d.maxPoints.toList ++
    d.maxAge.toList ++ d.ceiling.toList ++ d.maxFeeCeiling.toList

/-- The faults that the check may end with. Besides settings out of range there are two that it
meets on its way: a margin, or a multiplier that counts, that is not a number and so has no order,
and a whole number so far below its range that the fault cannot say it. -/
def MayFail (d : Declared) : Congestion.Fault → Prop
  | .setting _ => True
  | .decimal f => f = .invalid ∧ ∃ x : Decimal, ¬ x.IsNumber ∧
      (Decimal.ofText d.margin = some x ∨ d.ceiling = none ∧ Decimal.ofText d.multiplier = some x)
  | .misfit m => m = .number .unwritable ∧
      ∃ n ≤ 0, Number.int n ∈ d.numbers ∧ Number.isOverlong n = true

section Faults
variable {d : Declared}

theorem refuse_mayFail {x : Number} (hx : x ∈ d.numbers) {test : Except Datum.Misfit Bool}
    {b : Bool} (htest : test = .ok b) (hb : b = true → ∀ n, x = .int n → n ≤ 0)
    (fault : String → Setting.Fault) :
    FailsOnly (fun r => d.MayFail (.ofRefusal r)) (Setting.refuseIf test fault (.ofNumber x)) := by
  refine (Setting.refuseIf_failsOnly htest).mono ?_
  rintro r (⟨f, rfl⟩ | ⟨rfl, hrefused, hlong⟩)
  · trivial
  · cases x with
    | float y => exact absurd hlong (by simp [Datum.ofNumber, Datum.isOverlong_float])
    | int n => exact ⟨rfl, n, hb hrefused n rfl, hx, (Datum.isOverlong_int n).symm.trans hlong⟩

theorem refuseLess_mayFail {x : Number} (hx : x ∈ d.numbers) {k : Int} (hk : k ≤ 1)
    (fault : String → Setting.Fault) :
    FailsOnly (fun r => d.MayFail (.ofRefusal r))
      (Setting.refuseIf ((Datum.ofNumber x).isLess (.int k)) fault (.ofNumber x)) := by
  refine refuse_mayFail hx (Datum.isLess_ofNumber x k) ?_ fault
  rintro hlt n rfl
  rw [Number.lt_int, decide_eq_true_eq] at hlt
  omega

theorem refuseAtMost_mayFail {x : Number} (hx : x ∈ d.numbers) (fault : String → Setting.Fault) :
    FailsOnly (fun r => d.MayFail (.ofRefusal r))
      (Setting.refuseIf ((Datum.ofNumber x).isAtMost (.int 0)) fault (.ofNumber x)) := by
  refine refuse_mayFail hx (Datum.isAtMost_ofNumber x 0) ?_ fault
  rintro hle n rfl
  rwa [Number.le_int, decide_eq_true_eq] at hle

theorem refuseLess?_mayFail {x? : Option Number} (hx : ∀ x ∈ x?, x ∈ d.numbers) {k : Int}
    (hk : k ≤ 1) (hnull : (!(Datum.ofNumber? x?).isNull) = true) (fault : String → Setting.Fault) :
    FailsOnly (fun r => d.MayFail (.ofRefusal r))
      (Setting.refuseIf ((Datum.ofNumber? x?).isLess (.int k)) fault (.ofNumber? x?)) := by
  cases x? with
  | none => exact absurd hnull (by decide)
  | some x => exact refuseLess_mayFail (hx x rfl) hk fault

theorem refuseAtMost?_mayFail {x? : Option Number} (hx : ∀ x ∈ x?, x ∈ d.numbers)
    (hnull : (!(Datum.ofNumber? x?).isNull) = true) (fault : String → Setting.Fault) :
    FailsOnly (fun r => d.MayFail (.ofRefusal r))
      (Setting.refuseIf ((Datum.ofNumber? x?).isAtMost (.int 0)) fault (.ofNumber? x?)) := by
  cases x? with
  | none => exact absurd hnull (by decide)
  | some x => exact refuseAtMost_mayFail (hx x rfl) fault

theorem checkOwn_failsOnly :
    FailsOnly (fun r => d.MayFail (.ofRefusal r)) d.settings.checkOwn := by
  unfold Settings.checkOwn
  refine FailsOnly.bind (refuseAtMost_mayFail (by simp [numbers]) _) fun _ _ => ?_
  extract_lets last age points
  refine FailsOnly.guard (fun _ => FailsOnly.error trivial) ?_
  refine FailsOnly.guard (fun hnull =>
    refuseLess?_mayFail (by simp +contextual [numbers]) le_rfl hnull _) ?_
  refine FailsOnly.guard (fun hnull =>
    refuseAtMost?_mayFail (by simp +contextual [numbers]) hnull _) ?_
  refine FailsOnly.bind (refuseLess_mayFail (by simp [numbers]) le_rfl _) fun _ _ => ?_
  refine FailsOnly.bind (refuseLess_mayFail (by simp [numbers]) Int.one_pos.le _) fun _ _ => ?_
  split
  · exact FailsOnly.error trivial
  · exact FailsOnly.ok _

theorem thresholds_failsOnly : FailsOnly d.MayFail d.settings.thresholds.check := by
  unfold Congestion.Thresholds.check
  refine FailsOnly.bind (decimal_text_failsOnly.mono ?_) fun multiplier hmultiplier => ?_
  · rintro _ ⟨f, rfl⟩
    trivial
  refine FailsOnly.bind (decimal_text_failsOnly.mono ?_) fun margin hmargin => ?_
  · rintro _ ⟨f, rfl⟩
    trivial
  refine FailsOnly.bind (FailsOnly.mapError
    (refuseLess_mayFail (by simp [numbers]) Int.one_pos.le _)) fun _ _ => ?_
  extract_lets last fraction rest
  have hrest : FailsOnly d.MayFail (rest ()) := by
    refine FailsOnly.guard (fun hnull => FailsOnly.mapError
      (refuseAtMost?_mayFail (by simp +contextual [numbers]) hnull _)) ?_
    refine FailsOnly.bind (isFraction_failsOnly.mono ?_) fun within _ => ?_
    · rintro _ ⟨rfl, hnumber⟩
      exact ⟨rfl, margin, hnumber, .inl (decimal_text_iff.mp hmargin)⟩
    refine FailsOnly.guard (fun _ => FailsOnly.error trivial) ?_
    exact FailsOnly.mapError (refuseLess_mayFail (by simp [numbers]) le_rfl _)
  refine FailsOnly.ite (fun hnull => ?_) fun hnull => ?_
  · refine FailsOnly.bind (FailsOnly.mapError (le_failsOnly.mono ?_)) fun refused _ => ?_
    · rintro _ ⟨rfl, hnumber⟩
      exact ⟨rfl, multiplier, hnumber,
        .inr ⟨isNull_ofNumber?_iff.mp hnull, decimal_text_iff.mp hmultiplier⟩⟩
    exact FailsOnly.guard (fun _ => FailsOnly.error trivial) hrest
  · have hnull : (!(Datum.ofNumber? d.ceiling).isNull) = true := by
      rw [Bool.not_eq_true']
      exact eq_false_of_ne_true hnull
    exact FailsOnly.bind (FailsOnly.mapError
      (refuseAtMost?_mayFail (by simp +contextual [numbers]) hnull _)) fun _ _ => hrest

/-- **The check ends, if not well, with one of these faults.** -/
theorem check_failsOnly (d : Declared) : FailsOnly d.MayFail d.settings.check :=
  FailsOnly.bind (FailsOnly.mapError checkOwn_failsOnly) fun _ _ => thresholds_failsOnly

end Faults

/-! ### Monitors -/

/-- A monitor can be made from settings that were accepted: the greatest age is a length of time,
and the levels of the detector can be computed. -/
structure Buildable (d : Declared) : Prop where
  maxAge : ∀ x ∈ d.maxAge, x ≠ .float .nan ∧
    (Decimal.ofNumber x).value < whole Calendar.Span.bound
  levels : ∀ multiplier margin rest, Decimal.ofText d.multiplier = some multiplier →
    Decimal.ofText d.margin = some margin → Decimal.sub (.ofInt 1) margin = .ok rest →
    d.settings.thresholds.HasLevels multiplier rest

theorem limit?_ofNumber? (x? : Option Number) : (Datum.ofNumber? x?).limit? = x? := by
  cases x? with
  | none => rfl
  | some x => exact Datum.limit?_of_number (Datum.isNull_ofNumber x) (Datum.number?_ofNumber x)

section Making
variable {d : Declared}

theorem bounds_isOk_iff (hd : d.InRange) :
    (∃ b, Window.Bounds.make d.settings.maxPoints d.settings.maxAge = .ok b) ↔
      ∀ x ∈ d.maxAge, ∃ ticks, Calendar.Span.ofSeconds x = .ok ticks := by
  have hsome : ¬ (d.settings.maxPoints.isNull = true ∧ d.settings.maxAge.isNull = true) := by
    rintro ⟨hpoints, hage⟩
    exact hd.bounded.elim (· (isNull_ofNumber?_iff.mp hpoints)) (· (isNull_ofNumber?_iff.mp hage))
  rw [Window.Bounds.make_isOk_iff hsome (isLess?_iff.mpr hd.maxPoints)
    (isAtMost?_iff.mpr hd.maxAge)]
  simp only [settings, limit?_ofNumber?]

theorem length_iff (hd : d.InRange) (hage : ∀ x ∈ d.maxAge, x.IsDouble) :
    (∀ x ∈ d.maxAge, ∃ ticks, Calendar.Span.ofSeconds x = .ok ticks) ↔
      ∀ x ∈ d.maxAge, x ≠ .float .nan ∧
        (Decimal.ofNumber x).value < whole Calendar.Span.bound := by
  refine forall₂_congr fun x hx => ?_
  obtain rfl | hpos := hd.maxAge x hx
  · exact iff_of_false nofun fun h => h.1 rfl
  · rw [Calendar.Span.ofSeconds_isOk_iff (hage x hx) hpos]
    refine (and_iff_right ?_).symm
    rintro rfl
    exact absurd hpos not_lt_bot

theorem levels_isOk_iff (hd : d.InRange) :
    (∃ detector, Congestion.Detector.make d.settings.thresholds = .ok detector) ↔
      ∀ multiplier margin rest, Decimal.ofText d.multiplier = some multiplier →
        Decimal.ofText d.margin = some margin → Decimal.sub (.ofInt 1) margin = .ok rest →
        d.settings.thresholds.HasLevels multiplier rest := by
  have hcheck := (then_eq_ok.mp (d.check_eq_ok_iff.mpr hd)).2
  have hpassed := Congestion.Thresholds.passed_of_check hcheck
  obtain ⟨multiplier, hmultiplier, _⟩ := hd.multiplier
  obtain ⟨margin, hmargin, hnonneg, hone⟩ := hd.margin
  obtain ⟨rest, hrest, _⟩ := Decimal.exists_sub_one hnonneg hone
  have hmake := Congestion.Detector.make_isOk_iff hpassed (decimal_text_iff.mpr hmultiplier)
    (decimal_text_iff.mpr hmargin) hrest
  rw [hmake]
  constructor
  · intro h multiplier' margin' rest' hmultiplier' hmargin' hrest'
    cases hmultiplier.symm.trans hmultiplier'
    cases hmargin.symm.trans hmargin'
    cases hrest.symm.trans hrest'
    exact h
  · intro h
    exact h multiplier margin rest hmultiplier hmargin hrest

theorem make_isOk_iff {α : Type} (hd : d.InRange) (hage : ∀ x ∈ d.maxAge, x.IsDouble)
    (source : String) (archive : Option α) (desk : Option Alert.Desk) :
    (∃ m, make source d.settings archive desk = .ok m) ↔ d.Buildable := by
  have hmake : (∃ m, make source d.settings archive desk = .ok m) ↔
      (∃ b, Window.Bounds.make d.settings.maxPoints d.settings.maxAge = .ok b) ∧
        ∃ detector, Congestion.Detector.make d.settings.thresholds = .ok detector := by
    constructor
    · rintro ⟨m, hm⟩
      obtain ⟨_, b, detector, hb, hdetector, _⟩ := make_eq_ok hm
      exact ⟨⟨b, hb⟩, detector, hdetector⟩
    · rintro ⟨⟨b, hb⟩, detector, hdetector⟩
      rw [make, d.check_eq_ok_iff.mpr hd, hb, hdetector]
      exact ⟨_, rfl⟩
  rw [hmake, bounds_isOk_iff hd, length_iff hd hage, levels_isOk_iff hd]
  exact ⟨fun ⟨hlength, hlevels⟩ => ⟨hlength, hlevels⟩, fun h => ⟨h.maxAge, h.levels⟩⟩

end Making
end Declared

/-! ### Acceptance -/

/-- **The check accepts what lies in range, and what is no number**: settings pass it exactly if each
of them lies in its documented range or is the double that is not a number. Otherwise the fault
names the setting, unless a decimal without order or a whole number with too many digits ends the
check. From settings that passed it a monitor can be made exactly if the greatest age is a length
of time and the levels of the detector have values. -/
theorem check_iff_then_make_iff {α : Type} (d : Declared) (hage : ∀ x ∈ d.maxAge, x.IsDouble) :
    (d.settings.check = .ok () ↔ d.InRange) ∧
    (∀ f, d.settings.check = .error f → d.MayFail f) ∧
    (d.settings.check = .ok () → ∀ source (archive : Option α) desk,
      (∃ m, make source d.settings archive desk = .ok m) ↔ d.Buildable) := by
  refine ⟨d.check_eq_ok_iff, d.check_failsOnly, fun hcheck source archive desk => ?_⟩
  exact Declared.make_isOk_iff (d.check_eq_ok_iff.mp hcheck) hage source archive desk

/-- The settings that are used where none are given. -/
def usual : Declared where
  interval := 10
  maxPoints := some 1000
  maxAge := some 3600
  baseFee := 100
  multiplier := "2.0"
  ceiling := none
  maxFeeCeiling := none
  margin := "0.2"
  enterCycles := 1
  policy := .always
  failureThreshold := 3
  grace := 30

/-- The usual settings are accepted, and so is an age of too many days, but only from the former a
monitor can be made. -/
theorem check_iff_then_make_iff_usual :
    let long : Declared := { usual with maxAge := some (.int (10 ^ 9 * 86400)) }
    usual.InRange ∧ usual.Buildable ∧ long.InRange ∧ ¬ long.Buildable := by
  intro long
  obtain ⟨husual, _, hmake⟩ :=
    check_iff_then_make_iff (α := History.Store) usual (by simp [usual, Number.IsDouble])
  obtain ⟨hlong, _, hmakeLong⟩ :=
    check_iff_then_make_iff (α := History.Store) long (by simp [long, Number.IsDouble])
  have hcheck : usual.settings.check = .ok () := by decide +kernel
  have hcheckLong : long.settings.check = .ok () := by decide +kernel
  have hmade : (make (α := History.Store) "feed" usual.settings none none).map (fun _ => ()) =
      .ok () := by decide +kernel
  have hfailed : (make (α := History.Store) "feed" long.settings none none).map (fun _ => ()) =
      .error (.bounds (.span (.days 1000000000))) := by decide +kernel
  refine ⟨husual.mp hcheck, (hmake hcheck "feed" none none).mp ?_, hlong.mp hcheckLong,
    fun hbuildable => ?_⟩
  · cases h : make (α := History.Store) "feed" usual.settings none none with
    | error f => rw [h] at hmade; cases hmade
    | ok m => exact ⟨m, rfl⟩
  · obtain ⟨m, hm⟩ := (hmakeLong hcheckLong "feed" none none).mpr hbuildable
    rw [hm] at hfailed
    cases hfailed

/-- **The check may end with a fault that is no setting's, and accept settings that no monitor can be
made from**: the margin that is not a number has no order, and the age that is none is not less
than zero, but no length of time. -/
theorem noNumber_escapes_or_passes :
    let margin : Declared := { usual with margin := "nan" }
    let age : Declared := { usual with maxAge := some (.float .nan) }
    margin.settings.check = .error (.decimal .invalid) ∧
      age.settings.check = .ok () ∧
      (make (α := History.Store) "feed" age.settings none none).map (fun _ => ()) =
        .error (.bounds (.span .nan)) := by
  decide +kernel

end Monitor
end FeeWatch
