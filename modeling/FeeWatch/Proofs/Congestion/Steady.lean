import FeeWatch.Proofs.Congestion.Hysteresis
import Mathlib.Data.Set.Subsingleton

/-! A market that stands still.

A detector that is given the same sample again and again changes its answer at most once
(`steady_changes_once`). A change of the answer takes a sample that is above the high level, or
one that is below the low level (`Holds.take_cases`); no sample is both, so the sample that has
changed the answer cannot change it back (`atRest_of_changed`), and an answer that a sample does
not change at first it does not change later either (`Holds.same_of_atRest`). -/
namespace FeeWatch.Congestion

open FeeWatch.Number (Decimal)

namespace Detector

/-- Whether a sample says nothing against the answer of a detector. -/
def AtRest (d : Detector) (t : Thresholds) (s : Sample) : Prop :=
  match d.state with
  | .normal => ¬ t.Above s
  | .congested => ¬ t.Below s

/-- The detector after the same sample, a number of times. -/
def steadily (d : Detector) (s : Sample) (n : Nat) : Detector :=
  d.after (List.replicate n (.evaluate s))

/-- A ceiling of a detector is a number. -/
theorem Holds.ceiling_isNumber {d : Detector} {t : Thresholds} (hd : d.Holds t)
    (hnumeric : t.IsNumeric) {ceiling : Number} (h : t.maxFeeCeiling.limit? = some ceiling) :
    ceiling ≠ .float .nan := by
  have hnull : t.maxFeeCeiling.isNull = false := by
    by_contra hnull
    simp [Datum.limit?, hnull] at h
  obtain ⟨x, hx⟩ := hd.comparable.maxFeeCeiling (hd.thresholds ▸ hnull)
  rw [hd.thresholds] at hx
  cases (Datum.limit?_of_number hnull hx).symm.trans h
  exact fun hnan => hnumeric t.maxFeeCeiling (by simp) (hnan ▸ hx)

/-! ### One sample -/

section Sample
variable {d d' : Detector} {t : Thresholds} {s : Sample}

theorem take_evaluate {log : Log} (h : d.evaluate s.reading = .ok (d', log)) :
    d.take (.evaluate s) = d' := by
  rw [take, observe, h]
  dsimp only
  split <;> rfl

/-- What a sample can do to the answer: nothing, or it ends a normal market from above the high
level, or congestion from below the low one. -/
theorem Holds.take_cases (hd : d.Holds t) (hnumeric : t.IsNumeric) (s : Sample) :
    (d.take (.evaluate s)).Holds t ∧
      ((d.take (.evaluate s)).state = d.state ∨
        (t.Above s ∧ (d.take (.evaluate s)).state = .congested) ∨
        (t.Below s ∧ (d.take (.evaluate s)).state = .normal)) := by
  cases hstate : d.state with
  | normal =>
    obtain ⟨high, hhigh⟩ := hd.comparable.isHigh s.average s.min s.max
    replace hhigh : d.isHigh s.reading = .ok high := hhigh
    have habove := hd.isHigh_iff hnumeric hhigh
    have heval : d.evaluate s.reading = d.evaluateNormal s.reading := by rw [evaluate, hstate]
    simp only [evaluateNormal, hhigh] at heval
    cases high with
    | false =>
      rw [take_evaluate heval]
      exact ⟨hd.withState _ _, .inl hstate⟩
    | true =>
      by_cases henough :
          Number.le d.thresholds.enterCycles.amount (.int (d.streak + 1 : Nat)) = true
      · rw [take_evaluate (heval.trans (if_pos henough))]
        exact ⟨hd.withState _ _, .inr (.inl ⟨habove.mp rfl, rfl⟩)⟩
      · rw [take_evaluate (heval.trans (if_neg henough))]
        exact ⟨hd.withState _ _, .inl hstate⟩
  | congested =>
    obtain ⟨low, hlow⟩ := hd.comparable.isLow s.average s.min s.max
    replace hlow : d.isLow s.reading = .ok low := hlow
    have hbelow := hd.isLow_iff hlow
    have heval : d.evaluate s.reading = d.evaluateCongested s.reading := by rw [evaluate, hstate]
    simp only [evaluateCongested, hlow] at heval
    cases low with
    | false =>
      rw [take_evaluate heval]
      exact ⟨hd, .inl hstate⟩
    | true =>
      rw [take_evaluate heval]
      exact ⟨hd.withState _ _, .inr (.inr ⟨hbelow.mp rfl, rfl⟩)⟩

/-- A sample that says nothing against the answer does not change it. -/
theorem Holds.same_of_atRest (hd : d.Holds t) (hnumeric : t.IsNumeric) (h : d.AtRest t s) :
    (d.take (.evaluate s)).state = d.state := by
  unfold AtRest at h
  obtain ⟨_, hsame | ⟨habove, hnow⟩ | ⟨hbelow, hnow⟩⟩ := hd.take_cases hnumeric s
  · exact hsame
  · cases hstate : d.state with
    | congested => exact hnow
    | normal =>
      rw [hstate] at h
      exact absurd habove h
  · cases hstate : d.state with
    | normal => exact hnow
    | congested =>
      rw [hstate] at h
      exact absurd hbelow h

/-- A sample that has changed the answer says nothing against the new one. -/
theorem Holds.atRest_of_changed (hd : d.Holds t) (hnumeric : t.IsNumeric)
    (hdisjoint : ∀ s, t.Above s → ¬ t.Below s)
    (h : (d.take (.evaluate s)).state ≠ d.state) : (d.take (.evaluate s)).AtRest t s := by
  unfold AtRest
  obtain ⟨_, hsame | ⟨habove, hnow⟩ | ⟨hbelow, hnow⟩⟩ := hd.take_cases hnumeric s
  · exact absurd hsame h
  · rw [hnow]
    exact hdisjoint s habove
  · rw [hnow]
    exact fun habove => hdisjoint s habove hbelow

end Sample

/-! ### Any number of samples -/

section Runs
variable {d : Detector} {t : Thresholds} {s : Sample}

theorem Holds.after (hd : d.Holds t) (hnumeric : t.IsNumeric) (calls : List Call) :
    (d.after calls).Holds t := by
  induction calls using List.reverseRecOn with
  | nil => exact hd
  | append_singleton calls c ih =>
    rw [after_append]
    cases c with
    | reset => exact ih.withState _ _
    | evaluate s => exact (ih.take_cases hnumeric s).1

theorem steadily_succ (d : Detector) (s : Sample) (n : Nat) :
    d.steadily s (n + 1) = (d.steadily s n).take (.evaluate s) := by
  rw [steadily, List.replicate_succ', after_append]
  rfl

/-- At rest a detector stays, with its answer. -/
theorem Holds.rests (hd : d.Holds t) (hnumeric : t.IsNumeric) {m : Nat}
    (h : (d.steadily s m).AtRest t s) {n : Nat} (hmn : m ≤ n) :
    (d.steadily s (n + 1)).state = (d.steadily s n).state ∧ (d.steadily s n).AtRest t s := by
  induction n, hmn using Nat.le_induction with
  | base =>
    rw [steadily_succ]
    exact ⟨(hd.after hnumeric _).same_of_atRest hnumeric h, h⟩
  | succ n _ ih =>
    obtain ⟨hsame, hrest⟩ := ih
    have hnext : (d.steadily s (n + 1)).AtRest t s := by
      unfold AtRest at hrest ⊢
      rwa [hsame]
    rw [steadily_succ d s (n + 1)]
    exact ⟨(hd.after hnumeric _).same_of_atRest hnumeric hnext, hnext⟩

/-- The same sample changes the answer of a detector at most once. -/
theorem Holds.changes_subsingleton (hd : d.Holds t) (hnumeric : t.IsNumeric)
    (hdisjoint : ∀ s, t.Above s → ¬ t.Below s) (s : Sample) :
    {n | (d.steadily s (n + 1)).state ≠ (d.steadily s n).state}.Subsingleton := by
  -- After a change at `m` there is none at any later `n`.
  have hlast (m n : Nat) (hm : (d.steadily s (m + 1)).state ≠ (d.steadily s m).state)
      (hn : (d.steadily s (n + 1)).state ≠ (d.steadily s n).state) : n ≤ m := by
    by_contra hlt
    rw [steadily_succ] at hm
    have hrest := (hd.after hnumeric _).atRest_of_changed hnumeric hdisjoint hm
    rw [← steadily, ← steadily_succ] at hrest
    exact hn (hd.rests hnumeric hrest (by omega)).1
  exact fun m hm n hn => Nat.le_antisymm (hlast n m hn hm) (hlast m n hm hn)

end Runs

/-- **A steady reading does not make the detector flap.** In spite of all rounding the low level
does not exceed the high one, nor the exit bound of the greatest fee its ceiling. So no reading is
both high and low, and whatever a detector has read, the same reading over and over changes its
answer at most once. The ceilings have at most 28 digits; no fee among the settings is the double
that is not a number. -/
theorem steady_changes_once {t : Thresholds} {d : Detector} (hmake : make t = .ok d)
    (hnumeric : t.IsNumeric) (hshort : t.IsShort) :
    Decimal.le d.low d.high = .ok true ∧
      (∀ ceiling, t.maxFeeCeiling.limit? = some ceiling →
        ∃ bound ∈ d.maxFeeLow, Decimal.le bound (.ofNumber ceiling) = .ok true) ∧
      (∀ average min max, ¬ (d.isHigh (.ofInts average min max) = .ok true ∧
        d.isLow (.ofInts average min max) = .ok true)) ∧
      ∀ calls s,
        {n | ((d.after calls).steadily s (n + 1)).state ≠
          ((d.after calls).steadily s n).state}.Subsingleton := by
  have hd := make_holds hmake hnumeric
  have ht := Thresholds.passed_of_check (make_eq_ok hmake).1
  have hdisjoint (s : Sample) : t.Above s → ¬ t.Below s :=
    Thresholds.not_below_of_above ht hnumeric hshort
  have hle {x y : Decimal} (hx : x.IsNumber) (hy : y.IsNumber) (h : x.value ≤ y.value) :
      Decimal.le x y = .ok true := by
    obtain ⟨b, hb⟩ := hx.le hy
    rw [hb, (Decimal.le_iff_value hb).mpr h]
  refine ⟨?_, fun ceiling hceiling => ?_, fun average min max => ?_, fun calls s => ?_⟩
  · exact hle hd.comparable.low hd.comparable.high
      (Thresholds.low_le_high ht hnumeric hshort hd.high hd.low)
  · obtain ⟨bound, hmem, hbound⟩ :=
      Thresholds.maxFeeLow_le ht hnumeric hshort hceiling hd.maxFeeLow
    exact ⟨bound, hmem, hle (hd.comparable.maxFeeLow bound hmem)
      (Decimal.ofNumber_isNumber (hd.ceiling_isNumber hnumeric hceiling)) hbound⟩
  · rintro ⟨hhigh, hlow⟩
    let s : Sample := ⟨average, min, max⟩
    exact hdisjoint s ((hd.isHigh_iff (s := s) hnumeric hhigh).mp rfl)
      ((hd.isLow_iff (s := s) hlow).mp rfl)
  · exact (hd.after hnumeric calls).changes_subsingleton hnumeric hdisjoint s

/-! ### Levels that meet -/

/-- A multiplier of more digits than a level keeps, and a margin that is lost in rounding: both
levels are one. -/
def meetingThresholds : Thresholds :=
  { baseFee := .int 3, multiplier := .text "0.33333333333333333333333333333333333",
    margin := .text "0.00000000000000000000000000000000001", ceiling := .null,
    maxFeeCeiling := .int (12 * 10 ^ 30), enterCycles := .int 3 }

/-- Above both levels the answer changes with the third reading, and with no other. -/
theorem steady_changes_once_meeting :
    ∃ d, make meetingThresholds = .ok d ∧ Decimal.le d.high d.low = .ok true ∧
      (∃ bound ∈ d.maxFeeLow, Decimal.le bound (.ofInt (12 * 10 ^ 30)) = .ok true) ∧
      ∀ n, (d.steadily ⟨2, 1, 900⟩ (n + 1)).state ≠ (d.steadily ⟨2, 1, 900⟩ n).state ↔ n = 2 := by
  let s : Sample := ⟨2, 1, 900⟩
  have hrun : (make meetingThresholds).toOption.any (fun d => decide
      (Decimal.le d.high d.low = .ok true ∧
        (d.steadily s 3).state ≠ (d.steadily s 2).state)) = true := by
    decide +kernel
  have hnumeric : meetingThresholds.IsNumeric := by
    unfold Thresholds.IsNumeric
    decide
  have hshort : meetingThresholds.IsShort := by
    intro d hd x hx
    obtain rfl | rfl : d = .null ∨ d = .int (12 * 10 ^ 30) := by
      simpa [meetingThresholds] using hd
    · cases hx
    · cases hx
      exact Number.Decimal.ofInt_isShort (c := 12) (k := 30) rfl (by decide)
  obtain ⟨d, hmake, hrun⟩ := exists_ok_of_any hrun
  obtain ⟨hle, hchange⟩ := of_decide_eq_true hrun
  obtain ⟨_, hbound, _, honce⟩ := steady_changes_once hmake hnumeric hshort
  refine ⟨d, hmake, hle, hbound _ rfl, fun n => ⟨fun hn => honce [] s hn hchange, ?_⟩⟩
  rintro rfl
  exact hchange

end Detector
end FeeWatch.Congestion
