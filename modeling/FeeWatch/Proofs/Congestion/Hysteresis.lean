import FeeWatch.Proofs.Congestion.Levels
import Mathlib.Data.List.Induction

/-! What the detector's answer says of the samples that it has seen.

A detector keeps an answer and a number. Together they tell of all samples since the last
reset whether enough of them in a row were above the high level and none was below the low
one since (`Thresholds.Congests`). The number counts the samples above at the end, as long as
the market is normal (`Follows`): what ends congestion is below, so it is not above, and the
count begins anew with the samples after it. Each sample keeps this up (`Follows.evaluate`),
so that it holds after all calls, and where it flips the answer a line says so if it can be
written (`Detector.answer_iff_congests`). -/
namespace FeeWatch.Congestion

inductive Call where
  | evaluate (s : Sample)
  | reset

/-- The samples since the last reset, with one more call. -/
def heard (samples : List Sample) : Call → List Sample
  | .evaluate s => samples ++ [s]
  | .reset => []

/-- The samples since the last reset. -/
def since (calls : List Call) : List Sample := calls.foldl heard []

namespace Detector

def take (d : Detector) : Call → Detector
  | .evaluate s => (d.observe s.reading).2.1
  | .reset => d.reset

def after (d : Detector) (calls : List Call) : Detector := calls.foldl take d

theorem after_append (d : Detector) (calls : List Call) (c : Call) :
    d.after (calls ++ [c]) = (d.after calls).take c := by
  rw [after, List.foldl_append]
  rfl

end Detector

theorem since_append (calls : List Call) (c : Call) :
    since (calls ++ [c]) = heard (since calls) c := by
  rw [since, List.foldl_append]
  rfl

/-! ### Samples that make a market congested -/

namespace Thresholds

/-- The last samples, so many of them, are above the high level. -/
def EndsAbove (t : Thresholds) (k : Nat) (samples : List Sample) : Prop :=
  ∃ earlier streak, samples = earlier ++ streak ∧ streak.length = k ∧ ∀ s ∈ streak, t.Above s

/-- Some time `m` samples in a row were above the high level, and since then none was below the low
one. -/
def Congests (t : Thresholds) (m : Nat) (samples : List Sample) : Prop :=
  ∃ early later, samples = early ++ later ∧ t.EndsAbove m early ∧ ∀ s ∈ later, ¬ t.Below s

section
variable {t : Thresholds} {k m : Nat} {samples : List Sample} {s : Sample}

theorem endsAbove_zero : t.EndsAbove 0 samples := ⟨samples, [], by simp⟩

theorem endsAbove_nil : t.EndsAbove k [] ↔ k ≤ 0 := by
  constructor
  · rintro ⟨earlier, streak, h, rfl, _⟩
    rw [(List.append_eq_nil_iff.mp h.symm).2]
    exact le_rfl
  · intro h
    rw [Nat.le_zero.mp h]
    exact endsAbove_zero

theorem endsAbove_append :
    t.EndsAbove (k + 1) (samples ++ [s]) ↔ t.Above s ∧ t.EndsAbove k samples := by
  constructor
  · rintro ⟨earlier, streak, h, hlength, habove⟩
    obtain rfl | ⟨streak, last, rfl⟩ := List.eq_nil_or_concat' streak
    · cases hlength
    · rw [← List.append_assoc] at h
      obtain ⟨rfl, hlast⟩ := List.append_inj' h rfl
      cases hlast
      rw [List.forall_mem_append, List.forall_mem_singleton] at habove
      exact ⟨habove.2, earlier, streak, rfl, by simpa using hlength, habove.1⟩
  · rintro ⟨habove, earlier, streak, rfl, rfl, hstreak⟩
    refine ⟨earlier, streak ++ [s], by simp, by simp, ?_⟩
    rw [List.forall_mem_append, List.forall_mem_singleton]
    exact ⟨hstreak, habove⟩

/-- With no sample above at the end there is no streak there. -/
theorem endsAbove_of_not_above (h : ¬ t.Above s) : t.EndsAbove k (samples ++ [s]) ↔ k ≤ 0 := by
  cases k with
  | zero => exact iff_of_true endsAbove_zero le_rfl
  | succ k => exact iff_of_false (fun hends => h (endsAbove_append.mp hends).1) (by omega)

theorem endsAbove_of_above {n : Nat} (h : t.Above s) (hends : ∀ k, t.EndsAbove k samples ↔ k ≤ n) :
    t.EndsAbove k (samples ++ [s]) ↔ k ≤ n + 1 := by
  cases k with
  | zero => exact iff_of_true endsAbove_zero (Nat.zero_le _)
  | succ k => rw [endsAbove_append, hends k, Nat.add_le_add_iff_right, and_iff_right h]

theorem not_congests_nil (hm : 0 < m) : ¬ t.Congests m [] := by
  rintro ⟨early, later, h, hends, _⟩
  rw [(List.append_eq_nil_iff.mp h.symm).1] at hends
  exact absurd (endsAbove_nil.mp hends) (by omega)

/-- A sample completes a streak, or congestion lasts because the sample is not below. -/
theorem congests_append :
    t.Congests m (samples ++ [s]) ↔
      t.EndsAbove m (samples ++ [s]) ∨ t.Congests m samples ∧ ¬ t.Below s := by
  constructor
  · rintro ⟨early, later, h, hends, hbelow⟩
    obtain rfl | ⟨later, last, rfl⟩ := List.eq_nil_or_concat' later
    · rw [h, List.append_nil]
      exact .inl hends
    · rw [← List.append_assoc] at h
      obtain ⟨rfl, hlast⟩ := List.append_inj' h rfl
      cases hlast
      rw [List.forall_mem_append, List.forall_mem_singleton] at hbelow
      exact .inr ⟨⟨early, later, rfl, hends, hbelow.1⟩, hbelow.2⟩
  · rintro (hends | ⟨⟨early, later, rfl, hends, hlater⟩, hbelow⟩)
    · exact ⟨samples ++ [s], [], by simp, hends, by simp⟩
    · refine ⟨early, later ++ [s], by simp, hends, ?_⟩
      rw [List.forall_mem_append, List.forall_mem_singleton]
      exact ⟨hlater, hbelow⟩

theorem congests_of_not_above (hm : 0 < m) (h : ¬ t.Above s) :
    t.Congests m (samples ++ [s]) ↔ t.Congests m samples ∧ ¬ t.Below s := by
  rw [congests_append, endsAbove_of_not_above h]
  exact or_iff_right (by omega)

end

/-- What is used of accepted thresholds that ask for `m` samples in a row. -/
structure Sound (t : Thresholds) (m : Nat) : Prop where
  numeric : t.IsNumeric
  cycles : t.enterCycles.number? = some (.int m)
  pos : 0 < m
  disjoint : ∀ s, t.Above s → ¬ t.Below s

theorem sound_of_passed {t : Thresholds} {m : Nat} (ht : t.Passed) (hnumeric : t.IsNumeric)
    (hshort : t.IsShort) (hcycles : t.enterCycles.number? = some (.int m)) : t.Sound m where
  numeric := hnumeric
  cycles := hcycles
  pos := by
    obtain ⟨x, hx, hless⟩ := Datum.isLess_eq_ok ht.enterCycles
    cases hx.symm.trans hcycles
    rw [Number.lt_int, decide_eq_false_iff_not] at hless
    omega
  disjoint _ := not_below_of_above ht hnumeric hshort

end Thresholds

/-! ### Evaluations -/

namespace Detector

/-- What an evaluation has to say: a line where the answer flips, and nothing elsewhere. -/
structure Marks (d : Detector) (r : Reading) (was now : Prop) (log : Log) : Prop where
  entered : ¬ was → now → log = [d.detected r]
  left : was → ¬ now → log = [d.cleared r]
  same : (was ↔ now) → log = []

section
variable {d : Detector} {r : Reading} {was now : Prop}

theorem marks_same (h : was ↔ now) : d.Marks r was now [] where
  entered hwas hnow := absurd (h.mpr hnow) hwas
  left hwas hnow := absurd (h.mp hwas) hnow
  same _ := rfl

theorem marks_entered (hwas : ¬ was) (hnow : now) : d.Marks r was now [d.detected r] where
  entered _ _ := rfl
  left h := absurd h hwas
  same h := absurd (h.mpr hnow) hwas

theorem marks_left (hwas : was) (hnow : ¬ now) : d.Marks r was now [d.cleared r] where
  entered h := absurd hwas h
  left _ _ := rfl
  same h := absurd (h.mp hwas) hnow

end

/-- The line about a change to a state is logged. If it would say an aggregate that has too many
digits to be written, the call fails instead. -/
def Says (r : Reading) (state : Fee.Market) (line : Record) (result : Except Fault Unit) (log : Log) :
    Prop :=
  if (r.said state).any Datum.isOverlong then
    result = .error (.misfit (.number .unwritable)) ∧ log = []
  else result = .ok () ∧ log = [line]

/-- What a call does besides changing the detector: where the answer flips it says so, and elsewhere
it logs nothing. Only a call that was to log a line can fail. -/
structure Announces (d : Detector) (r : Reading) (was now : Prop) (result : Except Fault Unit)
    (log : Log) : Prop where
  entered : ¬ was → now → Says r .congested (d.detected r) result log
  left : was → ¬ now → Says r .normal (d.cleared r) result log
  same : (was ↔ now) → result = .ok () ∧ log = []

/-- The detector tells of the samples whether they congest, and how many at the end are above. -/
structure Follows (d : Detector) (t : Thresholds) (m : Nat) (samples : List Sample) : Prop where
  holds : d.Holds t
  congested : d.state = .congested ↔ t.Congests m samples
  streak : d.state = .normal → ∀ k, t.EndsAbove k samples ↔ k ≤ d.streak

section
variable {d : Detector} {t : Thresholds} {m : Nat} {samples : List Sample}

theorem Holds.withState (hd : d.Holds t) (state : Fee.Market) (streak : Nat) :
    { d with state, streak }.Holds t :=
  ⟨hd.thresholds, hd.high, hd.low, hd.maxFeeLow, hd.comparable.high, hd.comparable.low,
    hd.comparable.maxFeeLow, hd.comparable.maxFeeCeiling⟩

/-- A normal market with no samples. -/
theorem Holds.follows_nil (hd : d.Holds t) (hm : 0 < m) (hstate : d.state = .normal)
    (hstreak : d.streak = 0) : d.Follows t m [] where
  holds := hd
  congested := iff_of_false (by simp [hstate]) (Thresholds.not_congests_nil hm)
  streak _ k := hstreak ▸ Thresholds.endsAbove_nil

theorem Follows.evaluateNormal (h : d.Follows t m samples) (ht : t.Sound m)
    (hstate : d.state = .normal) (s : Sample) :
    ∃ d' log, d.evaluateNormal s.reading = .ok (d', log) ∧ d'.Follows t m (samples ++ [s]) ∧
      d.Marks s.reading (t.Congests m samples) (t.Congests m (samples ++ [s])) log := by
  have hwas : ¬ t.Congests m samples := h.congested.not.mp (by simp [hstate])
  obtain ⟨high, hhigh⟩ := h.holds.comparable.isHigh s.average s.min s.max
  have habove := h.holds.isHigh_iff ht.numeric hhigh
  replace hhigh : d.isHigh s.reading = .ok high := hhigh
  simp only [Detector.evaluateNormal, hhigh]
  cases high with
  | false =>
    have hnot : ¬ t.Above s := mt habove.mpr Bool.false_ne_true
    have hends (k : Nat) : t.EndsAbove k (samples ++ [s]) ↔ k ≤ 0 :=
      Thresholds.endsAbove_of_not_above hnot
    have hnow : ¬ t.Congests m (samples ++ [s]) := fun hcongests =>
      hwas ((Thresholds.congests_of_not_above ht.pos hnot).mp hcongests).1
    refine ⟨_, _, rfl, ⟨h.holds.withState _ 0, ?_, fun _ => hends⟩, ?_⟩
    · exact iff_of_false (by simp [hstate]) hnow
    · exact marks_same (iff_of_false hwas hnow)
  | true =>
    have hends (k : Nat) : t.EndsAbove k (samples ++ [s]) ↔ k ≤ d.streak + 1 :=
      Thresholds.endsAbove_of_above (habove.mp rfl) (h.streak hstate)
    have hnow : t.Congests m (samples ++ [s]) ↔ m ≤ d.streak + 1 := by
      rw [Thresholds.congests_append, hends m]
      exact or_iff_left fun hcongests => hwas hcongests.1
    have hle : Number.le d.thresholds.enterCycles.amount (.int (d.streak + 1 : Nat)) = true ↔
        m ≤ d.streak + 1 := by
      rw [h.holds.thresholds, Datum.amount, ht.cycles, Option.getD_some, Number.le_int,
        decide_eq_true_eq, Int.ofNat_le]
    by_cases henough : m ≤ d.streak + 1
    · refine ⟨_, _, if_pos (hle.mpr henough), ⟨h.holds.withState _ _, ?_, fun h => by cases h⟩, ?_⟩
      · exact iff_of_true rfl (hnow.mpr henough)
      · exact marks_entered hwas (hnow.mpr henough)
    · refine ⟨_, _, if_neg (mt hle.mp henough), ⟨h.holds.withState _ _, ?_, fun _ => hends⟩, ?_⟩
      · exact iff_of_false (by simp [hstate]) (mt hnow.mp henough)
      · exact marks_same (iff_of_false hwas (mt hnow.mp henough))

theorem Follows.evaluateCongested (h : d.Follows t m samples) (ht : t.Sound m)
    (hstate : d.state = .congested) (s : Sample) :
    ∃ d' log, d.evaluateCongested s.reading = .ok (d', log) ∧ d'.Follows t m (samples ++ [s]) ∧
      d.Marks s.reading (t.Congests m samples) (t.Congests m (samples ++ [s])) log := by
  have hwas := h.congested.mp hstate
  obtain ⟨low, hlow⟩ := h.holds.comparable.isLow s.average s.min s.max
  have hbelow := h.holds.isLow_iff hlow
  replace hlow : d.isLow s.reading = .ok low := hlow
  simp only [Detector.evaluateCongested, hlow]
  cases low with
  | false =>
    have hnow : t.Congests m (samples ++ [s]) :=
      Thresholds.congests_append.mpr (.inr ⟨hwas, mt hbelow.mpr Bool.false_ne_true⟩)
    refine ⟨d, _, rfl, ⟨h.holds, iff_of_true hstate hnow, by simp [hstate]⟩, ?_⟩
    exact marks_same (iff_of_true hwas hnow)
  | true =>
    -- What ends congestion is not above, so no streak goes on after it.
    have hnot : ¬ t.Above s := fun habove => ht.disjoint s habove (hbelow.mp rfl)
    have hends (k : Nat) : t.EndsAbove k (samples ++ [s]) ↔ k ≤ 0 :=
      Thresholds.endsAbove_of_not_above hnot
    have hnow : ¬ t.Congests m (samples ++ [s]) := fun hcongests =>
      ((Thresholds.congests_of_not_above ht.pos hnot).mp hcongests).2 (hbelow.mp rfl)
    refine ⟨_, _, rfl, ⟨h.holds.withState _ _, ?_, fun _ => hends⟩, ?_⟩
    · exact iff_of_false (fun h => by cases h) hnow
    · exact marks_left hwas hnow

/-- **Each evaluation keeps the answer up with the samples.** -/
theorem Follows.evaluate (h : d.Follows t m samples) (ht : t.Sound m) (s : Sample) :
    ∃ d' log, d.evaluate s.reading = .ok (d', log) ∧ d'.Follows t m (samples ++ [s]) ∧
      d.Marks s.reading (t.Congests m samples) (t.Congests m (samples ++ [s])) log := by
  rw [Detector.evaluate]
  cases hstate : d.state with
  | normal => exact h.evaluateNormal ht hstate s
  | congested => exact h.evaluateCongested ht hstate s

theorem Follows.reset (h : d.Follows t m samples) (hm : 0 < m) : d.reset.Follows t m [] :=
  (h.holds.withState _ _).follows_nil hm rfl rfl

end

theorem observe_line {d d' : Detector} {r : Reading} {line : Record}
    (h : d.evaluate r = .ok (d', [line])) :
    ∃ result log, d.observe r = (result, d', log) ∧ Says r d'.state line result log := by
  simp only [observe, h, Says, isUnwritable]
  by_cases hlong : (r.said d'.state).any Datum.isOverlong = true
  · exact ⟨.error (.misfit (.number .unwritable)), [], by simp [hlong]⟩
  · exact ⟨.ok (), [line], by simp [hlong]⟩

/-- What there is to say of an evaluation is logged if it can be written. -/
theorem observe_of_evaluate {d d' : Detector} {r : Reading} {was now : Prop} {log : Log}
    (h : d.evaluate r = .ok (d', log)) (hstate : d'.state = .congested ↔ now)
    (hlog : d.Marks r was now log) :
    ∃ result log', d.observe r = (result, d', log') ∧ d.Announces r was now result log' := by
  by_cases hwas : was <;> by_cases hnow : now
  · rw [hlog.same (iff_of_true hwas hnow)] at h
    refine ⟨.ok (), [], by simp [observe, h], absurd hwas, fun _ => absurd hnow, fun _ => ⟨rfl, rfl⟩⟩
  · have hnormal : d'.state = .normal := by
      cases hd : d'.state with
      | normal => rfl
      | congested => exact absurd (hstate.mp hd) hnow
    rw [hlog.left hwas hnow] at h
    obtain ⟨result, log', hobserve, hsaid⟩ := observe_line h
    rw [hnormal] at hsaid
    exact ⟨result, log', hobserve, absurd hwas, fun _ _ => hsaid, fun h => absurd (h.mp hwas) hnow⟩
  · rw [hlog.entered hwas hnow] at h
    obtain ⟨result, log', hobserve, hsaid⟩ := observe_line h
    rw [hstate.mpr hnow] at hsaid
    exact ⟨result, log', hobserve, fun _ _ => hsaid, fun h => absurd h hwas,
      fun h => absurd (h.mpr hnow) hwas⟩
  · rw [hlog.same (iff_of_false hwas hnow)] at h
    refine ⟨.ok (), [], by simp [observe, h], fun _ h => absurd h hnow, fun h => absurd h hwas,
      fun _ => ⟨rfl, rfl⟩⟩

/-! ### Any number of calls -/

section Calls
variable {t : Thresholds} {d : Detector} {m : Nat}

/-- A detector begins with a normal market. -/
theorem make_follows_nil (h : make t = .ok d) (ht : t.Sound m) : d.Follows t m [] := by
  have hholds := make_holds h ht.numeric
  obtain ⟨_, _, _, _, _, _, _, rfl⟩ := make_eq_ok h
  exact hholds.follows_nil ht.pos rfl rfl

theorem Follows.after (h : d.Follows t m []) (ht : t.Sound m) (calls : List Call) :
    (d.after calls).Follows t m (since calls) := by
  induction calls using List.reverseRecOn with
  | nil => exact h
  | append_singleton calls c ih =>
    rw [after_append, since_append]
    cases c with
    | reset => exact ih.reset ht.pos
    | evaluate s =>
      obtain ⟨d', log, hevaluate, hfollows, hlog⟩ := ih.evaluate ht s
      obtain ⟨result, log', hobserve, _⟩ := observe_of_evaluate hevaluate hfollows.congested hlog
      rw [take, hobserve]
      exact hfollows

/-- **The detector says that the market is congested exactly if the samples since the last reset
congest**: some time so many in a row were above the high level, and none was below the low one
since. Where a sample changes this a line says so, unless an aggregate that it would say has too many
digits to be written: then the call fails once the answer has changed. No other call logs a line, and
none fails. -/
theorem answer_iff_congests (hmake : make t = .ok d) (hnumeric : t.IsNumeric) (hshort : t.IsShort)
    (hcycles : t.enterCycles.number? = some (.int m)) (calls : List Call) :
    ((d.after calls).state = .congested ↔ t.Congests m (since calls)) ∧
      ∀ s : Sample, ∃ result log,
        (d.after calls).observe s.reading = (result, d.after (calls ++ [.evaluate s]), log) ∧
          (d.after calls).Announces s.reading (t.Congests m (since calls))
            (t.Congests m (since calls ++ [s])) result log := by
  have ht := Thresholds.sound_of_passed (Thresholds.passed_of_check (make_eq_ok hmake).1) hnumeric
    hshort hcycles
  have hfollows := (make_follows_nil hmake ht).after ht calls
  refine ⟨hfollows.congested, fun s => ?_⟩
  obtain ⟨d', log, hevaluate, hnow, hlog⟩ := hfollows.evaluate ht s
  obtain ⟨result, log', hobserve, hannounces⟩ := observe_of_evaluate hevaluate hnow.congested hlog
  refine ⟨result, log', ?_, hannounces⟩
  rw [after_append, take, hobserve]

end Calls

/-! ### A surge -/

/-- Thresholds of 200 and 160 for the average, of 1000 and 800 for the greatest fee. -/
def surgeThresholds (m : Nat) : Thresholds :=
  { baseFee := .int 100, multiplier := .text "2.0", margin := .text "0.2", ceiling := .null,
    maxFeeCeiling := .int 1000, enterCycles := .int m }

theorem surge_isNumeric (m : Nat) : (surgeThresholds m).IsNumeric := by
  intro d hd
  obtain rfl | rfl | rfl : d = .int 100 ∨ d = .null ∨ d = .int 1000 := by
    simpa [surgeThresholds] using hd
  all_goals decide

theorem surge_isShort (m : Nat) : (surgeThresholds m).IsShort := by
  intro d hd x hx
  obtain rfl | rfl : d = .null ∨ d = .int 1000 := by simpa [surgeThresholds] using hd
  · cases hx
  · cases hx
    exact Number.Decimal.ofInt_isShort (c := 1) (k := 3) rfl (by decide)

/-- After a reset two samples above, the second for its greatest fee, and one that is below but for
its greatest fee. -/
def surgeCalls : List Call :=
  [.evaluate ⟨150, 100, 200⟩, .reset, .evaluate ⟨300, 100, 900⟩, .evaluate ⟨150, 100, 1500⟩,
    .evaluate ⟨150, 100, 900⟩]

/-- The surge congests the market until a sample is below. -/
theorem answer_iff_congests_surge :
    ∃ d, make (surgeThresholds 2) = .ok d ∧ (surgeThresholds 2).Congests 2 (since surgeCalls) ∧
      ¬ (surgeThresholds 2).Congests 2 (since surgeCalls ++ [⟨150, 100, 800⟩]) ∧
      (d.after surgeCalls).observe (.ofInts 150 100 800) =
        (.ok (), d.after (surgeCalls ++ [.evaluate ⟨150, 100, 800⟩]),
          [(d.after surgeCalls).cleared (.ofInts 150 100 800)]) := by
  let calm : Sample := ⟨150, 100, 800⟩
  have hrun : (make (surgeThresholds 2)).toOption.any (fun d => decide
      ((d.after surgeCalls).state = .congested ∧
        (d.after (surgeCalls ++ [.evaluate calm])).state = .normal)) = true := by
    decide +kernel
  obtain ⟨d, hmake, hrun⟩ := exists_ok_of_any hrun
  obtain ⟨hcongested, hnormal⟩ := of_decide_eq_true hrun
  obtain ⟨hbefore, hobserve⟩ :=
    answer_iff_congests hmake (surge_isNumeric 2) (surge_isShort 2) rfl surgeCalls
  obtain ⟨hafter, _⟩ := answer_iff_congests hmake (surge_isNumeric 2) (surge_isShort 2) rfl
    (surgeCalls ++ [.evaluate calm])
  rw [since_append] at hafter
  have hwas := hbefore.mp hcongested
  have hnow := hafter.not.mp (by simp [hnormal])
  obtain ⟨result, log, hobserve, hannounces⟩ := hobserve calm
  have hsaid := hannounces.left hwas hnow
  rw [Says, if_neg (by decide +kernel)] at hsaid
  rw [hsaid.1, hsaid.2] at hobserve
  exact ⟨d, hmake, hwas, hnow, hobserve⟩

/-- **Lines and changes of the answer may part.** Of a sample that congests the market, but for whose
greatest fee of 4301 digits, no line is written. And with an average that is no number, which is not
high, a call fails without ending the streak: so the market is announced to be congested though no
two readings in a row were high. -/
theorem lines_miss_changes :
    let vast : Sample := ⟨300, 100, Number.tenTo Number.digitLimit⟩
    let high : Reading := .ofInts 300 100 300
    let odd : Reading := ⟨.float .nan, .int 100, .int 300⟩
    (∃ d, make (surgeThresholds 1) = .ok d ∧ ¬ (surgeThresholds 1).Congests 1 [] ∧
        (surgeThresholds 1).Congests 1 [vast] ∧ (d.observe vast.reading).1.toOption = none ∧
        (d.observe vast.reading).2.2 = []) ∧
      ∃ d, make (surgeThresholds 2) = .ok d ∧
        let first := d.observe high
        let second := first.2.1.observe odd
        let third := second.2.1.observe high
        first.2.2 = [] ∧ second.1.toOption = none ∧
          (first.2.1.isHigh odd).toOption = none ∧ third.2.1.state = .congested ∧
          third.2.2 = [second.2.1.detected high] := by
  intro vast high odd
  have hvast : (make (surgeThresholds 1)).toOption.any (fun d => decide
      ((d.after [.evaluate vast]).state = .congested ∧
        (d.observe vast.reading).1.toOption = none ∧ (d.observe vast.reading).2.2 = [])) = true := by
    decide +kernel
  have hodd : (make (surgeThresholds 2)).toOption.any (fun d =>
      let first := d.observe high
      let second := first.2.1.observe odd
      let third := second.2.1.observe high
      decide (first.2.2 = [] ∧ second.1.toOption = none ∧
        (first.2.1.isHigh odd).toOption = none ∧ third.2.1.state = .congested ∧
        third.2.2 = [second.2.1.detected high])) = true := by
    decide +kernel
  constructor
  · obtain ⟨d, hmake, hrun⟩ := exists_ok_of_any hvast
    obtain ⟨hcongested, hresult, hlog⟩ := of_decide_eq_true hrun
    have ht := Thresholds.sound_of_passed (Thresholds.passed_of_check (make_eq_ok hmake).1)
      (surge_isNumeric 1) (surge_isShort 1) rfl
    have hfollows := (make_follows_nil hmake ht).after ht [.evaluate vast]
    exact ⟨d, hmake, Thresholds.not_congests_nil ht.pos, hfollows.congested.mp hcongested, hresult,
      hlog⟩
  · obtain ⟨d, hmake, hrun⟩ := exists_ok_of_any hodd
    exact ⟨d, hmake, of_decide_eq_true hrun⟩

end Detector
end FeeWatch.Congestion
