import FeeWatch.Monitor.Loop
import Mathlib.Data.List.Count

/-! What becomes of requests.

A request that falls between two steps of the loop must not be lost, wherever it falls. It
is pending while `wake` is up, and then until the cycle starts that answers it
(`IsPending`): nothing but that start ends this. How many cycles may start is bounded by
what the loop has before it (`ahead`): a start uses it up, and only a request or the end of
an interval adds to it. How soon one starts is bounded by the way to it (`way`), which
every step of the loop shortens. Once `stop` is up at most the cycle that is about to start
is left (`last`), and every step shortens the way to the end (`wayOut`).
`loop_loses_no_request` says what follows for any acts in any order. -/
namespace FeeWatch.Monitor

/-- Whether an act asks for a cycle. -/
def Act.isRequest : Act → Bool
  | .trigger => true
  | .raiseWake => true
  | _ => false

namespace Loop

/-! ### Counting -/

/-- How often something happens while acts are done one after another. -/
def times (happens : Loop → Act → Bool) (l : Loop) : List Act → Nat
  | [] => 0
  | a :: rest => (happens l a).toNat + times happens (l.act a) rest

def isStart (l : Loop) (a : Act) : Bool := a == .advance && l.stage == .starting

/-- Whether an act is the end of a cycle. -/
def isFinish (l : Loop) (a : Act) : Bool := a == .advance && l.stage == .cycling

/-- Whether an act starts the loop anew. -/
def isRestart (l : Loop) (a : Act) : Bool := a == .start && l.stage == .ended

/-- How many cycles start. -/
def starts (l : Loop) (acts : List Act) : Nat := times isStart l acts

variable {l : Loop} {a : Act} {acts : List Act}

theorem times_eq_zero_cons {happens : Loop → Act → Bool}
    (h : times happens l (a :: acts) = 0) :
    happens l a = false ∧ times happens (l.act a) acts = 0 := by
  obtain ⟨hfirst, hrest⟩ := Nat.add_eq_zero_iff.mp h
  exact ⟨by simpa using hfirst, hrest⟩

theorem times_append (happens : Loop → Act → Bool) (l : Loop) (a b : List Act) :
    times happens l (a ++ b) = times happens l a + times happens (l.run a) b := by
  induction a generalizing l with
  | nil => exact (Nat.zero_add _).symm
  | cons c rest ih => rw [List.cons_append, times, times, ih, run_cons, Nat.add_assoc]

theorem countP_cons_toNat (p : Act → Bool) (a : Act) (acts : List Act) :
    (a :: acts).countP p = acts.countP p + (p a).toNat := by
  rw [List.countP_cons]
  cases p a <;> rfl

theorem count_cons_toNat (b a : Act) (acts : List Act) :
    (a :: acts).count b = acts.count b + (a == b).toNat :=
  countP_cons_toNat (· == b) a acts

/-! ### Cycles do not overlap -/

/-- How many cycles the loop is in. -/
def inCycle (l : Loop) : Nat := (l.stage == .cycling).toNat

theorem inCycle_act (l : Loop) (a : Act) :
    (isStart l a).toNat + l.inCycle = (isFinish l a).toNat + (l.act a).inCycle := by
  obtain ⟨stage, wake, stop⟩ := l
  cases a with
  | advance => cases stage <;> cases wake <;> cases stop <;> rfl
  | timeout => cases stage <;> rfl
  | start => cases stage <;> rfl
  | trigger | raiseStop | raiseWake => rfl

/-- Of the cycles that have started all are over but the one that the loop is in. -/
theorem inCycle_run (l : Loop) (acts : List Act) :
    starts l acts + l.inCycle = times isFinish l acts + (l.run acts).inCycle := by
  induction acts generalizing l with
  | nil => rfl
  | cons a rest ih =>
    have hfirst := inCycle_act l a
    have hrest := ih (l.act a)
    rw [starts, times, times, run_cons]
    rw [starts] at hrest
    omega

/-! ### Pending requests -/

/-- Whether a cycle is going to start without the interval's end. -/
def IsPending (l : Loop) : Prop := l.wake = true ∨ l.stage = .starting

/-- Only the start of a cycle answers a request. -/
theorem IsPending.act (h : l.IsPending) (a : Act) (hstart : isStart l a = false) :
    (l.act a).IsPending := by
  obtain ⟨stage, wake, stop⟩ := l
  cases a with
  | trigger | raiseWake => exact .inl rfl
  | raiseStop => exact h
  | timeout =>
    cases stage with
    | waiting => exact .inl (h.resolve_right nofun)
    | _ => exact h
  | start =>
    cases stage with
    | ended => exact .inl (h.resolve_right nofun)
    | _ => exact h
  | advance =>
    cases stage with
    | starting => cases hstart
    | clearing => exact .inr rfl
    | waiting =>
      obtain rfl : wake = true := h.resolve_right nofun
      exact .inl rfl
    | top | cycling | checking | ended => exact .inl (h.resolve_right nofun)

theorem IsPending.run (h : l.IsPending) (hstarts : starts l acts = 0) :
    (l.run acts).IsPending := by
  induction acts generalizing l with
  | nil => exact h
  | cons a rest ih =>
    obtain ⟨hfirst, hrest⟩ := times_eq_zero_cons hstarts
    exact ih (h.act a hfirst) hrest

/-- **When the loop waits with `wake` down, every request has been followed by a start.** -/
theorem starts_of_waiting (l : Loop) (before after : List Act)
    (hstage : (l.run (before ++ .trigger :: after)).stage = .waiting)
    (hwake : (l.run (before ++ .trigger :: after)).wake = false) :
    0 < starts (l.run (before ++ [.trigger])) after := by
  refine Nat.pos_of_ne_zero fun hnone => ?_
  have hrequested : (l.run (before ++ [.trigger])).IsPending := by
    rw [run_append]
    exact .inl rfl
  have hpending := hrequested.run hnone
  rw [← run_append, List.append_assoc] at hpending
  rcases hpending with h | h
  · exact absurd (h.symm.trans hwake) (by decide)
  · exact absurd (h.symm.trans hstage) (by decide)

/-! ### How many cycles start -/

/-- How many cycles the loop can start without another request and the end of an interval. -/
def ahead (l : Loop) : Nat :=
  match l.stage with
  | .top | .clearing => 1
  | .starting => 1 + l.wake.toNat
  | .cycling | .checking | .waiting => l.wake.toNat
  | .ended => 0

theorem ahead_act (l : Loop) (a : Act) : (isStart l a).toNat + (l.act a).ahead ≤
    l.ahead + (a == .timeout).toNat + a.isRequest.toNat + (isRestart l a).toNat := by
  obtain ⟨stage, wake, stop⟩ := l
  cases a with
  | advance => cases stage <;> cases wake <;> cases stop <;> decide
  | timeout => cases stage <;> cases wake <;> cases stop <;> decide
  | trigger => cases stage <;> cases wake <;> cases stop <;> decide
  | raiseStop => cases stage <;> cases wake <;> cases stop <;> decide
  | raiseWake => cases stage <;> cases wake <;> cases stop <;> decide
  | start => cases stage <;> cases wake <;> cases stop <;> decide

/-- A cycle that starts was ahead, or requested, or is due to an interval's end or a restart. -/
theorem ahead_run (l : Loop) (acts : List Act) : starts l acts + (l.run acts).ahead ≤
    l.ahead + acts.count .timeout + acts.countP Act.isRequest + times isRestart l acts := by
  induction acts generalizing l with
  | nil => exact Nat.le_of_eq (Nat.zero_add _)
  | cons a rest ih =>
    have hfirst := ahead_act l a
    have hrest := ih (l.act a)
    rw [count_cons_toNat, countP_cons_toNat, starts, times, times, run_cons]
    rw [starts] at hrest
    omega

/-! ### How soon a cycle starts -/

/-- A loop that nobody has stopped. -/
structure IsGoing (l : Loop) : Prop where
  stop : l.stop = false
  stage : l.stage ≠ .ended

theorem IsGoing.act (h : l.IsGoing) (ha : a ≠ .raiseStop) :
    (l.act a).IsGoing ∧ isRestart l a = false := by
  obtain ⟨stage, wake, stop⟩ := l
  obtain ⟨rfl, hstage⟩ := h
  cases a with
  | raiseStop => exact absurd rfl ha
  | trigger | raiseWake => exact ⟨⟨rfl, hstage⟩, rfl⟩
  | timeout | start =>
    cases stage with
    | ended => exact absurd rfl hstage
    | _ => exact ⟨⟨rfl, nofun⟩, rfl⟩
  | advance =>
    cases stage with
    | ended => exact absurd rfl hstage
    | waiting => cases wake <;> exact ⟨⟨rfl, nofun⟩, rfl⟩
    | _ => exact ⟨⟨rfl, nofun⟩, rfl⟩

theorem IsGoing.run (h : l.IsGoing) (hacts : .raiseStop ∉ acts) :
    (l.run acts).IsGoing ∧ times isRestart l acts = 0 := by
  induction acts generalizing l with
  | nil => exact ⟨h, rfl⟩
  | cons a rest ih =>
    obtain ⟨ha, hrest⟩ := not_or.mp (List.mem_cons.not.mp hacts)
    obtain ⟨hgoing, hrestart⟩ := h.act (Ne.symm ha)
    obtain ⟨hrun, hnone⟩ := ih hgoing hrest
    exact ⟨hrun, by rw [times, hrestart, hnone]; rfl⟩

/-- How many steps of the loop it takes at most until the next cycle starts, if one is requested. -/
def way (l : Loop) : Nat :=
  match l.stage with
  | .ended => 0
  | .starting => 1
  | .clearing => 2
  | .top => 3
  | .waiting => 4
  | .checking => 5
  | .cycling => 6

theorem way_act (h : l.IsGoing) (hpending : l.IsPending) (a : Act)
    (hstart : isStart l a = false) : (l.act a).way + (a == .advance).toNat ≤ l.way := by
  obtain ⟨stage, wake, stop⟩ := l
  obtain ⟨rfl, hstage⟩ := h
  cases a with
  | trigger | raiseStop | raiseWake => exact Nat.le_refl _
  | timeout =>
    cases stage with
    | waiting => exact Nat.le_succ 3
    | _ => exact Nat.le_refl _
  | start =>
    cases stage with
    | ended => exact absurd rfl hstage
    | _ => exact Nat.le_refl _
  | advance =>
    cases stage with
    | starting => cases hstart
    | ended => exact absurd rfl hstage
    | waiting =>
      obtain rfl : wake = true := hpending.resolve_right nofun
      exact Nat.le_refl _
    | top | clearing | cycling | checking => exact Nat.le_refl _

theorem way_pos (h : l.stage ≠ .ended) : 0 < l.way := by
  obtain ⟨stage, wake, stop⟩ := l
  cases stage with
  | ended => exact absurd rfl h
  | _ => exact Nat.succ_pos _

/-- **A request is answered after a few steps of the loop**, whatever else happens. -/
theorem starts_of_pending (h : l.IsGoing) (hpending : l.IsPending) (hacts : .raiseStop ∉ acts)
    (hsteps : l.way ≤ acts.count .advance) : 0 < starts l acts := by
  induction acts generalizing l with
  | nil => exact absurd hsteps (Nat.not_le.mpr (way_pos h.stage))
  | cons a rest ih =>
    obtain ⟨ha, hrest⟩ := not_or.mp (List.mem_cons.not.mp hacts)
    rw [starts, times]
    cases hstart : isStart l a with
    | true => exact Nat.lt_of_lt_of_le Nat.one_pos (Nat.le_add_right _ _)
    | false =>
      have hway := way_act h hpending a hstart
      rw [count_cons_toNat] at hsteps
      have hlater := ih (h.act (Ne.symm ha)).1 (hpending.act a hstart) hrest (by omega)
      rw [starts] at hlater
      exact Nat.lt_of_lt_of_le hlater (Nat.le_add_left _ _)

/-! ### Nothing is left of a request that was answered -/

/-- Whether the loop has forgotten all requests when it is about to start a cycle. -/
def HasForgotten (l : Loop) : Prop := l.stage = .starting → l.wake = false

theorem HasForgotten.act (h : l.HasForgotten) (ha : a.isRequest = false)
    (hstart : isStart l a = false) : (l.act a).HasForgotten := by
  obtain ⟨stage, wake, stop⟩ := l
  cases a with
  | trigger | raiseWake => cases ha
  | raiseStop => exact h
  | timeout | start =>
    cases stage with
    | starting => exact h
    | _ => exact nofun
  | advance =>
    cases stage with
    | clearing => exact fun _ => rfl
    | starting => cases hstart
    | waiting => cases wake <;> exact nofun
    | top | checking => cases stop <;> exact nofun
    | cycling | ended => exact nofun

/-- Without a request `wake` stays down. -/
theorem wake_act (h : l.wake = false) (ha : a.isRequest = false) : (l.act a).wake = false := by
  obtain ⟨stage, wake, stop⟩ := l
  obtain rfl : wake = false := h
  cases a with
  | trigger | raiseWake => cases ha
  | raiseStop => rfl
  | advance | timeout | start => cases stage <;> rfl

theorem wake_run (h : l.wake = false) (hacts : acts.any Act.isRequest = false) :
    (l.run acts).wake = false := by
  induction acts generalizing l with
  | nil => exact h
  | cons a rest ih =>
    obtain ⟨ha, hrest⟩ := Bool.or_eq_false_iff.mp hacts
    exact ih (wake_act h ha) hrest

/-- After a start `wake` is up only if there was a request since. -/
theorem HasForgotten.run (h : l.HasForgotten) (hacts : acts.any Act.isRequest = false)
    (hstarts : 0 < starts l acts) : (l.run acts).wake = false := by
  induction acts generalizing l with
  | nil => exact absurd hstarts (Nat.lt_irrefl 0)
  | cons a rest ih =>
    obtain ⟨ha, hrest⟩ := Bool.or_eq_false_iff.mp hacts
    cases hstart : isStart l a with
    | true =>
      have hstage : l.stage = .starting := by
        simpa using (Bool.and_eq_true_iff.mp hstart).2
      have hwake := wake_act (h hstage) ha
      show ((l.act a).run rest).wake = false
      exact wake_run hwake hrest
    | false =>
      rw [starts, times, hstart, Bool.toNat_false, Nat.zero_add] at hstarts
      exact ih (h.act ha hstart) hrest hstarts

/-! ### Stops -/

/-- How many cycles a loop that is stopped can start. -/
def last (l : Loop) : Nat :=
  match l.stage with
  | .clearing | .starting => 1
  | _ => 0

theorem last_act (h : l.stop = true) (hrestart : isRestart l a = false) :
    (isStart l a).toNat + (l.act a).last ≤ l.last ∧ (l.act a).stop = true := by
  obtain ⟨stage, wake, stop⟩ := l
  obtain rfl : stop = true := h
  cases a with
  | trigger | raiseStop | raiseWake => exact ⟨Nat.le_of_eq (Nat.zero_add _), rfl⟩
  | timeout => cases stage <;> exact ⟨Nat.le_refl _, rfl⟩
  | start =>
    cases stage with
    | ended => cases hrestart
    | _ => exact ⟨Nat.le_refl _, rfl⟩
  | advance =>
    cases stage with
    | waiting => cases wake <;> exact ⟨Nat.le_refl _, rfl⟩
    | _ => exact ⟨Nat.le_refl _, rfl⟩

/-- **Once a stop is up at most one more cycle starts**, and the stop stays up. -/
theorem last_run (h : l.stop = true) (hrestart : times isRestart l acts = 0) :
    starts l acts + (l.run acts).last ≤ l.last ∧ (l.run acts).stop = true := by
  induction acts generalizing l with
  | nil => exact ⟨Nat.le_of_eq (Nat.zero_add _), h⟩
  | cons a rest ih =>
    obtain ⟨ha, hrest⟩ := times_eq_zero_cons hrestart
    obtain ⟨hfirst, hstop⟩ := last_act h ha
    obtain ⟨hlast, hrun⟩ := ih hstop hrest
    refine ⟨?_, hrun⟩
    rw [starts, times, run_cons]
    rw [starts] at hlast
    omega

theorem last_le_one (l : Loop) : l.last ≤ 1 := by
  obtain ⟨stage, wake, stop⟩ := l
  cases stage <;> decide +revert

/-- A loop that is stopped and would be woken if it waited. -/
structure IsStopping (l : Loop) : Prop where
  stop : l.stop = true
  woken : l.stage = .waiting → l.wake = true

/-- How many steps of the loop it takes at most until it has ended, once it is stopped. -/
def wayOut (l : Loop) : Nat :=
  match l.stage with
  | .ended => 0
  | .top | .checking => 1
  | .waiting | .cycling => 2
  | .starting => 3
  | .clearing => 4

theorem IsStopping.act (h : l.IsStopping) (hrestart : isRestart l a = false) :
    (l.act a).IsStopping ∧ (l.act a).wayOut ≤ l.wayOut - (a == .advance).toNat := by
  obtain ⟨stage, wake, stop⟩ := l
  obtain ⟨hstop, hwoken⟩ := h
  obtain rfl : stop = true := hstop
  cases a with
  | raiseStop => exact ⟨⟨rfl, hwoken⟩, Nat.le_refl _⟩
  | trigger | raiseWake => exact ⟨⟨rfl, fun _ => rfl⟩, Nat.le_refl _⟩
  | timeout =>
    cases stage with
    | waiting => exact ⟨⟨rfl, nofun⟩, Nat.le_succ 1⟩
    | _ => exact ⟨⟨rfl, nofun⟩, Nat.le_refl _⟩
  | start =>
    cases stage with
    | ended => cases hrestart
    | _ => exact ⟨⟨rfl, hwoken⟩, Nat.le_refl _⟩
  | advance =>
    cases stage with
    | waiting =>
      obtain rfl : wake = true := hwoken rfl
      exact ⟨⟨rfl, nofun⟩, Nat.le_refl _⟩
    | _ => exact ⟨⟨rfl, nofun⟩, Nat.le_refl _⟩

/-- **A stopped loop ends after a few of its steps**, and never waits on. -/
theorem IsStopping.run (h : l.IsStopping) (hrestart : times isRestart l acts = 0) :
    (l.run acts).IsStopping ∧ (l.run acts).wayOut ≤ l.wayOut - acts.count .advance := by
  induction acts generalizing l with
  | nil => exact ⟨h, Nat.le_refl _⟩
  | cons a rest ih =>
    obtain ⟨ha, hrest⟩ := times_eq_zero_cons hrestart
    obtain ⟨hact, hfirst⟩ := h.act ha
    obtain ⟨hrun, hway⟩ := ih hact hrest
    refine ⟨hrun, ?_⟩
    rw [count_cons_toNat, run_cons]
    omega

theorem wayOut_le_four (l : Loop) : l.wayOut ≤ 4 := by
  obtain ⟨stage, wake, stop⟩ := l
  cases stage <;> decide +revert

theorem ended_of_wayOut (h : l.wayOut = 0) : l.stage = .ended := by
  obtain ⟨stage, wake, stop⟩ := l
  cases stage with
  | ended => rfl
  | _ => cases h

/-! ### Any acts in any order -/

/-- While a cycle goes on requests only add up. -/
theorem cycling_act (h : l.stage = .cycling) (ha : a ≠ .advance) :
    (l.act a).stage = .cycling ∧ (l.act a).wake = (l.wake || a.isRequest) := by
  obtain ⟨stage, wake, stop⟩ := l
  obtain rfl : stage = .cycling := h
  cases a with
  | advance => exact absurd rfl ha
  | trigger | raiseWake => exact ⟨rfl, (Bool.or_true wake).symm⟩
  | timeout | raiseStop | start => exact ⟨rfl, (Bool.or_false wake).symm⟩

theorem cycling_run (h : l.stage = .cycling) (hacts : .advance ∉ acts) :
    (l.run acts).stage = .cycling ∧ (l.run acts).wake = (l.wake || acts.any Act.isRequest) := by
  induction acts generalizing l with
  | nil => exact ⟨h, (Bool.or_false _).symm⟩
  | cons a rest ih =>
    obtain ⟨ha, hrest⟩ := not_or.mp (List.mem_cons.not.mp hacts)
    obtain ⟨hstage, hwake⟩ := cycling_act h (Ne.symm ha)
    obtain ⟨hrun, hup⟩ := ih hstage hrest
    exact ⟨hrun, by rw [run_cons, hup, hwake, List.any_cons, Bool.or_assoc]⟩

/-- **The loop loses no request.** Whatever acts come in whatever order:

- when the loop waits with `wake` down, every request has been followed by the start of a cycle;
- requests in a cycle of a loop that is not stopped make one cycle start after at most six steps of
  the loop, without the interval's end; each further one is due to an interval's end or a later
  request, and if `wake` is up after the start, there was a later request;
- once a stop is up at most one more cycle starts before the loop is started anew, and once it has
  woken the loop this never waits on, and ends after at most four of its steps;
- of the cycles that a loop has started at most one is not over;
- a loop that has not ended is not started, and stays as it is. -/
theorem loop_loses_no_request :
    (∀ (l : Loop) (before after : List Act),
      let l' := l.run (before ++ .trigger :: after)
      l'.stage = .waiting → l'.wake = false →
        0 < starts (l.run (before ++ [.trigger])) after) ∧
    (∀ (l : Loop) (during rest : List Act), l.stage = .cycling → l.stop = false →
      .advance ∉ during → .trigger ∈ during → .raiseStop ∉ during ++ rest →
      let l' := l.run during
      (6 ≤ rest.count .advance → 0 < starts l' rest) ∧
        starts l' rest ≤ 1 + rest.count .timeout + rest.countP Act.isRequest ∧
        (0 < starts l' rest → (l'.run rest).wake = true → ∃ a ∈ rest, a.isRequest = true)) ∧
    (∀ (l : Loop) (acts : List Act),
      let l' := l.act .raiseStop
      times isRestart l' acts = 0 → starts l' acts ≤ 1 ∧ (l'.run acts).stop = true) ∧
    (∀ (l : Loop) (between acts : List Act),
      let l' := l.run (.raiseStop :: between ++ [.raiseWake])
      times isRestart l (.raiseStop :: between ++ [.raiseWake] ++ acts) = 0 →
        ((l'.run acts).stage = .waiting → (l'.run acts).wake = true) ∧
        (4 ≤ acts.count .advance → (l'.run acts).stage = .ended)) ∧
    (∀ (wake stop : Bool) (acts : List Act),
      let l := begin wake stop
      starts l acts = times isFinish l acts + ((l.run acts).stage == .cycling).toNat) ∧
    ∀ l : Loop, l.stage ≠ .ended → l.start = (.error .running, l) := by
  refine ⟨starts_of_waiting, ?_, ?_, ?_, ?_, fun l h => if_neg h⟩
  · intro l during rest hstage hstop hgoes hrequest hacts l'
    obtain ⟨hduring, hrest⟩ := not_or.mp (List.mem_append.not.mp hacts)
    have hl : l.IsGoing := ⟨hstop, by rw [hstage]; decide⟩
    have hl' : l'.IsGoing := (hl.run hduring).1
    obtain ⟨hcycling, hwake⟩ := cycling_run hstage hgoes
    have hup : l'.wake = true := by
      rw [hwake, List.any_eq_true.mpr ⟨_, hrequest, rfl⟩, Bool.or_true]
    have hway : l'.way = 6 := by rw [way, hcycling]
    have hahead : l'.ahead = 1 := by rw [ahead, hcycling, hup]; rfl
    have hforgotten : l'.HasForgotten := fun h => absurd (hcycling.symm.trans h) (by decide)
    refine ⟨fun hsteps => ?_, ?_, fun hstarts hpending => ?_⟩
    · exact starts_of_pending hl' (.inl hup) hrest (hway ▸ hsteps)
    · have hbound := ahead_run l' rest
      rw [hahead, (hl'.run hrest).2] at hbound
      omega
    · refine List.any_eq_true.mp (Bool.of_not_eq_false fun hnone => ?_)
      exact absurd (hpending.symm.trans (hforgotten.run hnone hstarts)) (by decide)
  · intro l acts l' hrestart
    obtain ⟨hstarts, hstop⟩ := last_run (l := l') rfl hrestart
    have hlast := last_le_one l'
    exact ⟨by omega, hstop⟩
  · intro l between acts l' hrestart
    rw [times_append] at hrestart
    obtain ⟨hbefore, hafter⟩ := Nat.add_eq_zero_iff.mp hrestart
    rw [times_append] at hbefore
    have hbetween := (times_eq_zero_cons (Nat.add_eq_zero_iff.mp hbefore).1).2
    have hstopped := (last_run (l := l.act .raiseStop) rfl hbetween).2
    have hl' : l' = ((l.act .raiseStop).run between).act .raiseWake := run_append _ _ _
    have hstopping : l'.IsStopping := by
      rw [hl']
      exact ⟨hstopped, fun _ => rfl⟩
    obtain ⟨hrun, hway⟩ := hstopping.run hafter
    refine ⟨hrun.woken, fun hsteps => ended_of_wayOut ?_⟩
    have hfour := wayOut_le_four l'
    omega
  · intro wake stop acts l
    exact inCycle_run l acts

/-- Two requests in the first cycle make one more start, and the loop waits again. A stop in that
cycle ends the loop, though it is started again before it has ended. -/
theorem loop_loses_no_request_twice :
    let l := (begin false false).run [.advance, .advance, .advance]
    let rest : List Act := List.replicate 9 .advance
    l.stage = .cycling ∧ starts (l.run [.trigger, .trigger]) rest = 1 ∧
      ((l.run [.trigger, .trigger]).run rest).stage = .waiting ∧
      ((l.run [.raiseStop, .start, .raiseWake]).run rest).stage = .ended := by
  intro l rest
  obtain ⟨_, hrequests, _, hstops, _, _⟩ := loop_loses_no_request
  obtain ⟨hone, hmost, _⟩ := hrequests l [.trigger, .trigger] rest (by decide) (by decide)
    (by decide) (by decide) (by decide)
  have hstart : starts (l.run [.trigger, .trigger]) rest = 1 :=
    Nat.le_antisymm (Nat.le_trans hmost (by decide)) (hone (by decide))
  exact ⟨by decide, hstart, by decide, (hstops l [.start] rest (by decide)).2 (by decide)⟩

end Loop
end FeeWatch.Monitor
