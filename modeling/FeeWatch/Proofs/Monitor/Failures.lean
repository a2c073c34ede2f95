import FeeWatch.Proofs.Monitor.Emission

/-! Failed fetches leave no trace.

A failed fetch changes the counters of failures, the health, the phase and the desk,
and no cycle that fetched points reads any of these: what it does is decided by the
monitor without them (`calm`). So `failures_leave_no_trace`: without its failed
fetches a run comes to the same window, detector, snapshots and history. -/
namespace FeeWatch.Monitor

open FeeWatch.Fee (Point Snapshot)

variable {α : Type}

/-- Whether the fetch of a cycle returned points. -/
def Turn.isFetched (t : Turn) : Bool := t.outcome.isOk

/-- A monitor that has not seen any failure, and that tells nobody. -/
def calm (m : Monitor α) : Monitor α :=
  { m with
    desk := none
    published := ⟨m.current, { m.status with
      health := .healthy, phase := .idle, consecutiveFailures := 0, totalFailures := 0
      lastError := none }⟩ }

theorem calm_emission (m : Monitor α) (t : Turn) : m.calm.emission t = m.emission t := rfl

theorem after_failed_calm (K : Keeper α) (m : Monitor α) {t : Turn} (h : t.isFetched = false) :
    (m.after K t).calm = m.calm ∧ m.emission t = none := by
  cases m.way K t with
  | failed f fetched made after =>
    rw [after]
    exact ⟨rfl, emission_of_made_eq_none made⟩
  | stuck points f fetched
  | shown points left fetched => simp [Turn.isFetched, fetched, Except.isOk, Except.toBool] at h

theorem after_fetched_calm (K : Keeper α) (m : Monitor α) {t : Turn} (h : t.isFetched = true) :
    (m.after K t).calm = (m.calm.after K t).calm := by
  rw [after, after]
  cases m.way K t with
  | failed f fetched => simp [Turn.isFetched, fetched, Except.isOk, Except.toBool] at h
  | stuck points f fetched digested =>
    have hcalm : (m.calm.digest points).outcome = .error f := digested
    rw [fetched, (cycle_stuck K digested t.now).1, (cycle_stuck K hcalm t.now).1]
    rfl
  | shown points left fetched digested =>
    have hcalm : (m.calm.digest points).outcome = .ok left := digested
    rw [fetched, (cycle_digested K digested t.now).1, (cycle_digested K hcalm t.now).1]
    rfl

/-- Two monitors that agree but for failures do so after a run and the fetched part of it. -/
theorem run_fetched (K : Keeper α) {m n : Monitor α} (h : m.calm = n.calm) (turns : List Turn) :
    (m.run K turns).calm = (n.run K (turns.filter Turn.isFetched)).calm ∧
      emissions K m turns = emissions K n (turns.filter Turn.isFetched) := by
  -- A failed cycle moves `m` on and not `n`, so the two are not one monitor in the induction.
  induction turns generalizing m n with
  | nil => exact ⟨h, rfl⟩
  | cons t rest ih =>
    cases hfetched : t.isFetched with
    | false =>
      obtain ⟨hcalm, hemission⟩ := after_failed_calm K m hfetched
      rw [List.filter_cons_of_neg (by simp [hfetched]), emissions, hemission]
      exact ih (hcalm.trans h)
    | true =>
      have hcalm : (m.after K t).calm = (n.after K t).calm := by
        rw [after_fetched_calm K m hfetched, after_fetched_calm K n hfetched, h]
      have hemission : m.emission t = n.emission t := by
        rw [← calm_emission m t, ← calm_emission n t, h]
      obtain ⟨hrun, hrest⟩ := ih hcalm
      rw [List.filter_cons_of_pos hfetched, emissions, emissions, hemission, hrest]
      exact ⟨hrun, rfl⟩

/-- **Failed fetches do not interfere.** A run and the run without its failed fetches come to the
same window and detector, publish the same snapshots, keep the same history, and have the same
status but for what it says of failures. -/
theorem failures_leave_no_trace (K : Keeper α) (m : Monitor α) (turns : List Turn) :
    let m₁ := m.run K turns
    let m₂ := m.run K (turns.filter Turn.isFetched)
    m₁.window = m₂.window ∧ m₁.detector = m₂.detector ∧
      emissions K m turns = emissions K m (turns.filter Turn.isFetched) ∧
      m₁.current = m₂.current ∧ m₁.archive = m₂.archive ∧
      m₁.status.cyclesCompleted = m₂.status.cyclesCompleted ∧
      m₁.status.market = m₂.status.market ∧ m₁.status.lastSuccess = m₂.status.lastSuccess ∧
      m₁.status.persistenceFailures = m₂.status.persistenceFailures := by
  intro m₁ m₂
  obtain ⟨hcalm, hemissions⟩ := run_fetched K (rfl : m.calm = m.calm) turns
  obtain ⟨_, hwindow, hdetector, hpublished, harchive, _⟩ := Monitor.mk.inj hcalm
  obtain ⟨hcurrent, hstatus⟩ := Published.mk.inj hpublished
  obtain ⟨_, _, hmarket, _, _, htroubles, hcycles, _, hsuccess, _⟩ := Fee.Status.mk.inj hstatus
  exact ⟨hwindow, hdetector, hemissions, hcurrent, harchive, hcycles, hmarket, hsuccess, htroubles⟩

end FeeWatch.Monitor
