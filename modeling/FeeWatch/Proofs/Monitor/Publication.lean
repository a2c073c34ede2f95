import FeeWatch.Proofs.Monitor.Cycle
import FeeWatch.Proofs.Setting
import FeeWatch.Proofs.Window.Aggregates

/-! What a published snapshot says.

A cycle need not publish the snapshot it made: under the policy `onChange` an earlier
one stays when it has the same fees and the same state of the market. `published_states`:
whichever is current after a complete cycle states the points that the window then
holds, no matter how many cycles before it were skipped, failed or ended by a fault. -/
namespace FeeWatch.Monitor

open FeeWatch.Calendar (Instant)
open FeeWatch.Fee (Point Snapshot Market)

variable {α : Type}

/-- What all cycles keep: the settings, and a window in step with its points. -/
structure Steady (settings : Settings) (m : Monitor α) : Prop where
  settings : m.settings = settings
  window : m.window.Sound

theorem make_steady {source : String} {settings : Settings} {archive : Option α}
    {desk : Option Alert.Desk} {m : Monitor α} (h : make source settings archive desk = .ok m) :
    m.Steady settings := by
  unfold make at h
  obtain ⟨_, _, h⟩ := bind_eq_ok.mp h
  obtain ⟨bounds, _, h⟩ := bind_eq_ok.mp h
  obtain ⟨detector, _, h⟩ := bind_eq_ok.mp h
  cases h
  exact ⟨rfl, Window.empty_sound bounds⟩

theorem Course.steady {settings : Settings} {m m' : Monitor α} {outcome : Outcome} {now : Instant}
    {result : Except Fault Result} (h : Course m outcome now result m') (hm : m.Steady settings) :
    m'.Steady settings := by
  refine ⟨h.settings_eq.trans hm.settings, ?_⟩
  rcases h.window_eq with hw | ⟨points, _, hw⟩
  · rw [hw]
    exact hm.window
  · rw [hw]
    exact Window.ingest_sound hm.window points

theorem run_steady {settings : Settings} {m : Monitor α} (K : Keeper α) (hm : m.Steady settings)
    (turns : List Turn) : (m.run K turns).Steady settings := by
  induction turns generalizing m with
  | nil => exact hm
  | cons t rest ih => exact ih ((cycle_course K m t.outcome t.now).steady hm)

/-- A snapshot that states the points of a window, beside a base fee and the state of the market.
Without points its fees are zero. -/
structure States (s : Snapshot) (base : Datum) (w : Window) (market : Market) : Prop where
  base : s.base = base.written
  avg : s.avg = toString (w.fees.sum / w.size)
  min : s.min = toString (w.fees.min?.getD 0)
  max : s.max = toString (w.fees.max?.getD 0)
  market : s.market = market

theorem candidate_states {w : Window} (hw : w.Sound) (settings : Settings) (market : Market)
    (now : Instant) :
    States (candidate settings w market now) settings.baseFee w market where
  base := rfl
  avg := by rw [candidate, hw.agrees.average]; rfl
  min := by rw [candidate, hw.agrees.min]; rfl
  max := by rw [candidate, hw.agrees.max]; rfl
  market := rfl

/-- A snapshot is skipped only beside one that says the same. -/
theorem States.of_emits_eq_false {policy : Policy} {previous : Option Snapshot} {s : Snapshot}
    {base : Datum} {w : Window} {market : Market} (hs : States s base w market)
    (h : emits policy previous s = false) :
    ∃ p, previous = some p ∧ States p base w market := by
  cases previous with
  | none => cases policy <;> cases h
  | some p =>
    have hsame : p.base = s.base ∧ p.min = s.min ∧ p.max = s.max ∧ p.avg = s.avg ∧
        p.market = s.market := by
      cases policy with
      | always => cases h
      | onChange | other given =>
        have h : (!s.sameFees p || p.market != s.market) = false := h
        rw [Bool.or_eq_false_iff, Bool.not_eq_false', Snapshot.sameFees_iff] at h
        obtain ⟨⟨hbase, hmin, hmax, havg⟩, hmarket⟩ := h
        exact ⟨hbase.symm, hmin.symm, hmax.symm, havg.symm, by simpa using hmarket⟩
    obtain ⟨hbase, hmin, hmax, havg, hmarket⟩ := hsame
    exact ⟨p, rfl, hbase.trans hs.base, havg.trans hs.avg, hmin.trans hs.min, hmax.trans hs.max,
      hmarket.trans hs.market⟩

/-- What is current once a monitor has published states its window. -/
theorem Steady.current_states {settings : Settings} {m : Monitor α} (hm : m.Steady settings)
    (now : Instant) :
    ∃ s, (m.kept now).or m.current = some s ∧
      (m.kept now).getD (m.current.getD (m.shown now)) = s ∧
      States s settings.baseFee m.window m.detector.state ∧
      if (m.kept now).isSome then s = m.shown now else m.current = some s := by
  have hstates : States (m.shown now) settings.baseFee m.window m.detector.state := by
    rw [← hm.settings]
    exact candidate_states hm.window m.settings m.detector.state now
  by_cases hemits : emits m.settings.policy m.current (m.shown now) = true
  · have hkept : m.kept now = some (m.shown now) := if_pos hemits
    rw [hkept]
    exact ⟨m.shown now, rfl, rfl, hstates, rfl⟩
  · have hkept : m.kept now = none := if_neg hemits
    obtain ⟨p, hcurrent, hp⟩ := hstates.of_emits_eq_false (Bool.not_eq_true _ |>.mp hemits)
    rw [hkept, hcurrent]
    exact ⟨p, rfl, rfl, hp, rfl⟩

/-- **The snapshot that is current after a complete cycle states the window**, whatever the cycles
before it came to, and the status beside it states the same market. If the cycle published it, its
number of points and its moment are the cycle's own; if not, it was current before. -/
theorem published_states {source : String} {settings : Settings} {archive : Option α}
    {desk : Option Alert.Desk} {m : Monitor α} (K : Keeper α)
    (hmake : make source settings archive desk = .ok m) (turns : List Turn) (t : Turn)
    {ingested evicted : Nat} {s : Snapshot} {emitted : Bool}
    (hresult : ((m.run K turns).cycle K t.outcome t.now).result =
      .ok (.complete ingested evicted s emitted)) :
    let m' := m.run K (turns ++ [t])
    m'.current = some s ∧ States s settings.baseFee m'.window m'.detector.state ∧
      m'.status.market = m'.detector.state ∧
      if emitted then s.count = m'.window.size ∧ s.time = t.now
      else (m.run K turns).current = some s := by
  intro m'
  have hm := run_steady K (make_steady hmake) turns
  have hm' : m' = ((m.run K turns).cycle K t.outcome t.now).monitor := run_concat K m turns t
  have hsteady : m'.Steady settings := run_steady K (make_steady hmake) (turns ++ [t])
  have hcourse := cycle_course K (m.run K turns) t.outcome t.now
  rw [hresult, ← hm'] at hcourse
  generalize m.run K turns = n at *
  cases hcourse with
  | published points left window detector log archive desk troubles _ _ _ monitor result =>
    have htaken : (n.taking window detector).Steady settings := by
      rw [monitor] at hsteady
      exact ⟨hm.settings, hsteady.window⟩
    rcases result with result | ⟨_, result⟩
    · obtain ⟨_, _, hs, hemitted⟩ := Result.complete.inj (Except.ok.inj result)
      obtain ⟨p, hcurrent, hp, hstates, hnew⟩ := htaken.current_states t.now
      obtain rfl : p = s := hp.symm.trans hs.symm
      rw [monitor, hemitted]
      refine ⟨hcurrent, hstates, rfl, ?_⟩
      by_cases hsome : ((n.taking window detector).kept t.now).isSome = true
      · rw [if_pos hsome] at hnew ⊢
        rw [hnew]
        exact ⟨rfl, rfl⟩
      · rw [if_neg hsome] at hnew ⊢
        exact hnew
    · cases result
  | failed f desk _ _ result => rcases result with result | ⟨_, result⟩ <;> cases result
  | unheld points window f _ _ _ result => cases result
  | undetected points left window f _ _ _ _ result => cases result
  | unwritten points left window detector log _ _ _ _ _ result => cases result

/-- A fetch that returns points of given fees, all of one moment. -/
def Turn.ofFees (fees : List Nat) (now : Instant) : Turn :=
  ⟨.ok (fees.map fun fee => ⟨fee, now, "", 0⟩), now⟩

/-- A failed fetch and a point that changes no aggregate: the snapshot of the first cycle, which
was made of two points, states three of them. -/
theorem published_states_skipped :
    let settings : Settings := { maxAge := .null, policy := .onChange }
    let s : Snapshot := ⟨"100", "100", "300", "200", .earliest, 2, .normal⟩
    ∃ m : Monitor History.Store, make "feed" settings none none = .ok m ∧
      let m' := m.run .store [.ofFees [100, 300] .earliest, ⟨.error (.failure .rateLimit), .earliest⟩,
        .ofFees [200] .earliest]
      m'.current = some s ∧ States s settings.baseFee m'.window m'.detector.state := by
  intro settings s
  let turns : List Turn := [.ofFees [100, 300] .earliest, ⟨.error (.failure .rateLimit), .earliest⟩]
  have hresult : (match (make "feed" settings none none : Except _ (Monitor History.Store)) with
      | .ok m => decide (((m.run .store turns).cycle .store (Turn.ofFees [200] .earliest).outcome
          .earliest).result = .ok (.complete 1 0 s false))
      | .error _ => false) = true := by
    decide +kernel
  cases hmake : (make "feed" settings none none : Except _ (Monitor History.Store)) with
  | error f =>
    rw [hmake] at hresult
    cases hresult
  | ok m =>
    rw [hmake] at hresult
    have hstates := published_states .store hmake turns (.ofFees [200] .earliest)
      (of_decide_eq_true hresult)
    exact ⟨m, rfl, hstates.1, hstates.2.1⟩

end FeeWatch.Monitor
